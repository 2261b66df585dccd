import CCheck.Lexeme.Gap
import CCheck.Lexeme.Quote

/-! # Lexemes

`lexeme` reads the one token that a text starting with a character other than a blank
begins with: a word, a number, a quoted text, or the longest punctuator. -/

set_option autoImplicit false

namespace CCheck.Lexeme

def startsWord (c:Char) : Bool := c.isAlpha || c == '_'

def startsNumber (c:Char) (cs:List Char) : Bool :=
 c.isDigit || (c == '.' && match cs with
  | d :: _ => d.isDigit
  | [] => false)

def wordKind (s:String) : TokenKind :=
 match Keyword.ofText? s with
 | some k => .keyword k
 | none => .ident s

def punctuator (c:Char) (cs:List Char) : Reading :=
 match Punctuator.longest? (c :: cs) with
 | some p => .ok (.punct p,p.text.length)
 | none => .error (.unknownCharacter c,1)

def lexeme (c:Char) (cs:List Char) : Reading :=
 if startsWord c then
  let w := word (c :: cs)
  .ok (wordKind (String.ofList w),w.length)
 else if startsNumber c cs then number (c :: cs)
 else if c = '"' then stringLiteral cs
 else if c = '\'' then charConstant cs
 else punctuator c cs

end CCheck.Lexeme
