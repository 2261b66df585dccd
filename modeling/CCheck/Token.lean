import CCheck.Span
import CCheck.Token.Keyword
import CCheck.Token.Punctuator
import CCheck.Token.Literal
import CCheck.Decimal.Layout
import CCheck.Text.Quoted

/-! # Tokens

A token is a kind with its payload, the source text it was read from, and its span. -/

set_option autoImplicit false

namespace CCheck

inductive TokenKind where
 | keyword (k:Keyword)
 | punct (p:Punctuator)
 | ident (name:String)
 | int (n:IntLiteral)
 | float (x:FloatLiteral)
 | char (code:Nat)
 | string (value:String)
 | eof
 | error
deriving DecidableEq, Repr

namespace TokenKind

def isEof : TokenKind → Bool
 | eof => true
 | _ => false

def codeText (n:Nat) : String :=
 if n < 16 then "0" ++ Text.hexText n else Text.hexText n

def text : TokenKind → String
 | keyword k => k.text
 | punct p => p.text
 | ident name => name
 | int n => toString n.value.toNat
 | float x => Decimal.Layout.message.text x.value
 | char code => "'\\x" ++ codeText code ++ "'"
 | string value => Text.quoted value
 | eof => "<eof>"
 | error => "<error>"

def describe : TokenKind → String
 | ident name => "identifier '" ++ name ++ "'"
 | int n => "integer constant " ++ toString n.value.toNat
 | float x => "floating constant " ++ Decimal.Layout.message.text x.value
 | char _ => "character constant"
 | string _ => "string literal"
 | eof => "end of file"
 | error => "invalid token"
 | k => "'" ++ k.text ++ "'"

def isKeyword : TokenKind → Bool
 | keyword _ => true
 | _ => false

def isDeclarationKeyword : TokenKind → Bool
 | keyword k => k.startsDeclaration
 | _ => false

def isTypeNameKeyword : TokenKind → Bool
 | keyword k => k.startsTypeName
 | _ => false

def isAssignment : TokenKind → Bool
 | punct p => p.isAssignment
 | _ => false

def precedence? : TokenKind → Option Nat
 | punct p => p.precedence?
 | _ => none

end TokenKind

structure Token where
 kind : TokenKind
 text : String
 span : Span
deriving DecidableEq, Repr

namespace Token

def eof (span:Span) : Token := ⟨.eof,"",span⟩

end Token

end CCheck
