import CCheck.Lexeme.Number

/-! # Character constants and string literals

An escape stands for one character. A backslash before a newline joins two lines of a
string literal and stands for none. -/

set_option autoImplicit false

namespace CCheck.Lexeme

def byteChar (n:UInt32) : Char := Char.ofNat (n &&& 0xFF).toNat

/-- The digits of a code as a number of 32 bits; what does not fit is lost at the upper end. -/
def codeOf (base:UInt32) (ds:List Char) : UInt32 :=
 ds.foldl (fun n d => n * base + .ofNat (Decimal.digitValue d)) 0

/-- The character that the text after a backslash stands for, and how much of the text
spells it. Octal escapes have up to three digits, hexadecimal ones any number, and a
letter without a meaning stands for itself. -/
def escape? : List Char → Option (Char × Nat)
 | [] => none
 | c :: cs =>
  match c with
  | 'n' => some ('\n',1)
  | 't' => some ('\t',1)
  | 'r' => some ('\r',1)
  | 'a' => some ('\x07',1)
  | 'b' => some ('\x08',1)
  | 'f' => some ('\x0c',1)
  | 'v' => some ('\x0b',1)
  | 'x' =>
   let digits := cs.takeWhile isHexDigit
   some (byteChar (codeOf 16 digits),digits.length + 1)
  | _ =>
   if isOctalDigit c then
    let more := (cs.take 2).takeWhile isOctalDigit
    some (byteChar (codeOf 8 (c :: more)),more.length + 1)
   else some (c,1)

/-- What a quoted text holds and its length with the closing quote; or, if it never
closes, the length up to where it breaks off. -/
abbrev Body (α:Type) := Except Nat (α × Nat)

def Body.after {α:Type} (n:Nat) (f:α → α) : Body α → Body α
 | .ok (a,k) => .ok (f a,k + n)
 | .error k => .error (k + n)

def stringBody : List Char → Body (List Char)
 | [] => .error 0
 | c :: cs =>
  if c = '\n' then .error 0
  else if c = '"' then .ok ([],1)
  else if c = '\\' then
   match cs with
   | '\n' :: ds => (stringBody ds).after 2 id
   | ds =>
    match escape? ds with
    | none => .error 1
    | some (e,n) => (stringBody (ds.drop n)).after (n + 1) (e :: ·)
  else (stringBody cs).after 1 (c :: ·)
termination_by cs => cs.length
decreasing_by all_goals (subst_vars; simp only [List.length_drop,List.length_cons]; omega)

def charBody : List Char → Body (Option Char)
 | [] => .error 0
 | c :: cs =>
  if c = '\n' then .error 0
  else if c = '\'' then .ok (none,1)
  else if c = '\\' then
   match escape? cs with
   | none => .error 1
   | some (e,n) => (charBody (cs.drop n)).after (n + 1) fun _ => some e
  else (charBody cs).after 1 fun _ => some c
termination_by cs => cs.length
decreasing_by all_goals (subst_vars; simp only [List.length_drop,List.length_cons]; omega)

def stringLiteral (cs:List Char) : Reading :=
 match stringBody cs with
 | .ok (value,n) => .ok (.string (String.ofList value),n + 1)
 | .error n => .error (.unterminatedString,n + 1)

def charConstant (cs:List Char) : Reading :=
 match charBody cs with
 | .ok (some c,n) => .ok (.char c.toNat,n + 1)
 | .ok (none,n) => .error (.emptyChar,n + 1)
 | .error n => .error (.unterminatedChar,n + 1)

end CCheck.Lexeme
