import CCheck.Fault
import CCheck.Token
import CCheck.Decimal.Reading

/-! # Numeric constants as spelled

`number` reads the constant at the head of a text that starts like one. Whatever
letters, digits and underscores follow the digits form the suffix, which must be one of
the known ones. The answer, good or bad, says how many characters it covers. -/

set_option autoImplicit false

namespace CCheck.Lexeme

abbrev Reading := Except (Cause × Nat) (TokenKind × Nat)

def isHexDigit (c:Char) : Bool :=
 c.isDigit || ('a' ≤ c && c ≤ 'f') || ('A' ≤ c && c ≤ 'F')

def isOctalDigit (c:Char) : Bool := '0' ≤ c && c ≤ '7'

def isWordChar (c:Char) : Bool := c.isAlphanum || c == '_'

def word (cs:List Char) : List Char := cs.takeWhile isWordChar

/-- Reads at most one `u` and at most one `l` or doubled `l`, in either order, on top
of what was seen before. -/
def intSuffixFrom : Bool → Nat → List Char → Option (Bool × Nat)
 | u, l, [] => some (u,l)
 | u, l, c :: cs =>
  if (c = 'u' ∨ c = 'U') ∧ u = false then intSuffixFrom true l cs
  else if (c = 'l' ∨ c = 'L') ∧ l = 0 then
   match cs with
   | d :: ds => if d = c then intSuffixFrom u 2 ds else intSuffixFrom u 1 (d :: ds)
   | [] => some (u,1)
  else none

def intSuffix? (cs:List Char) : Option (Bool × Nat) := intSuffixFrom false 0 cs

def flawed (cs:List Char) (length:Nat) (flaw:NumberFlaw) : Reading :=
 .error (.invalidNumber (String.ofList (cs.take length)) flaw,length)

def integer (cs digits:List Char) (radix:Radix) (length:Nat) : Reading :=
 let suffix := word (cs.drop length)
 let total := length + suffix.length
 match intSuffix? suffix with
 | none => flawed cs total (.integerSuffix (String.ofList suffix))
 | some (isUnsigned,longs) =>
  let value := Decimal.ofDigits radix.base digits
  if value < UInt64.size then
   .ok (.int ⟨UInt64.ofNat value,radix,isUnsigned,longs⟩,total)
  else .error (.integerTooLarge (String.ofList (cs.take total)),total)

def floatSuffix? : List Char → Option FloatSuffix
 | [] => some .plain
 | ['f'] | ['F'] => some .float
 | ['l'] | ['L'] => some .long
 | _ => none

/-- The floating constant with the given value whose spelling, but for the suffix,
fills the first `length` characters of `cs`. -/
def floating (cs:List Char) (value:Float) (length:Nat) : Reading :=
 let suffix := word (cs.drop length)
 let total := length + suffix.length
 match floatSuffix? suffix with
 | none => flawed cs total (.floatSuffix (String.ofList suffix))
 | some s => .ok (.float ⟨value,s⟩,total)

structure Exponent where
 negative : Bool
 digits : List Char
 length : Nat

def exponent (cs:List Char) : Exponent :=
 match cs with
 | '+' :: ds => ⟨false,ds.takeWhile Char.isDigit,(ds.takeWhile Char.isDigit).length + 1⟩
 | '-' :: ds => ⟨true,ds.takeWhile Char.isDigit,(ds.takeWhile Char.isDigit).length + 1⟩
 | ds => ⟨false,ds.takeWhile Char.isDigit,(ds.takeWhile Char.isDigit).length⟩

def fraction? : List Char → Option (List Char)
 | '.' :: ds => some (ds.takeWhile Char.isDigit)
 | _ => none

def startsExponent : List Char → Bool
 | c :: _ => c == 'e' || c == 'E'
 | [] => false

def plainInteger (cs whole:List Char) : Reading :=
 match whole with
 | '0' :: d :: ds =>
  match (d :: ds).find? (fun c => c == '8' || c == '9') with
  | some bad => flawed cs whole.length (.octalDigit bad)
  | none => integer cs (d :: ds) .octal whole.length
 | _ => integer cs whole .decimal whole.length

def decimal (cs:List Char) : Reading :=
 let whole := cs.takeWhile Char.isDigit
 let fraction := fraction? (cs.drop whole.length)
 let body := whole.length + (fraction.map (·.length + 1)).getD 0
 let after := cs.drop body
 if startsExponent after then
  let e := exponent (after.drop 1)
  if e.digits.isEmpty then flawed cs (body + 1) .noExponentDigits
  else
   floating cs (Decimal.value whole (fraction.getD []) e.negative e.digits)
    (body + 1 + e.length)
 else
  match fraction with
  | some ds => floating cs (Decimal.value whole ds false []) body
  | none => plainInteger cs whole

def hexadecimal (cs:List Char) : Reading :=
 let digits := (cs.drop 2).takeWhile isHexDigit
 if digits.isEmpty then flawed cs 2 .noHexDigits
 else integer cs digits .hex (2 + digits.length)

def number (cs:List Char) : Reading :=
 match cs with
 | '0' :: 'x' :: _ | '0' :: 'X' :: _ => hexadecimal cs
 | _ => decimal cs

end CCheck.Lexeme
