/-! # Reading decimal digits

Digit strings as natural numbers, and a decimal with fraction and exponent as the
nearest double. -/

set_option autoImplicit false

namespace CCheck.Decimal

def digitValue (c:Char) : Nat :=
 if c.isDigit then c.toNat - '0'.toNat
 else if c.isLower then c.toNat - 'a'.toNat + 10
 else c.toNat - 'A'.toNat + 10

def ofDigits (base:Nat) (ds:List Char) : Nat :=
 ds.foldl (fun n c => n * base + digitValue c) 0

/-- The double nearest to `0.d₁d₂… * 10 ^ point`. Beyond `10 ^ 310` every such number
rounds to infinity and below `10 ^ -400` to zero, so the power is held to that range. -/
def nearest (digits:List Char) (point:Int) : Float :=
 let ds := digits.dropWhile (· == '0')
 let lead : Int := point - (digits.length - ds.length : Nat)
 if ds.isEmpty then 0
 else
  let e : Int := max (-400) (min 400 lead) - ds.length
  Float.ofScientific (ofDigits 10 ds) (e < 0) e.natAbs

def value (whole fraction:List Char) (negative:Bool) (power:List Char) : Float :=
 let p : Int := ofDigits 10 power
 nearest (whole ++ fraction) (whole.length + if negative then -p else p)

end CCheck.Decimal
