/-! # Shortest decimals of a double

A finite positive double is `m * 2 ^ q`, and the reals that round to it form an
interval around it, whose ends belong to it when `m` is even. `shortest` looks for the
coarsest decimal grid that has a point in the interval, among the two grid points next
to the value, and takes the nearer one; of two equally near ones it takes the upper. -/

set_option autoImplicit false

namespace CCheck.Decimal

structure Scaled where
 digits : Nat
 exponent : Int
deriving DecidableEq, Repr

/-- A positive double with its neighbourhood: the fractions `low / scale`,
`mid / scale` and `high / scale` are the lower end, the value and the upper end. -/
structure Neighbourhood where
 low : Nat
 mid : Nat
 high : Nat
 scale : Nat
 closed : Bool
deriving DecidableEq, Repr

/-- The neighbourhood of the double `m * 2 ^ q`. Below a power of two the gap to the
next smaller double is half as wide, unless the exponent is already the least. -/
def neighbourhood (m:Nat) (q:Int) (narrow:Bool) : Neighbourhood :=
 let low := 4 * m - (if narrow then 1 else 2)
 let e := q - 2
 if 0 ≤ e then
  let p := Nat.pow 2 e.toNat
  ⟨low * p,4 * m * p,(4 * m + 2) * p,1,m % 2 == 0⟩
 else
  ⟨low,4 * m,4 * m + 2,Nat.pow 2 (-e).toNat,m % 2 == 0⟩

def fractionSize : Nat := 0x10000000000000

def ofBits (bits:UInt64) : Neighbourhood :=
 let fraction : Nat := bits.toNat % fractionSize
 let biased : Nat := bits.toNat / fractionSize % 2048
 if biased = 0 then neighbourhood fraction (-1074) false
 else
  neighbourhood (fractionSize + fraction) ((biased:Int) - 1075) (fraction == 0 && biased != 1)

namespace Neighbourhood

def holds (v:Neighbourhood) (n d:Nat) : Bool :=
 let a := n * v.scale
 if v.closed then v.low * d ≤ a && a ≤ v.high * d
 else v.low * d < a && a < v.high * d

/-- The nearer of the two multiples of `10 ^ g` next to the value, if one of them
rounds to it. -/
def onGrid (v:Neighbourhood) (g:Int) : Option Nat :=
 let up := if 0 ≤ g then Nat.pow 10 g.toNat else 1
 let down := if 0 ≤ g then 1 else Nat.pow 10 (-g).toNat
 let below := v.mid * down / (up * v.scale)
 let distBelow := v.mid * down - below * up * v.scale
 let distAbove := (below + 1) * up * v.scale - v.mid * down
 match v.holds (below * up) down, v.holds ((below + 1) * up) down with
 | true, true => some (if distBelow < distAbove then below else below + 1)
 | true, false => some below
 | false, true => some (below + 1)
 | false, false => none

def magnitude (v:Neighbourhood) : Int :=
 let whole := v.mid / v.scale
 if whole = 0 then -(search 400 1) else (Nat.toDigits 10 whole).length - 1
where
 search : Nat → Nat → Int
  | 0, k => k
  | fuel + 1, k => if v.scale ≤ v.mid * Nat.pow 10 k then k else search fuel (k + 1)

end Neighbourhood

def Scaled.strip (fuel:Nat) (x:Scaled) : Scaled :=
 match fuel with
 | 0 => x
 | fuel + 1 =>
  if x.digits ≠ 0 ∧ x.digits % 10 = 0 then
   Scaled.strip fuel ⟨x.digits / 10,x.exponent + 1⟩
  else x

def firstHit (v:Neighbourhood) (top:Int) : Nat → Nat → Scaled
 | 0, _ => ⟨0,0⟩
 | fuel + 1, i =>
  match v.onGrid (top - i) with
  | some d => Scaled.strip 20 ⟨d,top - i⟩
  | none => firstHit v top fuel (i + 1)

/-- The shortest decimal that reads back as the double with the given bits, which is
neither zero nor infinite. -/
def shortest (bits:UInt64) : Scaled :=
 let v := ofBits bits
 firstHit v v.magnitude 19 0

end CCheck.Decimal
