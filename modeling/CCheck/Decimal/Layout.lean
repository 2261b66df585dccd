import CCheck.Decimal.Shortest

/-! # Written forms of a double

Two layouts of the shortest decimal: the one used inside messages never has an
exponent, the one used in a dump of the tree marks every double as such. -/

set_option autoImplicit false

namespace CCheck.Decimal

/-- Whether a whole number keeps a fraction `.0`, and the range of magnitudes that is
written without an exponent. -/
structure Layout where
 pointed : Bool
 positional : Int → Bool

def Layout.message : Layout := ⟨false,fun _ => true⟩

/-- A point in every whole number, and an exponent below `10 ^ -4` and from `10 ^ 16`. -/
def Layout.dump : Layout := ⟨true,fun k => -4 ≤ k && k < 16⟩

def zeros (n:Nat) : String := String.ofList (List.replicate n '0')

def positionalText (pointed:Bool) (x:Scaled) : String :=
 let ds := toString x.digits
 let n : Int := ds.length
 if 0 ≤ x.exponent then ds ++ zeros x.exponent.toNat ++ (if pointed then ".0" else "")
 else if 0 < n + x.exponent then
  let cut := (n + x.exponent).toNat
  String.ofList (ds.toList.take cut) ++ "." ++ String.ofList (ds.toList.drop cut)
 else "0." ++ zeros (-(n + x.exponent)).toNat ++ ds

def exponentText (x:Scaled) : String :=
 let ds := (toString x.digits).toList
 let power : Int := x.exponent + ds.length - 1
 String.ofList (ds.take 1) ++ (if ds.length = 1 then "" else "." ++ String.ofList (ds.drop 1))
  ++ "e" ++ toString power

def Layout.text (l:Layout) (x:Float) : String :=
 let bits := x.toBits
 if bits = 0 then (if l.pointed then "0.0" else "0")
 else if bits = 0x7ff0000000000000 then "inf"
 else
  let d := shortest bits
  if l.positional (d.exponent + (toString d.digits).length - 1) then
   positionalText l.pointed d
  else exponentText d

end CCheck.Decimal
