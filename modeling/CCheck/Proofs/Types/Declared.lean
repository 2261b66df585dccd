import CCheck.Proofs.Checking.PointOfDeclaration

/-! # The types of declared objects

A declared object has the type that its declarator gives it, with the length of an array taken from
the initializer where it is left out. -/

set_option autoImplicit false

namespace CCheck

open Check

variable {c d:Checker}

def Initializer.extent (elem:CType) : Initializer → Nat
 | .expr (.literal (.string text _)) => text.length + 1
 | .expr _ => 0
 | .list items _ =>
  match bracedString? elem items with
  | some (text,_) => text.length + 1
  | none => items.length

inductive InitializedAs (t:CType) (i:Initializer) : CType → Prop
 | same : InitializedAs t i t
 | counted {elem:CType} (h:t.kind = .array elem none false) :
   InitializedAs t i ((CType.array elem (some (i.extent elem))).qualify t.quals)

lemma eq_array_of_unsized {t:CType} (h:t.isUnsizedArray = true) :
  ∃ elem q, t = ⟨.array elem none false,q⟩ := by
 obtain ⟨k,q⟩:=t
 cases k with
 | array elem length vla =>
  cases length with
  | none =>
   cases vla with
   | false => exact ⟨elem,q,rfl⟩
   | true => cases h
  | some n => cases h
 | _ => cases h

lemma initializedAs_stringInitializer {elem:CType} {q:Qualifiers} {i:Initializer}
  {text:String} (hi:i.extent elem = text.length + 1) (span:Span) (c:Checker) :
  Ensures (stringInitializer ⟨.array elem none false,q⟩ elem none text span) c fun u _ =>
   InitializedAs ⟨.array elem none false,q⟩ i u :=
 ensures_pure (hi ▸ .counted rfl)

lemma initializedAs_checkInitializer (t:CType) (i:Initializer) (c:Checker) :
  Ensures (checkInitializer t i) c fun u _ => InitializedAs t i u := by
 by_cases hunsized : t.isUnsizedArray = true
 · obtain ⟨elem,q,rfl⟩:=eq_array_of_unsized hunsized
   have hfixed:¬isRunTimeArray ⟨.array elem none false,q⟩ = true:=Bool.false_ne_true
   cases i with
   | expr e =>
    rw [checkInitializer,if_neg hfixed]
    unfold plainInitializer
    dsimp only
    split
    · split
      · exact initializedAs_stringInitializer rfl _ _
      · exact ensures_fail _ _
    · exact ensures_fail _ _
   | list items span =>
    unfold checkInitializer
    rw [if_neg hfixed]
    dsimp only
    split
    · rename_i text place hstring
      exact initializedAs_stringInitializer (by rw [Initializer.extent,hstring]) _ _
    · rename_i hstring
      have hextent:(Initializer.list items span).extent elem = items.length := by
       rw [Initializer.extent,hstring]
      exact ensures_bind fun _ _ _ => ensures_pure (hextent ▸ .counted rfl)
 · rw [Bool.not_eq_true] at hunsized
   intro u d hu
   exact checkInitializer_type hunsized i c u d hu ▸ .same

lemma initializedAs_initializedType (dcl:VarDecl) (t:CType) (c:Checker) :
  Ensures (initializedType dcl t) c fun u _ =>
   u = t ∨ ∃ i, dcl.init = some i ∧ InitializedAs t i u := by
 unfold initializedType
 split
 · exact ensures_pure (.inl rfl)
 · rename_i i hinit
   refine ensures_bind fun b _ _ => ?_
   split
   · exact ensures_fail _ _
   · exact fun u d hu => .inr ⟨i,hinit,initializedAs_checkInitializer t i _ u d hu⟩

lemma InitializedAs.isFunction {t u:CType} {i:Initializer} (h:InitializedAs t i u) :
  u.isFunction = t.isFunction := by
 cases h with
 | same => rfl
 | counted h =>
  unfold CType.isFunction
  rw [h]
  rfl

end CCheck
