import CCheck.Registry
import Mathlib.Data.Nat.Prime.Basic
import Mathlib.Order.Bounds.Basic

/-! # Sizes and alignments of types

The size of a type is the exact one, found without a limit, as long as no array in it is
larger than an object can be. -/

set_option autoImplicit false

namespace CCheck

variable {align id value:Nat} {d:RecordDef}

/-! ### Rounding -/

def roundUp (value align:Nat) : Nat := (value + (align - 1)) / align * align

lemma dvd_roundUp (value align:Nat) : align ∣ roundUp value align := Nat.dvd_mul_left _ _

lemma le_roundUp (value:Nat) (h:0 < align) : value ≤ roundUp value align := by
 have hmod:=Nat.mod_lt (value + (align - 1)) h
 have hdiv:=Nat.div_add_mod' (value + (align - 1)) align
 unfold roundUp
 omega

lemma roundUp_mono {value':Nat} (align:Nat) (h:value ≤ value') :
  roundUp value align ≤ roundUp value' align :=
 Nat.mul_le_mul_right _ (Nat.div_le_div_right (Nat.add_le_add_right h _))

lemma isLeast_roundUp (value:Nat) (h:0 < align) :
  IsLeast {n | align ∣ n ∧ value ≤ n} (roundUp value align) := by
 refine ⟨⟨dvd_roundUp value align,le_roundUp value h⟩,?_⟩
 rintro n ⟨⟨k,rfl⟩,hn⟩
 have hround:roundUp (align * k) align = align * k := by
  have hdiv:(align - 1 + align * k) / align = k := by
   rw [Nat.add_mul_div_left _ _ h,Nat.div_eq_of_lt (by omega),Nat.zero_add]
  unfold roundUp
  rw [Nat.add_comm,hdiv,Nat.mul_comm]
 calc roundUp value align ≤ roundUp (align * k) align := roundUp_mono align hn
   _ = align * k := hround

lemma alignUp?_eq (h:0 < align)
  (hfits:value + (align - 1) < UInt64.size) :
  alignUp? value align = some (roundUp value align) := by
 unfold alignUp? roundUp
 by_cases hone : align ≤ 1
 · obtain rfl : align = 1 := by omega
   simp
 · rw [if_neg hone,if_pos hfits]

structure Bounds (size align:Nat) : Prop where
 align_dvd : align ∣ 16
 size_dvd : align ∣ size
 size_le : size ≤ maxObjectSize

/-- The end of an object that stands after another one fits a word. Each of the two may take
up half of all words, and there may be padding between them; but then the second size is a
multiple of the alignment. -/
lemma roundUp_add_lt {size:Nat} (h:value ≤ maxObjectSize)
  (hsize:Bounds size align) : roundUp value align + size < UInt64.size := by
 obtain ⟨halign,⟨m,rfl⟩,hle⟩:=hsize
 -- with a number for the alignment, what is left is linear
 obtain ⟨k,hk,rfl⟩:=(Nat.dvd_prime_pow Nat.prime_two (m := 4)).mp halign
 unfold maxObjectSize at h hle
 unfold roundUp UInt64.size
 obtain rfl | rfl | rfl | rfl | rfl : k = 0 ∨ k = 1 ∨ k = 2 ∨ k = 3 ∨ k = 4 := by omega
 all_goals omega

lemma objectSize?_eq_some {n m:Nat} : objectSize? n = some m ↔ n = m ∧ n ≤ maxObjectSize := by
 unfold objectSize?
 by_cases h : n ≤ maxObjectSize
 · simp [h]
 · simp [h]

/-! ### Types without their arrays -/

lemma CType.elementInduction {P:CType → Prop}
  (array:∀ elem length vla q, P elem → P ⟨.array elem length vla,q⟩)
  (other:∀ t : CType, t.isArray = false → P t) : ∀ t, P t
 | ⟨.array elem length vla,q⟩ => array elem length vla q (elementInduction array other elem)
 | ⟨.void,_⟩ => other _ rfl
 | ⟨.bool,_⟩ => other _ rfl
 | ⟨.int _ _,_⟩ => other _ rfl
 | ⟨.float _,_⟩ => other _ rfl
 | ⟨.pointer _,_⟩ => other _ rfl
 | ⟨.function _,_⟩ => other _ rfl
 | ⟨.record _,_⟩ => other _ rfl
termination_by structural t => t

def elementCount (length:Option Nat) (vla:Bool) : Nat :=
 match length, vla with
 | some n, false => n
 | _, _ => 0

namespace Registry

variable {r:Registry} {t:CType} {n a:Nat}

lemma sizeOf?_array (elem:CType) (length:Option Nat) (vla:Bool) (q:Qualifiers) :
  r.sizeOf? ⟨.array elem length vla,q⟩ =
   (r.sizeOf? elem).bind fun n => objectSize? (n * elementCount length vla) := by
 cases length <;> cases vla <;> rfl

def exactSize? (r:Registry) : CType → Option Nat
 | ⟨.array elem length vla,_⟩ => (r.exactSize? elem).map (· * elementCount length vla)
 | t => r.sizeOf? t
termination_by structural t => t

def Fits (r:Registry) : CType → Prop
 | ⟨.array elem length vla,_⟩ =>
  r.Fits elem ∧ ∀ n ∈ r.exactSize? elem, n * elementCount length vla ≤ maxObjectSize
 | _ => True
termination_by structural t => t

lemma exactSize?_of_not_array (h:t.isArray = false) : r.exactSize? t = r.sizeOf? t := by
 obtain ⟨k,q⟩:=t
 cases k with
 | array => cases h
 | _ => rfl

lemma fits_of_not_array (h:t.isArray = false) : r.Fits t := by
 obtain ⟨k,q⟩:=t
 cases k with
 | array => cases h
 | _ => trivial

lemma sizeOf?_eq_some_iff : r.sizeOf? t = some n ↔ r.exactSize? t = some n ∧ r.Fits t := by
 induction t using CType.elementInduction generalizing n with
 | other t h => simp [exactSize?_of_not_array h,fits_of_not_array h]
 | array elem length vla q ih =>
  rw [sizeOf?_array,Option.bind_eq_some_iff]
  unfold exactSize? Fits
  constructor
  · rintro ⟨m,hm,hn⟩
    obtain ⟨hexact,hfits⟩:=ih.mp hm
    obtain ⟨rfl,hle⟩:=objectSize?_eq_some.mp hn
    simp [hexact,hfits,hle]
  · rintro ⟨hmap,hfits,hle⟩
    obtain ⟨m,hexact,rfl⟩:=Option.map_eq_some_iff.mp hmap
    exact ⟨m,ih.mpr ⟨hexact,hfits⟩,objectSize?_eq_some.mpr ⟨rfl,hle m hexact⟩⟩

lemma exists_complete {g:RecordDef → Nat}
  (h:((r.get? id).bind fun d => if d.isComplete then some (g d) else none) = some n) :
  ∃ d, r.get? id = some d ∧ d.isComplete = true ∧ g d = n := by
 obtain ⟨d,hd,hg⟩:=Option.bind_eq_some_iff.mp h
 by_cases hcomplete : d.isComplete = true
 · rw [if_pos hcomplete] at hg
   exact ⟨d,hd,hcomplete,Option.some.inj hg⟩
 · rw [if_neg hcomplete] at hg
   cases hg

lemma sizeOf?_record (q:Qualifiers) (hd:r.get? id = some d)
  (hcomplete:d.isComplete = true) : r.sizeOf? ⟨.record id,q⟩ = some d.size := by
 simp [sizeOf?,kindSize?,hd,hcomplete]

lemma alignOf?_record (q:Qualifiers) (hd:r.get? id = some d)
  (hcomplete:d.isComplete = true) : r.alignOf? ⟨.record id,q⟩ = some d.align := by
 simp [alignOf?,kindAlign?,hd,hcomplete]

lemma isComplete_record_iff {q:Qualifiers} : r.isComplete ⟨.record id,q⟩ = true ↔
  ∃ d, r.get? id = some d ∧ d.isComplete = true :=
 Option.any_eq_true _ _

lemma exists_alignOf? (h:r.sizeOf? t = some n) : ∃ a, r.alignOf? t = some a := by
 induction t using CType.elementInduction generalizing n with
 | other t hother =>
  obtain ⟨k,q⟩:=t
  cases k with
  | array => cases hother
  | record id =>
   obtain ⟨d,hd,hcomplete,-⟩:=exists_complete (g := RecordDef.size) h
   exact ⟨d.align,alignOf?_record q hd hcomplete⟩
  | _ => exact ⟨n,h⟩
 | array elem length vla q ih =>
  rw [sizeOf?_array] at h
  obtain ⟨m,hm,-⟩:=Option.bind_eq_some_iff.mp h
  exact ih hm

def Bounded (r:Registry) : Prop :=
 ∀ id d, r.get? id = some d → d.isComplete = true → Bounds d.size d.align

namespace Bounded

lemma sizeOf?_le (hr:r.Bounded) (h:r.sizeOf? t = some n) : n ≤ maxObjectSize := by
 obtain ⟨k,q⟩:=t
 cases k with
 | void => cases h
 | function => cases h
 | bool => cases h; decide
 | int rank signed => cases h; cases rank <;> decide
 | float kind => cases h; cases kind <;> decide
 | pointer => cases h; decide
 | array elem length vla =>
  rw [sizeOf?_array] at h
  obtain ⟨m,-,hm⟩:=Option.bind_eq_some_iff.mp h
  obtain ⟨rfl,hle⟩:=objectSize?_eq_some.mp hm
  exact hle
 | record id =>
  obtain ⟨d,hd,hcomplete,rfl⟩:=exists_complete (g := RecordDef.size) h
  exact (hr id d hd hcomplete).size_le

lemma alignOf?_dvd (hr:r.Bounded) (h:r.alignOf? t = some a) : a ∣ 16 := by
 induction t using CType.elementInduction with
 | array elem length vla q ih => exact ih h
 | other t hother =>
  obtain ⟨k,q⟩:=t
  cases k with
  | array => cases hother
  | void => cases h
  | function => cases h
  | bool => cases h; decide
  | int rank signed => cases h; cases rank <;> decide
  | float kind => cases h; cases kind <;> decide
  | pointer => cases h; decide
  | record id =>
   obtain ⟨d,hd,hcomplete,rfl⟩:=exists_complete (g := RecordDef.align) h
   exact (hr id d hd hcomplete).align_dvd

lemma alignOf?_dvd_sizeOf? (hr:r.Bounded) (hn:r.sizeOf? t = some n)
  (ha:r.alignOf? t = some a) : a ∣ n := by
 induction t using CType.elementInduction generalizing n with
 | array elem length vla q ih =>
  rw [sizeOf?_array] at hn
  obtain ⟨m,hm,hn⟩:=Option.bind_eq_some_iff.mp hn
  obtain ⟨rfl,-⟩:=objectSize?_eq_some.mp hn
  exact Nat.dvd_mul_right_of_dvd (ih hm ha) _
 | other t hother =>
  obtain ⟨k,q⟩:=t
  cases k with
  | array => cases hother
  | record id =>
   obtain ⟨d,hd,hcomplete,rfl⟩:=exists_complete (g := RecordDef.size) hn
   rw [alignOf?_record q hd hcomplete] at ha
   obtain rfl:=Option.some.inj ha
   exact (hr id d hd hcomplete).size_dvd
  | _ =>
   obtain rfl : n = a:=Option.some.inj (hn.symm.trans ha)
   exact Nat.dvd_refl n

lemma bounds (hr:r.Bounded) (hn:r.sizeOf? t = some n) (ha:r.alignOf? t = some a) :
  Bounds n a :=
 ⟨hr.alignOf?_dvd ha,hr.alignOf?_dvd_sizeOf? hn ha,hr.sizeOf?_le hn⟩

lemma align_pos (hr:r.Bounded) (t:CType) : 0 < (r.alignOf? t).getD 1 := by
 cases h : r.alignOf? t with
 | none => exact Nat.one_pos
 | some a => exact Nat.pos_of_dvd_of_pos (hr.alignOf?_dvd h) (by decide)

end Bounded

/-! ### Later registries -/

def Extends (r' r:Registry) : Prop :=
 ∀ id d, r.get? id = some d → d.isComplete = true → r'.get? id = some d

namespace Extends

variable {r':Registry}

lemma sizeOf? (hr:r'.Extends r) (h:r.sizeOf? t = some n) : r'.sizeOf? t = some n := by
 induction t using CType.elementInduction generalizing n with
 | array elem length vla q ih =>
  rw [sizeOf?_array] at h ⊢
  obtain ⟨m,hm,hn⟩:=Option.bind_eq_some_iff.mp h
  exact Option.bind_eq_some_iff.mpr ⟨m,ih hm,hn⟩
 | other t hother =>
  obtain ⟨k,q⟩:=t
  cases k with
  | array => cases hother
  | record id =>
   obtain ⟨d,hd,hcomplete,rfl⟩:=exists_complete (g := RecordDef.size) h
   exact sizeOf?_record q (hr id d hd hcomplete) hcomplete
  | _ => exact h

lemma alignOf? (hr:r'.Extends r) (h:r.alignOf? t = some a) : r'.alignOf? t = some a := by
 induction t using CType.elementInduction with
 | array elem length vla q ih => exact ih h
 | other t hother =>
  obtain ⟨k,q⟩:=t
  cases k with
  | array => cases hother
  | record id =>
   obtain ⟨d,hd,hcomplete,rfl⟩:=exists_complete (g := RecordDef.align) h
   exact alignOf?_record q (hr id d hd hcomplete) hcomplete
  | _ => exact h

lemma refl (r:Registry) : r.Extends r := fun _ _ h _ => h

lemma trans {r'':Registry} (h':r''.Extends r') (h:r'.Extends r) : r''.Extends r :=
 fun id d hd hcomplete => h' id d (h id d hd hcomplete) hcomplete

lemma member? (hr:r'.Extends r) {name:String} {f:Field}
  (h:r.member? t name = some f) : r'.member? t name = some f := by
 obtain ⟨k,q⟩:=t
 cases k with
 | record id =>
  obtain ⟨d,hd,hf⟩:=Option.bind_eq_some_iff.mp h
  obtain ⟨fields,hfields,hfind⟩:=Option.bind_eq_some_iff.mp hf
  have hcomplete:d.isComplete = true:=Option.isSome_iff_exists.mpr ⟨fields,hfields⟩
  exact Option.bind_eq_some_iff.mpr ⟨d,hr id d hd hcomplete,hf⟩
 | _ => cases h

lemma isComplete (hr:r'.Extends r) (h:r.isComplete t = true) : r'.isComplete t = true := by
 induction t using CType.elementInduction with
 | array elem length vla q ih => exact ih h
 | other t hother =>
  obtain ⟨k,q⟩:=t
  cases k with
  | array => cases hother
  | record id =>
   obtain ⟨d,hd,hcomplete⟩:=isComplete_record_iff.mp h
   exact isComplete_record_iff.mpr ⟨d,hr id d hd hcomplete,hcomplete⟩
  | _ => exact h

end Extends

end Registry

end CCheck
