import CCheck.Analysis.Operator
import CCheck.Constant
import Mathlib.Tactic.Lemma

/-! # Ranges of the integer types

The values of an integer type are the numbers between its bounds. -/

set_option autoImplicit false

namespace CCheck

namespace IntRank

lemma pow_bits (r:IntRank) : Nat.pow 2 r.bits = 2 * Nat.pow 2 (r.bits - 1) := by
 cases r <;> rfl

lemma pow_bits_of_narrow {r:IntRank} (hr:r.size < 8) : Nat.pow 2 r.bits ≤ 4294967296 := by
 cases r with
 | char | short | int => decide
 | long | longLong => exact absurd hr (by decide)

lemma pow_bits_of_promoted {r:IntRank} (hr:r.order < IntRank.int.order) :
  Nat.pow 2 r.bits ≤ 65536 := by
 cases r with
 | char | short => decide
 | int | long | longLong => exact absurd hr (by decide)

end IntRank

namespace CType

variable {t a b:CType} {n k:Int}

def isSigned (t:CType) : Bool := t.intParts?.any (·.2)

def Holds (t:CType) (n:Int) : Prop :=
 ∃ m : Nat, t.maxValue? = some m ∧ (if t.isSigned then -(m:Int) - 1 else 0) ≤ n ∧ n ≤ m

instance (t:CType) (n:Int) : Decidable (t.Holds n) :=
 decidable_of_iff
  (t.maxValue?.any (fun m:Nat =>
   decide ((if t.isSigned then -(m:Int) - 1 else 0) ≤ n ∧ n ≤ m)) = true)
  (by simp only [Option.any_eq_true,decide_eq_true_eq]; rfl)

def isNarrow (t:CType) : Bool := t.intParts?.any (·.1.size < 8)

lemma holds_congr (h:a.kind = b.kind) : a.Holds n ↔ b.Holds n := by
 unfold Holds isSigned maxValue? intParts?
 rw [h]

lemma isNarrow_congr (h:a.kind = b.kind) : a.isNarrow = b.isNarrow := by
 unfold isNarrow intParts?
 rw [h]

lemma isInteger_of_isNarrow (h:t.isNarrow = true) : t.isInteger = true := by
 obtain ⟨kind,q⟩:=t
 cases kind <;> first | rfl | exact Bool.noConfusion h

lemma holds_bool (hkind:t.kind = .bool) : t.Holds n ↔ 0 ≤ n ∧ n ≤ 1 := by
 simp [Holds,isSigned,maxValue?,intParts?,hkind]

lemma holds_signed {r:IntRank} (hkind:t.kind = .int r true) :
  t.Holds n ↔ -(Nat.pow 2 (r.bits - 1) : Nat) ≤ n ∧ n < (Nat.pow 2 (r.bits - 1) : Nat) := by
 have hpos:0 < Nat.pow 2 (r.bits - 1):=Nat.pow_pos (by decide)
 simp only [Holds,isSigned,maxValue?,intParts?,hkind,Option.any_some,if_true,
  Option.some.injEq,exists_eq_left']
 omega

lemma holds_unsigned {r:IntRank} (hkind:t.kind = .int r false) :
  t.Holds n ↔ 0 ≤ n ∧ n < (Nat.pow 2 r.bits : Nat) := by
 have hpos:0 < Nat.pow 2 r.bits:=Nat.pow_pos (by decide)
 simp only [Holds,isSigned,maxValue?,intParts?,hkind,Option.any_some,
  Option.some.injEq,exists_eq_left',Bool.false_eq_true,if_false]
 omega

lemma holds_int : CType.int.Holds n ↔ -2147483648 ≤ n ∧ n < 2147483648 :=
 holds_signed (r := .int) rfl

lemma holds_uint : CType.uint.Holds n ↔ 0 ≤ n ∧ n < 4294967296 :=
 holds_unsigned (r := .int) rfl

lemma Holds.between (h:t.Holds n) (hk:0 ≤ k ∧ k ≤ n ∨ n ≤ k ∧ k ≤ 0) : t.Holds k := by
 obtain ⟨m,hm,hlow,hhigh⟩:=h
 refine ⟨m,hm,?_,by omega⟩
 by_cases hsigned : t.isSigned = true
 · rw [if_pos hsigned] at hlow ⊢
   omega
 · rw [if_neg hsigned] at hlow ⊢
   omega

lemma Holds.bounds (ht:t.isNarrow = true) (h:t.Holds n) :
  -2147483648 ≤ n ∧ n < 4294967296 := by
 obtain ⟨kind,q⟩:=t
 cases kind with
 | bool =>
  have hn:=(holds_bool rfl).mp h
  omega
 | int r s =>
  have hsize:=IntRank.pow_bits_of_narrow (r := r) (of_decide_eq_true ht)
  have hhalf:=r.pow_bits
  cases s with
  | true =>
   have hn:=(holds_signed rfl).mp h
   omega
  | false =>
   have hn:=(holds_unsigned rfl).mp h
   omega
 | _ => exact Bool.noConfusion ht

/-! ### Conversions -/

lemma value_kind (h:t.value.isArithmetic = true) : t.value.kind = t.kind := by
 obtain ⟨kind,q⟩:=t
 cases kind <;> first | rfl | exact Bool.noConfusion h

lemma value_kind_of_isNarrow (h:t.value.isNarrow = true) : t.value.kind = t.kind :=
 value_kind (Bool.or_eq_true_iff.mpr (.inl (isInteger_of_isNarrow h)))

lemma isNarrow_of_promote (h:t.promote.isNarrow = true) : t.isNarrow = true := by
 obtain ⟨kind,q⟩:=t
 cases kind with
 | int r s => cases r <;> first | rfl | exact h
 | bool => rfl
 | _ => exact h

lemma Holds.promote (ht:t.isNarrow = true) (h:t.Holds n) : t.promote.Holds n := by
 obtain ⟨kind,q⟩:=t
 cases kind with
 | bool =>
  have hn:=(holds_bool rfl).mp h
  exact holds_int.mpr (by omega)
 | int r s =>
  by_cases hr : r.order < IntRank.int.order
  · have hsize:=IntRank.pow_bits_of_promoted hr
    have hhalf:=r.pow_bits
    rw [show CType.promote ⟨.int r s,q⟩ = .int from if_pos hr,holds_int]
    cases s with
    | true =>
     have hn:=(holds_signed rfl).mp h
     omega
    | false =>
     have hn:=(holds_unsigned rfl).mp h
     omega
  · rw [show CType.promote ⟨.int r s,q⟩ = .integer r s from if_neg hr]
    exact h
 | _ => exact Bool.noConfusion ht

lemma promote_integer (h:t.isInteger = true) :
  ∃ r s, t.promote = .integer r s ∧ (r = .int ∨ r = .long ∨ r = .longLong) := by
 obtain ⟨kind,q⟩:=t
 cases kind with
 | bool => exact ⟨_,_,rfl,.inl rfl⟩
 | int r s =>
  cases r with
  | char | short | int => exact ⟨_,_,rfl,.inl rfl⟩
  | long => exact ⟨_,_,rfl,.inr (.inl rfl)⟩
  | longLong => exact ⟨_,_,rfl,.inr (.inr rfl)⟩
 | _ => exact Bool.noConfusion h

lemma commonInteger_narrow {r r':IntRank} {s s':Bool}
  (hr:r = .int ∨ r = .long ∨ r = .longLong) (hr':r' = .int ∨ r' = .long ∨ r' = .longLong)
  (h:(commonInteger r s r' s').isNarrow = true) :
  r = .int ∧ r' = .int ∧ commonInteger r s r' s' = .integer .int (s && s') := by
 obtain rfl | rfl | rfl:=hr <;> obtain rfl | rfl | rfl := hr' <;> cases s <;> cases s' <;>
  first | exact ⟨rfl,rfl,rfl⟩ | exact Bool.noConfusion h

lemma floatKind?_eq_none (ha:a.isArithmetic = true) (h:a.floatKind? = none) :
  a.isInteger = true := by
 obtain ⟨kind,q⟩:=a
 cases kind <;> first | rfl | exact Bool.noConfusion ha | cases h

/-- A narrow common type is `int` if both operands are promoted to it, and `unsigned` if one of
them is promoted to that. -/
lemma common_narrow (ha:a.isArithmetic = true) (hb:b.isArithmetic = true)
  (h:(a.common b).isNarrow = true) : a.isNarrow = true ∧ b.isNarrow = true ∧
   (a.common b = .int ∧ a.promote = .int ∧ b.promote = .int ∨
    a.common b = .uint ∧ (a.promote = .uint ∨ b.promote = .uint)) := by
 cases hfa : a.floatKind? with
 | some k => cases hfb : b.floatKind? <;> simp [common,hfa,hfb] at h <;> cases h
 | none =>
  cases hfb : b.floatKind? with
  | some k => simp [common,hfa,hfb] at h; cases h
  | none =>
   obtain ⟨r,s,hra,hr⟩:=promote_integer (floatKind?_eq_none ha hfa)
   obtain ⟨r',s',hrb,hr'⟩:=promote_integer (floatKind?_eq_none hb hfb)
   have hcommon:a.common b = commonInteger r s r' s' := by
    simp only [common,hfa,hfb,hra,hrb]
    rfl
   rw [hcommon] at h ⊢
   obtain ⟨rfl,rfl,hint⟩:=commonInteger_narrow hr hr' h
   refine ⟨isNarrow_of_promote (hra ▸ rfl),isNarrow_of_promote (hrb ▸ rfl),?_⟩
   rw [hint,hra,hrb]
   cases s with
   | false => exact .inr ⟨rfl,.inl rfl⟩
   | true =>
    cases s' with
    | false => exact .inr ⟨rfl,.inr rfl⟩
    | true => exact .inl ⟨rfl,rfl,rfl⟩

lemma Holds.common (ha:a.isArithmetic = true) (hb:b.isArithmetic = true)
  (hnarrow:(a.common b).isNarrow = true) (h:a.Holds n ∨ b.Holds n)
  (hn:a.common b = .uint → 0 ≤ n) : (a.common b).Holds n := by
 obtain ⟨hna,hnb,hcases⟩:=common_narrow ha hb hnarrow
 have hbounds:n < 4294967296:=h.elim (fun h => (h.bounds hna).2) fun h => (h.bounds hnb).2
 obtain ⟨hint,hpa,hpb⟩ | ⟨huint,-⟩:=hcases
 · rw [hint]
   exact h.elim (fun h => hpa ▸ h.promote hna) fun h => hpb ▸ h.promote hnb
 · rw [huint]
   exact holds_uint.mpr ⟨hn huint,hbounds⟩

end CType

variable {t a b:CType} {m n:Bool}

/-- The operators whose operands are converted to their common type, if they are numbers. -/
def BinOp.isConverting (op:BinOp) : Bool :=
 op matches .add | .sub | .mul | .div | .mod | .bitAnd | .bitOr | .bitXor

lemma CType.isNarrow_of_isObjectPointer {records:Registry}
  (h:records.isObjectPointer t = true) : t.isNarrow = false := by
 obtain ⟨kind,q⟩:=t
 cases kind <;> first | rfl | cases h

lemma CType.isArithmetic_of_isInteger (h:t.isInteger = true) : t.isArithmetic = true :=
 Bool.or_eq_true_iff.mpr (.inl h)

lemma BinOp.type_common {op:BinOp} {records:Registry} (hop:op.isConverting = true)
  (h:op.type? records a b m n = some t) (ht:t.isNarrow = true) :
  a.isArithmetic = true ∧ b.isArithmetic = true ∧ t = a.common b := by
 have harith:(a.isArithmetic && b.isArithmetic) = true → t = a.common b →
   a.isArithmetic = true ∧ b.isArithmetic = true ∧ t = a.common b := by
  rw [Bool.and_eq_true]
  exact fun hab heq => ⟨hab.1,hab.2,heq⟩
 have hpointer:∀ {u:CType}, records.isObjectPointer u = true → some u = some t → False := by
  intro u hu heq
  cases heq
  rw [CType.isNarrow_of_isObjectPointer hu] at ht
  cases ht
 cases op with
 | add =>
  rw [type?] at h
  split at h
  · exact harith ‹_› (Option.some.inj h).symm
  split at h
  · exact (hpointer (Bool.and_eq_true_iff.mp ‹_›).1 h).elim
  split at h
  · exact (hpointer (Bool.and_eq_true_iff.mp ‹_›).2 h).elim
  · cases h
 | sub =>
  rw [type?] at h
  split at h
  · exact harith ‹_› (Option.some.inj h).symm
  split at h
  · exact (hpointer (Bool.and_eq_true_iff.mp ‹_›).1 h).elim
  split at h
  · cases h
    cases ht
  · cases h
 | mul | div =>
  rw [type?] at h
  split at h
  · exact harith ‹_› (Option.some.inj h).symm
  · cases h
 | mod | bitAnd | bitOr | bitXor =>
  rw [type?] at h
  split at h
  · rename_i hint
    have hint:=Bool.and_eq_true_iff.mp hint
    exact ⟨CType.isArithmetic_of_isInteger hint.1,CType.isArithmetic_of_isInteger hint.2,
     (Option.some.inj h).symm⟩
  · cases h
 | _ => cases hop

lemma CType.conditional_common (h:a.conditional? b m n = some t) (ht:t.isNarrow = true) :
  a.isArithmetic = true ∧ b.isArithmetic = true ∧ t = a.common b := by
 rw [conditional?] at h
 split at h
 · rename_i harith
   have harith:=Bool.and_eq_true_iff.mp harith
   exact ⟨harith.1,harith.2,(Option.some.inj h).symm⟩
 · -- what is left is void, a record or a pointer
   have hnone:∀ {u:CType}, u.intParts? = none → some u ≠ some t := by
    rintro u hu ⟨⟩
    rw [isNarrow,hu] at ht
    cases ht
   have hparts:∀ u : CType, u.kind = .void ∨ (∃ i, u.kind = .record i) ∨
     (∃ w, u.kind = .pointer w) → u.intParts? = none := by
    rintro u (hu | ⟨_,hu⟩ | ⟨_,hu⟩) <;> rw [intParts?,hu]
   exfalso
   split at h
   · rename_i hu _
     exact hnone (hparts a (.inl hu)) h
   · rename_i i _ hu _
     split at h
     · exact hnone (hparts a (.inr (.inl ⟨i,hu⟩))) h
     · cases h
   · rename_i w w' hu hu'
     have ha:=hnone (hparts a (.inr (.inr ⟨w,hu⟩)))
     have hb:=hnone (hparts b (.inr (.inr ⟨w',hu'⟩)))
     repeat' split at h
     all_goals first | exact ha h | exact hb h | cases h
   · rename_i w hu _
     split at h
     · exact hnone (hparts a (.inr (.inr ⟨w,hu⟩))) h
     · cases h
   · rename_i w hu _
     split at h
     · exact hnone (hparts b (.inr (.inr ⟨w,hu⟩))) h
     · cases h
   · cases h

end CCheck
