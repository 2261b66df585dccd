import CCheck.Proofs.Constants.Ranges
import Mathlib.Data.Nat.Bitwise

/-! # Operations on words

What the operators of constant expressions do to the numbers that words stand for. -/

set_option autoImplicit false

namespace CCheck

/-! ### Arithmetic -/

def UnaryOp.ideal? (op:UnaryOp) (n:Int) : Option Int :=
 match op with
 | .neg => some (-n)
 | .bitNot => some (-n - 1)
 | _ => none

def BinOp.ideal? (op:BinOp) (n k:Int) : Option Int :=
 match op with
 | .add => some (n + k)
 | .sub => some (n - k)
 | .mul => some (n * k)
 | .div => some (n.tdiv k)
 | .shl => some (n * (Nat.pow 2 (k % 64).toNat : Nat))
 | _ => none

variable {v w x:Int64} {n k:Int} {t:CType}

lemma UnaryOp.toInt_eval {op:UnaryOp} (hx:op.eval? v = some x)
  (hn:op.ideal? v.toInt = some n) : x.toInt = n.bmod Int64.size := by
 cases op with
 | neg =>
  cases hx
  cases hn
  exact v.toInt_neg
 | bitNot =>
  cases hx
  cases hn
  exact v.toInt_not
 | _ => cases hn

lemma toNat_shiftCount (w:Int64) : (w.toBitVec.smod 64).toNat = (w.toInt % 64).toNat := by
 have hsmod:(w.toBitVec.smod 64).toInt = w.toInt % 64 := by
  rw [BitVec.toInt_smod,Int64.toInt_toBitVec]
  exact Int.fmod_eq_emod_of_nonneg _ (by decide)
 have hbounds:=w.toBitVec.smod 64 |>.toInt_eq_toNat_cond
 have hlt:=(w.toBitVec.smod 64).isLt
 have hnonneg:=Int.emod_nonneg w.toInt (show (64 : Int) ≠ 0 by decide)
 split at hbounds <;> omega

lemma toInt_shiftLeft (v w:Int64) :
  (v <<< w).toInt = (v.toInt * (Nat.pow 2 (w.toInt % 64).toNat : Nat)).bmod Int64.size := by
 rw [← Int64.toInt_toBitVec,Int64.toBitVec_shiftLeft,BitVec.shiftLeft_eq',toNat_shiftCount,
  BitVec.toInt_shiftLeft,← Int64.toInt_toBitVec v,BitVec.toInt_eq_toNat_bmod v.toBitVec,
  Nat.shiftLeft_eq,Int.natCast_mul]
 exact Int.bmod_mul_bmod.symm

lemma BinOp.toInt_eval {op:BinOp} (hx:op.eval? v w = some x)
  (hn:op.ideal? v.toInt w.toInt = some n) : x.toInt = n.bmod Int64.size := by
 cases op with
 | add =>
  cases hx
  cases hn
  exact v.toInt_add w
 | sub =>
  cases hx
  cases hn
  exact v.toInt_sub w
 | mul =>
  cases hx
  cases hn
  exact v.toInt_mul w
 | div =>
  rw [BinOp.eval?] at hx
  split at hx
  · cases hx
  · cases hx
    cases hn
    exact v.toInt_div w
 | shl =>
  cases hx
  cases hn
  exact toInt_shiftLeft v w
 | _ => cases hn

lemma CType.Holds.bmod (ht:t.isNarrow = true) (h:t.Holds n) : n.bmod Int64.size = n := by
 have hbounds:=h.bounds ht
 refine Int.bmod_eq_of_le ?_ ?_ <;> simp only [Int64.size] <;> omega

lemma tmod_between (n k:Int) :
  0 ≤ n.tmod k ∧ n.tmod k ≤ n ∨ n ≤ n.tmod k ∧ n.tmod k ≤ 0 := by
 have habs:(n.tmod k).natAbs ≤ n.natAbs := by
  rw [Int.natAbs_tmod]
  exact Nat.mod_le _ _
 by_cases hn : 0 ≤ n
 · have:=Int.tmod_nonneg k hn
   omega
 · have:=Int.tmod_nonneg k (show 0 ≤ -n by omega)
   rw [Int.neg_tmod] at this
   omega

lemma toInt_shiftRight (v w:Int64) :
  (v >>> w).toInt = v.toInt / (Nat.pow 2 (w.toInt % 64).toNat : Nat) := by
 rw [← Int64.toInt_toBitVec,Int64.toBitVec_shiftRight,BitVec.sshiftRight',toNat_shiftCount,
  BitVec.toInt_sshiftRight,Int.shiftRight_eq_div_pow,Int64.toInt_toBitVec]
 rfl

lemma toInt_shiftRight_between (v w:Int64) :
  0 ≤ (v >>> w).toInt ∧ (v >>> w).toInt ≤ v.toInt ∨
   v.toInt ≤ (v >>> w).toInt ∧ (v >>> w).toInt ≤ 0 := by
 have hpow:0 < Nat.pow 2 (w.toInt % 64).toNat:=Nat.pow_pos (by decide)
 rw [toInt_shiftRight]
 generalize Nat.pow 2 (w.toInt % 64).toNat = m at hpow
 by_cases hv : 0 ≤ v.toInt
 · exact .inl ⟨Int.ediv_nonneg hv (by omega),Int.ediv_le_self _ hv⟩
 · refine .inr ⟨?_,?_⟩
   · exact (Int.le_ediv_iff_mul_le (by omega)).mpr (by
      have : v.toInt * m ≤ v.toInt * 1:=Int.mul_le_mul_of_nonpos_left (by omega) (by omega)
      omega)
   · exact Int.le_of_lt (Int.ediv_neg_of_neg_of_pos (by omega) (by omega))

/-! ### Bitwise operators -/

lemma holds_int_iff :
  CType.int.Holds v.toInt ↔ ∃ y : BitVec 32, v.toBitVec = y.signExtend 64 := by
 rw [CType.holds_int]
 constructor
 · intro h
   refine ⟨v.toBitVec.setWidth 32,BitVec.eq_of_toInt_eq ?_⟩
   rw [BitVec.toInt_signExtend_of_le (by decide),BitVec.toInt_setWidth,Int64.toInt_toBitVec]
   have hcond:=v.toBitVec.toInt_eq_toNat_cond
   rw [Int64.toInt_toBitVec] at hcond
   rw [Int.bmod_def]
   split at hcond <;> split <;> omega
 · rintro ⟨y,hy⟩
   rw [← Int64.toInt_toBitVec,hy,BitVec.toInt_signExtend_of_le (by decide)]
   exact ⟨BitVec.le_toInt y,BitVec.toInt_lt⟩

lemma holds_uint_iff : CType.uint.Holds v.toInt ↔ v.toBitVec.toNat < 4294967296 := by
 have hcond:=v.toBitVec.toInt_eq_toNat_cond
 have hlt:=v.toBitVec.isLt
 rw [Int64.toInt_toBitVec] at hcond
 rw [CType.holds_uint]
 split at hcond <;> omega

def BinOp.isBitwise (op:BinOp) : Bool := op matches .bitAnd | .bitOr | .bitXor

lemma BinOp.holds_int_bitwise {op:BinOp} (hop:op.isBitwise = true)
  (hv:CType.int.Holds v.toInt) (hw:CType.int.Holds w.toInt) (hx:op.eval? v w = some x) :
  CType.int.Holds x.toInt := by
 obtain ⟨y,hy⟩:=holds_int_iff.mp hv
 obtain ⟨z,hz⟩:=holds_int_iff.mp hw
 rw [holds_int_iff]
 cases op with
 | bitAnd =>
  cases hx
  exact ⟨y &&& z,by rw [Int64.toBitVec_and,hy,hz,BitVec.signExtend_and]⟩
 | bitOr =>
  cases hx
  exact ⟨y ||| z,by rw [Int64.toBitVec_or,hy,hz,BitVec.signExtend_or]⟩
 | bitXor =>
  cases hx
  exact ⟨y ^^^ z,by rw [Int64.toBitVec_xor,hy,hz,BitVec.signExtend_xor]⟩
 | _ => cases hop

lemma BinOp.holds_uint_bitwise {op:BinOp} (hop:op.isBitwise = true)
  (hv:CType.uint.Holds v.toInt) (hw:CType.uint.Holds w.toInt) (hx:op.eval? v w = some x) :
  CType.uint.Holds x.toInt := by
 rw [holds_uint_iff] at hv hw ⊢
 cases op with
 | bitAnd =>
  cases hx
  rw [Int64.toBitVec_and,BitVec.toNat_and]
  exact Nat.lt_of_le_of_lt Nat.and_le_left hv
 | bitOr =>
  cases hx
  rw [Int64.toBitVec_or,BitVec.toNat_or]
  exact Nat.or_lt_two_pow (n := 32) hv hw
 | bitXor =>
  cases hx
  rw [Int64.toBitVec_xor,BitVec.toNat_xor]
  exact Nat.xor_lt_two_pow (n := 32) hv hw
 | _ => cases hop

lemma holds_uint_and (h:CType.uint.Holds v.toInt ∨ CType.uint.Holds w.toInt) :
  CType.uint.Holds (v &&& w).toInt := by
 rw [holds_uint_iff,holds_uint_iff] at h
 rw [holds_uint_iff,Int64.toBitVec_and,BitVec.toNat_and]
 exact h.elim (Nat.lt_of_le_of_lt Nat.and_le_left) (Nat.lt_of_le_of_lt Nat.and_le_right)

def BinOp.CarriesSign (op:BinOp) (n k:Int) : Prop :=
 match op with
 | .mod => n < 0
 | .bitOr | .bitXor => n < 0 ∨ k < 0
 | _ => False

variable {a b:CType}

lemma holds_mod (ha:a.isArithmetic = true) (hb:b.isArithmetic = true)
  (hnarrow:(a.common b).isNarrow = true) (hv:a.Holds v.toInt)
  (hsign:a.common b = .uint → ¬ BinOp.mod.CarriesSign v.toInt w.toInt) :
  (a.common b).Holds (v % w).toInt := by
 have hleft:(a.common b).Holds v.toInt:=
  CType.Holds.common ha hb hnarrow (.inl hv) fun huint => Int.not_lt.mp (hsign huint)
 rw [Int64.toInt_mod]
 exact hleft.between (tmod_between _ _)

lemma BinOp.holds_bitwise {op:BinOp} (hop:op.isBitwise = true) (ha:a.isArithmetic = true)
  (hb:b.isArithmetic = true) (hnarrow:(a.common b).isNarrow = true)
  (hv:a.Holds v.toInt) (hw:b.Holds w.toInt)
  (hsign:a.common b = .uint → ¬ op.CarriesSign v.toInt w.toInt)
  (hx:op.eval? v w = some x) : (a.common b).Holds x.toInt := by
 obtain ⟨hna,hnb,⟨hint,hpa,hpb⟩ | ⟨huint,hp⟩⟩:=CType.common_narrow ha hb hnarrow
 · rw [hint]
   exact holds_int_bitwise hop (hpa ▸ hv.promote hna) (hpb ▸ hw.promote hnb) hx
 · have hsign:=hsign huint
   rw [huint]
   cases op with
   | bitAnd =>
    cases hx
    refine holds_uint_and ?_
    obtain hpa | hpb:=hp
    · exact .inl (hpa ▸ hv.promote hna)
    · exact .inr (hpb ▸ hw.promote hnb)
   | bitOr | bitXor =>
    have hsign:=not_or.mp hsign
    exact holds_uint_bitwise hop
     (CType.holds_uint.mpr ⟨Int.not_lt.mp hsign.1,(hv.bounds hna).2⟩)
     (CType.holds_uint.mpr ⟨Int.not_lt.mp hsign.2,(hw.bounds hnb).2⟩) hx
   | _ => cases hop

/-! ### Cutting words down -/

lemma holds_ofBool (b:Bool) : CType.int.Holds (ofBool b).toInt := by
 cases b <;> decide

lemma toInt_mask {j:Nat} (hj:j < 62) {mask half:Int64}
  (hmask:mask.toBitVec.toNat = Nat.pow 2 (j + 1) - 1)
  (hhalf:half.toBitVec.toNat = Nat.pow 2 j) (v:Int64) :
  (v &&& mask).toInt = v.toInt % (Nat.pow 2 (j + 1) : Nat) ∧
   (v &&& mask &&& half = 0 ↔ v.toInt % (Nat.pow 2 (j + 1) : Nat) < (Nat.pow 2 j : Nat)) := by
 have hnat:(v &&& mask).toBitVec.toNat = v.toBitVec.toNat % Nat.pow 2 (j + 1) := by
  rw [Int64.toBitVec_and,BitVec.toNat_and,hmask]
  exact Nat.and_two_pow_sub_one_eq_mod _ _
 have hlt:v.toBitVec.toNat % Nat.pow 2 (j + 1) < Nat.pow 2 (j + 1):=
  Nat.mod_lt _ (Nat.pow_pos (by decide))
 have hsize:Nat.pow 2 (j + 1) ≤ 4611686018427387904:=
  Nat.pow_le_pow_right (j := 62) (by decide) (by omega)
 have hint:(v &&& mask).toInt = (v.toBitVec.toNat % Nat.pow 2 (j + 1) : Nat) := by
  rw [← Int64.toInt_toBitVec,← hnat]
  exact BitVec.toInt_eq_toNat_of_lt (by omega)
 have hmod:v.toInt % (Nat.pow 2 (j + 1) : Nat) = (v.toBitVec.toNat % Nat.pow 2 (j + 1) : Nat) := by
  have hword:v.toInt % (18446744073709551616 : Nat) = v.toBitVec.toNat := by
   have hcond:=v.toBitVec.toInt_eq_toNat_cond
   rw [Int64.toInt_toBitVec] at hcond
   split at hcond <;> omega
  have hdvd:Nat.pow 2 (j + 1) ∣ 18446744073709551616:=
   Nat.pow_dvd_pow (n := 64) 2 (by omega)
  rw [Int.natCast_emod,← hword,Int.emod_emod_of_dvd _ (Int.natCast_dvd_natCast.mpr hdvd)]
 have hbit:(v &&& mask &&& half).toBitVec.toNat =
   ((v.toBitVec.toNat % Nat.pow 2 (j + 1)).testBit j).toNat * Nat.pow 2 j := by
  rw [Int64.toBitVec_and,BitVec.toNat_and,hnat,hhalf]
  exact Nat.and_two_pow _ _
 rw [hint,hmod,← Int64.toBitVec_inj,← BitVec.toNat_inj,hbit,Int.ofNat_lt]
 generalize v.toBitVec.toNat % Nat.pow 2 (j + 1) = m at hlt
 refine ⟨rfl,fun hzero => Nat.lt_of_not_le fun hle => ?_,fun hlow => ?_⟩
 · rw [Nat.testBit_of_two_pow_le_and_two_pow_add_one_gt hle hlt,Bool.toNat_true,Nat.one_mul]
    at hzero
   exact Nat.ne_of_gt (Nat.pow_pos (by decide)) hzero
 · rw [Nat.testBit_lt_two_pow hlow,Bool.toNat_false,Nat.zero_mul]
   rfl

lemma IntRank.shifts {r:IntRank} (hr:r.bits < 64) :
  ((1 : Int64) <<< Int64.ofNat r.bits).toInt = (Nat.pow 2 r.bits : Nat) ∧
   ((1 : Int64) <<< Int64.ofNat r.bits - 1).toBitVec.toNat = Nat.pow 2 r.bits - 1 ∧
   ((1 : Int64) <<< (Int64.ofNat r.bits - 1)).toBitVec.toNat = Nat.pow 2 (r.bits - 1) ∧
   r.bits - 1 + 1 = r.bits ∧ r.bits ≤ 32 := by
 cases r with
 | char | short | int => decide
 | long | longLong => exact absurd hr (by decide)

lemma toInt_masked_sub {r:IntRank} (hr:r.bits < 64) {v whole:Int64}
  (hwhole:whole.toInt = (Nat.pow 2 r.bits : Nat))
  (hv:v.toInt = n % (Nat.pow 2 r.bits : Nat)) :
  (v - whole).toInt = v.toInt - (Nat.pow 2 r.bits : Nat) := by
 have hsmall:Nat.pow 2 r.bits ≤ 4294967296:=
  Nat.pow_le_pow_right (j := 32) (by decide) (IntRank.shifts hr).2.2.2.2
 have hpos:0 < Nat.pow 2 r.bits:=Nat.pow_pos (by decide)
 have hlow:=Int.emod_nonneg n (b := (Nat.pow 2 r.bits : Nat)) (by omega)
 have hhigh:=Int.emod_lt_of_pos n (b := (Nat.pow 2 r.bits : Nat)) (by omega)
 rw [Int64.toInt_sub,hwhole,hv,Int.bmod_eq_of_le (by omega) (by omega)]

lemma toInt_truncateBits {r:IntRank} (hr:r.bits < 64) (v:Int64) (s:Bool) :
  (truncateBits v r.bits s).toInt =
   if s then v.toInt.bmod (Nat.pow 2 r.bits) else v.toInt % (Nat.pow 2 r.bits : Nat) := by
 obtain ⟨hwhole,hmask,hhalf,hsucc,hle⟩:=IntRank.shifts hr
 obtain ⟨hmasked,hbit⟩:=toInt_mask (j := r.bits - 1) (by omega) (hsucc ▸ hmask) hhalf v
 rw [hsucc] at hmasked hbit
 have hdouble:=r.pow_bits
 have hhalved:((Nat.pow 2 r.bits : Nat) + 1 : Int) / 2 = (Nat.pow 2 (r.bits - 1) : Nat) := by omega
 unfold truncateBits
 rw [Int.bmod_def,hhalved]
 cases s with
 | false => exact hmasked
 | true =>
  by_cases hzero : v &&& ((1 : Int64) <<< Int64.ofNat r.bits - 1) &&&
    (1 : Int64) <<< (Int64.ofNat r.bits - 1) = 0
  · simp only [hzero,bne_self_eq_false,Bool.and_false,Bool.false_eq_true,if_false,if_true,
     if_pos (hbit.mp hzero),hmasked]
  · simp only [bne_iff_ne.mpr hzero,Bool.true_and,if_true,if_neg (mt hbit.mpr hzero)]
    rw [toInt_masked_sub hr hwhole hmasked,hmasked]

lemma holds_truncateBits {r:IntRank} (hr:r.bits < 64) (v:Int64) (s:Bool) :
  (CType.integer r s).Holds (truncateBits v r.bits s).toInt := by
 have hpos:0 < Nat.pow 2 r.bits:=Nat.pow_pos (by decide)
 have hdouble:=r.pow_bits
 rw [toInt_truncateBits hr]
 cases s with
 | false =>
  exact (CType.holds_unsigned rfl).mpr
   ⟨Int.emod_nonneg _ (by omega),Int.emod_lt_of_pos _ (by omega)⟩
 | true =>
  have hlow:=Int.le_bmod (x := v.toInt) hpos
  have hhigh:=Int.bmod_lt (x := v.toInt) hpos
  rw [CType.holds_signed rfl,if_pos rfl]
  omega

lemma IntRank.bits_of_isNarrow {r:IntRank} {s:Bool} {q:Qualifiers}
  (h:CType.isNarrow ⟨.int r s,q⟩ = true) : r.bits < 64 := by
 have hsize:r.size < 8:=of_decide_eq_true h
 unfold IntRank.bits
 omega

lemma truncate_of_narrow {r:IntRank} (hr:r.bits < 64) (v:Int64) (s:Bool) (q:Qualifiers) :
  truncate v ⟨.int r s,q⟩ = truncateBits v r.bits s :=
 if_neg (Nat.not_le.mpr hr)

lemma holds_truncate (ht:t.isNarrow = true) (v:Int64) : t.Holds (truncate v t).toInt := by
 obtain ⟨kind,q⟩:=t
 cases kind with
 | bool =>
  rw [CType.holds_bool rfl]
  change 0 ≤ (ofBool (v != 0)).toInt ∧ (ofBool (v != 0)).toInt ≤ 1
  cases v != 0 <;> decide
 | int r s =>
  have hr:=IntRank.bits_of_isNarrow ht
  rw [truncate_of_narrow hr]
  exact holds_truncateBits hr v s
 | _ => exact Bool.noConfusion ht

lemma toInt_toInt64 {n:UInt64} (h:n.toNat < 9223372036854775808) : n.toInt64.toInt = n.toNat := by
 rw [← Int64.toInt_toBitVec,UInt64.toBitVec_toInt64,← UInt64.toNat_toBitVec]
 refine BitVec.toInt_eq_toNat_of_lt ?_
 rw [UInt64.toNat_toBitVec]
 omega

lemma IntLiteral.holds_type (n:IntLiteral) (hnarrow:n.type.isNarrow = true) :
  n.type.Holds n.value.toInt64.toInt := by
 have hnat:n.type.Holds n.value.toNat := by
  cases hfind : n.candidates.find? fun t => t.maxValue?.any (n.value.toNat ≤ ·) with
  | none =>
   rw [IntLiteral.type,hfind] at hnarrow
   cases hnarrow
  | some t =>
   have hany:=List.find?_some hfind
   simp only [Option.any_eq_true,decide_eq_true_eq] at hany
   obtain ⟨m,hm,hle⟩:=hany
   rw [IntLiteral.type,hfind]
   refine ⟨m,hm,?_,Int.ofNat_le.mpr hle⟩
   split <;> omega
 have hbounds:=hnat.bounds hnarrow
 rw [toInt_toInt64 (by omega)]
 exact hnat

/-- A number that is too large for a narrow type, but less than almost twice the size of words,
is still so after wrapping around. -/
lemma CType.holds_bmod_iff (ht:t.isNarrow = true)
  (hn : -9223372036854775808 ≤ n ∧ n < 18446744071562067968) :
  t.Holds (n.bmod Int64.size) ↔ t.Holds n := by
 by_cases hword : n < 9223372036854775808
 · rw [Int.bmod_eq_of_le (by simp only [Int64.size]; omega) (by simp only [Int64.size]; omega)]
 · -- such a number turns negative, below every narrow range
   have hwrapped:n.bmod Int64.size < -2147483648 := by
    rw [Int.bmod_def]
    simp only [Int64.size]
    split <;> omega
   constructor
   · intro h
     have hbounds:=h.bounds ht
     omega
   · intro h
     have hbounds:=h.bounds ht
     omega

lemma mul_bounds {k:Int} (hn : -2147483648 ≤ n ∧ n < 4294967296)
  (hk : -2147483648 ≤ k ∧ k < 4294967296) :
  -9223372036854775808 ≤ n * k ∧ n * k < 18446744071562067968 := by
 rcases Int.le_total 0 n with hn0 | hn0 <;> rcases Int.le_total 0 k with hk0 | hk0
 · have hnonneg:=Int.mul_nonneg hn0 hk0
   have hle:n * k ≤ 4294967295 * 4294967295:=
    Int.mul_le_mul (by omega) (by omega) hk0 (by decide)
   omega
 · have hnonpos:=Int.mul_nonpos_of_nonneg_of_nonpos hn0 hk0
   have hle:n * -k ≤ 4294967295 * 2147483648:=
    Int.mul_le_mul (by omega) (by omega) (by omega) (by decide)
   rw [Int.mul_neg] at hle
   omega
 · have hnonpos:=Int.mul_nonpos_of_nonpos_of_nonneg hn0 hk0
   have hle:-n * k ≤ 2147483648 * 4294967295:=
    Int.mul_le_mul (by omega) (by omega) hk0 (by decide)
   rw [Int.neg_mul] at hle
   omega
 · have hnonneg:=Int.mul_nonneg_of_nonpos_of_nonpos hn0 hk0
   have hle:-n * -k ≤ 2147483648 * 2147483648:=
    Int.mul_le_mul (by omega) (by omega) (by omega) (by decide)
   rw [Int.neg_mul_neg] at hle
   omega

/-- Within the ranges of narrow types no operator but a left shift leaves the integers far
enough to come back to such a range. -/
lemma BinOp.ideal_bounds {op:BinOp} (hop:op ≠ .shl) {m:Int}
  (hn : -2147483648 ≤ n ∧ n < 4294967296) (hk : -2147483648 ≤ k ∧ k < 4294967296)
  (hm:op.ideal? n k = some m) :
  -9223372036854775808 ≤ m ∧ m < 18446744071562067968 := by
 cases op with
 | add =>
  cases hm
  omega
 | sub =>
  cases hm
  omega
 | mul =>
  cases hm
  exact mul_bounds hn hk
 | div =>
  cases hm
  have:=Int.natAbs_tdiv_le_natAbs n k
  omega
 | shl => exact (hop rfl).elim
 | _ => cases hm

lemma UnaryOp.ideal_bounds {op:UnaryOp} {m:Int} (hn : -2147483648 ≤ n ∧ n < 4294967296)
  (hm:op.ideal? n = some m) : -9223372036854775808 ≤ m ∧ m < 18446744071562067968 := by
 cases op with
 | neg =>
  cases hm
  omega
 | bitNot =>
  cases hm
  omega
 | _ => cases hm

end CCheck
