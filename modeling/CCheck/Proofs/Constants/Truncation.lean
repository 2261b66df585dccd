import CCheck.Proofs.Constants.Words

/-! # Cutting constants down to a type

A word that is cut down to a type becomes the number of the type that is congruent to it. -/

set_option autoImplicit false

namespace CCheck

variable {r r':IntRank} {s s':Bool} {q q':Qualifiers} {t:CType} {a b:Int}

lemma CType.Holds.eq_of_emod (hkind:t.kind = .int r s) (ha:t.Holds a) (hb:t.Holds b)
  (h:a % (Nat.pow 2 r.bits : Nat) = b % (Nat.pow 2 r.bits : Nat)) : a = b := by
 -- both numbers lie in an interval as long as the modulus
 have hdouble:=r.pow_bits
 obtain ⟨low,hlow⟩ : ∃ low, ∀ n, t.Holds n ↔ low ≤ n ∧ n < low + (Nat.pow 2 r.bits : Nat) := by
  cases s with
  | true => exact ⟨-(Nat.pow 2 (r.bits - 1) : Nat),fun n => by rw [holds_signed hkind]; omega⟩
  | false => exact ⟨0,fun n => by rw [holds_unsigned hkind]; omega⟩
 rw [hlow] at ha hb
 have hshift:(a - low) % (Nat.pow 2 r.bits : Nat) = (b - low) % (Nat.pow 2 r.bits : Nat):=
  (Int.emod_sub_cancel_right low).mpr h
 rw [Int.emod_eq_of_lt (by omega) (by omega),Int.emod_eq_of_lt (by omega) (by omega)] at hshift
 omega

lemma truncate_of_wide (hr:r.bits = 64) (v:Int64) : truncate v ⟨.int r s,q⟩ = v :=
 if_pos (Nat.le_of_eq hr.symm)

lemma IntRank.bits_le (r:IntRank) : r.bits < 64 ∨ r.bits = 64 := by
 cases r <;> decide

lemma CType.isNarrow_of_bits (hr:r.bits < 64) : CType.isNarrow ⟨.int r s,q⟩ = true := by
 cases r <;> first | rfl | exact absurd hr (by decide)

lemma truncate_emod (v:Int64) (r:IntRank) (s:Bool) (q:Qualifiers) :
  (truncate v ⟨.int r s,q⟩).toInt % (Nat.pow 2 r.bits : Nat) =
   v.toInt % (Nat.pow 2 r.bits : Nat) := by
 obtain hr | hr:=r.bits_le
 · rw [truncate_of_narrow hr,toInt_truncateBits hr]
   cases s with
   | false => exact Int.emod_emod _ _
   | true => exact Int.bmod_emod
 · rw [truncate_of_wide hr]

lemma truncate_truncate (hbits:r'.bits ≤ r.bits) (v:Int64) :
  truncate (truncate v ⟨.int r s,q⟩) ⟨.int r' s',q'⟩ = truncate v ⟨.int r' s',q'⟩ := by
 obtain hr' | hr':=r'.bits_le
 · have hnarrow:CType.isNarrow ⟨.int r' s',q'⟩ = true:=CType.isNarrow_of_bits hr'
   have hdvd:((Nat.pow 2 r'.bits : Nat) : Int) ∣ (Nat.pow 2 r.bits : Nat):=
    Int.natCast_dvd_natCast.mpr (Nat.pow_dvd_pow 2 hbits)
   rw [← Int64.toInt_inj]
   refine (holds_truncate hnarrow _).eq_of_emod rfl (holds_truncate hnarrow v) ?_
   rw [truncate_emod,truncate_emod,← Int.emod_emod_of_dvd _ hdvd,truncate_emod,
    Int.emod_emod_of_dvd _ hdvd]
 · rw [truncate_of_wide hr',truncate_of_wide hr',truncate_of_wide]
   have:=r.bits_le
   omega

/-- Cutting a word down to an integer type of fewer than 64 bits gives the one number of the type
that is congruent to it, and is computed without overflow. Wider types leave words alone, and only
the last of several types of decreasing width counts. -/
theorem truncate_residue (v:Int64) :
  (∀ r s q, r.bits < 64 → ∀ n : Int,
   CType.Holds ⟨.int r s,q⟩ n ∧
    n % (Nat.pow 2 r.bits : Nat) = v.toInt % (Nat.pow 2 r.bits : Nat) ↔
    n = (truncate v ⟨.int r s,q⟩).toInt) ∧
  (∀ q, truncate v ⟨.bool,q⟩ = if v = 0 then 0 else 1) ∧
  (∀ r s q, r.bits = 64 → truncate v ⟨.int r s,q⟩ = v) ∧
  (∀ t, truncate (truncate v t) t = truncate v t) ∧
  (∀ r s q r' s' q', r'.bits ≤ r.bits →
   truncate (truncate v ⟨.int r s,q⟩) ⟨.int r' s',q'⟩ = truncate v ⟨.int r' s',q'⟩) ∧
  (∀ r : IntRank, r.bits < 64 →
   let whole : Int64 := 1 <<< Int64.ofNat r.bits
   let masked := v &&& (whole - 1)
   whole.toInt = (Nat.pow 2 r.bits : Nat) ∧
    ((1 : Int64) <<< (Int64.ofNat r.bits - 1)).toInt = (Nat.pow 2 (r.bits - 1) : Nat) ∧
    (whole - 1).toInt = whole.toInt - 1 ∧ (masked - whole).toInt = masked.toInt - whole.toInt) := by
 refine ⟨fun r s q hr n => ?_,fun q => ?_,fun r s q hr => truncate_of_wide hr v,fun t => ?_,
  fun r s q r' s' q' hbits => truncate_truncate hbits v,fun r hr => ?_⟩
 · have hholds:=holds_truncate (CType.isNarrow_of_bits (s := s) (q := q) hr) v
   constructor
   · rintro ⟨hn,hmod⟩
     exact hn.eq_of_emod rfl hholds (hmod.trans (truncate_emod v r s q).symm)
   · rintro rfl
     exact ⟨hholds,truncate_emod v r s q⟩
 · by_cases hv : v = 0
   · rw [hv,if_pos rfl]
     rfl
   · rw [if_neg hv]
     exact congrArg ofBool (bne_iff_ne.mpr hv)
 · obtain ⟨kind,q⟩:=t
   cases kind with
   | bool =>
    change ofBool (ofBool (v != 0) != 0) = ofBool (v != 0)
    cases v != 0 <;> rfl
   | int r s => exact truncate_truncate (Nat.le_refl _) v
   | _ => rfl
 · obtain ⟨hwhole,hmask,hhalf,hsucc,hle⟩:=IntRank.shifts hr
   have hmasked:=(toInt_mask (j := r.bits - 1) (by omega) (hsucc ▸ hmask) hhalf v).1
   rw [hsucc] at hmasked
   refine ⟨hwhole,?_,?_,?_⟩
   · cases r <;> first | rfl | exact absurd hr (by decide)
   · cases r <;> rfl
   · rw [hwhole]
     exact toInt_masked_sub hr hwhole hmasked
end CCheck
