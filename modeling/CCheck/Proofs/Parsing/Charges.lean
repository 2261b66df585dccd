import CCheck.Proofs.Checking.Marks
import CCheck.Proofs.Parsing.Passing

/-! # Marks are paid for with tokens

Every name that a tree reads, and every call, starts at a token that was passed for it. -/

set_option autoImplicit false

namespace CCheck

def Span.credit (p:Nat) (s:Span) : Nat := if s.start == p then 1 else 0

lemma Span.credit_merge (p:Nat) (a b:Span) :
  (a.merge b).credit p ≤ a.credit p + b.credit p := by
 unfold credit
 rw [merge_start]
 simp only [beq_iff_eq]
 split <;> split <;> split <;> omega

namespace Mark

variable {p n m k:Nat} {ms ms' ns:List Mark}

/-- How many names that are read, and calls, start at a place. Definitions are paid for apart, and
what is met again has been paid for. -/
def charge (p:Nat) : Mark → Nat
 | .value i => i.span.credit p
 | .call _ span => span.credit p
 | .definition .. | .again _ | .object _ | .typedef _ => 0

def chargeAll (p:Nat) : List Mark → Nat
 | [] => 0
 | m :: ms => m.charge p + chargeAll p ms

@[simp] lemma chargeAll_nil : chargeAll p [] = 0 := rfl

@[simp] lemma chargeAll_cons (m:Mark) : chargeAll p (m :: ms) = m.charge p + chargeAll p ms :=
 rfl

@[simp] lemma chargeAll_append : chargeAll p (ms ++ ns) = chargeAll p ms + chargeAll p ns := by
 induction ms with
 | nil => exact (Nat.zero_add _).symm
 | cons m ms ih => rw [List.cons_append,chargeAll_cons,ih,chargeAll_cons,Nat.add_assoc]

lemma chargeAll_sublist (h:ms.Sublist ns) : chargeAll p ms ≤ chargeAll p ns := by
 induction h with
 | slnil => exact Nat.le_refl _
 | cons m _ ih => exact Nat.le_trans ih (Nat.le_add_left _ _)
 | cons_cons m _ ih => exact Nat.add_le_add_left ih _

/-- The first marks cost no more than the second ones, which have all their definitions. -/
structure Within (p:Nat) (ms ns:List Mark) : Prop where
 charge : chargeAll p ms ≤ chargeAll p ns
 definitions : ∀ key body, .definition key body ∈ flatAll ms → .definition key body ∈ flatAll ns

namespace Within

lemma refl (ms:List Mark) : Within p ms ms := ⟨Nat.le_refl _,fun _ _ h => h⟩

lemma of_sublist (h:ms.Sublist ns) : Within p ms ns :=
 ⟨chargeAll_sublist h,fun _ _ hm => flatAll_subset h hm⟩

lemma trans (h:Within p ms ms') (h':Within p ms' ns) : Within p ms ns :=
 ⟨Nat.le_trans h.charge h'.charge,
  fun key body hm => h'.definitions key body (h.definitions key body hm)⟩

lemma append {ns':List Mark} (h:Within p ms ns) (h':Within p ms' ns') :
  Within p (ms ++ ms') (ns ++ ns') := by
 refine ⟨?_,fun key body hm => ?_⟩
 · rw [chargeAll_append,chargeAll_append]
   exact Nat.add_le_add h.charge h'.charge
 · rw [flatAll_append,List.mem_append] at hm ⊢
   exact hm.imp (h.definitions key body) (h'.definitions key body)

lemma append_free (h:Within p ms ns) (hfree:chargeAll p ms' = 0)
  (hdefinitions:∀ key body, .definition key body ∈ flatAll ms' →
   .definition key body ∈ flatAll ns) : Within p (ms ++ ms') ns := by
 refine ⟨?_,fun key body hm => ?_⟩
 · rw [chargeAll_append,hfree]
   exact h.charge
 · rw [flatAll_append,List.mem_append] at hm
   exact hm.elim (h.definitions key body) (hdefinitions key body)

lemma swap (ms ns:List Mark) : Within p (ms ++ ns) (ns ++ ms) := by
 refine ⟨?_,fun key body hm => ?_⟩
 · rw [chargeAll_append,chargeAll_append]
   exact Nat.le_of_eq (Nat.add_comm _ _)
 · rw [flatAll_append,List.mem_append] at hm ⊢
   exact hm.symm

lemma evaluated (e:Expr) : Within p e.evaluated e.marks := of_sublist e.evaluated_sublist

lemma again (h:Within p ms ns) (hms:∀ key body, .definition key body ∈ flatAll ms' →
  .definition key body ∈ flatAll ns) : Within p (ms ++ [.again ms']) ns := by
 refine h.append_free rfl fun key body hm => ?_
 rw [flatAll_again,List.mem_cons] at hm
 exact hm.elim (fun h => nomatch h) (hms key body)

lemma reread (b:Bool) (h:Within p ms ns) (hms:∀ key body,
  .definition key body ∈ flatAll ms' → .definition key body ∈ flatAll ns) :
  Within p (ms ++ Mark.reread b ms') ns := by
 cases b with
 | true => exact h.again hms
 | false => exact (List.append_nil ms).symm ▸ h

end Within

def Entered (p:Nat) (entries:List (SpecifierKey × Nat)) (ms:List Mark) : Prop :=
 ∀ key body, .definition key body ∈ flatAll ms →
  ∃ cost, (key,cost) ∈ entries ∧ chargeAll p body ≤ cost

lemma Entered.mono {entries entries':List (SpecifierKey × Nat)} (h:Entered p entries ms)
  (hsub:entries ⊆ entries') : Entered p entries' ms := by
 intro key body hm
 obtain ⟨cost,hcost,hle⟩:=h key body hm
 exact ⟨cost,hsub hcost,hle⟩

def total : List (SpecifierKey × Nat) → Nat
 | [] => 0
 | e :: es => e.2 + total es

lemma total_append (es fs:List (SpecifierKey × Nat)) :
  total (es ++ fs) = total es + total fs := by
 induction es with
 | nil => exact (Nat.zero_add _).symm
 | cons e es ih => rw [List.cons_append,total,ih,total,Nat.add_assoc]

/-- The marks, and once each definition among them, are paid for by the difference of two
credits. -/
def Paid (p n:Nat) (ms:List Mark) (m:Nat) : Prop :=
 ∃ entries : List (SpecifierKey × Nat), Entered p entries ms ∧
  n + chargeAll p ms + total entries ≤ m

namespace Paid

lemma nil (h:n ≤ m) : Paid p n [] m := ⟨[],(fun _ _ h => by cases h),h⟩

lemma append (h:Paid p n ms m) (h':Paid p m ns k) : Paid p n (ms ++ ns) k := by
 obtain ⟨entries,hentered,hle⟩:=h
 obtain ⟨entries',hentered',hle'⟩:=h'
 refine ⟨entries ++ entries',fun key body hm => ?_,?_⟩
 · rw [flatAll_append,List.mem_append] at hm
   rcases hm with hm | hm
   · exact hentered.mono (List.subset_append_left _ _) key body hm
   · exact hentered'.mono (List.subset_append_right _ _) key body hm
 · rw [chargeAll_append,total_append]
   omega

lemma within (h:Paid p n ns m) (hms:Within p ms ns) : Paid p n ms m := by
 obtain ⟨entries,hentered,hle⟩:=h
 have hcharge:=hms.charge
 exact ⟨entries,fun key body hm => hentered key body (hms.definitions key body hm),by omega⟩

lemma mono (h:Paid p n ms m) (hmk:m ≤ k) : Paid p n ms k := by
 obtain ⟨entries,hentered,hle⟩:=h
 exact ⟨entries,hentered,Nat.le_trans hle hmk⟩

lemma less (h:Paid p m ms k) (hnm:n ≤ m) : Paid p n ms k := by
 obtain ⟨entries,hentered,hle⟩:=h
 exact ⟨entries,hentered,by omega⟩

end Paid

end Mark

namespace TokenStream

def left (p:Nat) (s:TokenStream) : Nat := s.rest.countP (·.span.start == p)

lemma left_advance {s:TokenStream} (p:Nat) (h:s.current.kind.isEof = false) :
  s.advance.left p + s.current.span.credit p = s.left p := by
 obtain ⟨passed,rest,finish⟩:=s
 cases rest with
 | nil => cases h
 | cons t ts => exact List.countP_cons.symm

lemma left_advance_le (p:Nat) (s:TokenStream) : s.advance.left p ≤ s.left p := by
 obtain ⟨passed,rest,finish⟩:=s
 cases rest with
 | nil => exact Nat.le_refl _
 | cons t ts => exact List.Sublist.countP_le (List.sublist_cons_self t ts)

lemma left_ofTokens_le (p:Nat) (ts:List Token) :
  (ofTokens ts).left p ≤ ts.countP (·.span.start == p) := by
 unfold ofTokens
 split
 · exact Nat.zero_le _
 · split
   · exact (List.dropLast_sublist ts).countP_le
   · exact Nat.le_refl _

end TokenStream

end CCheck
