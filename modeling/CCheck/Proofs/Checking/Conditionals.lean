import CCheck.Proofs.Checking.CompoundAssignments
import CCheck.Proofs.Types.Compatibility

/-! # Conditional expressions

The branches of a conditional expression can be exchanged, except that of two pointers to compatible
types the first one gives the type. -/

set_option autoImplicit false

namespace CCheck

open Check

variable {α β:Type}

namespace CType

lemma commonInteger_comm (r:IntRank) (s:Bool) (r':IntRank) (s':Bool) :
  commonInteger r s r' s' = commonInteger r' s' r s := by
 cases s <;> cases s'
 · cases r <;> cases r' <;> rfl
 · rfl
 · rfl
 · cases r <;> cases r' <;> rfl

lemma common_comm (a b:CType) : a.common b = b.common a := by
 unfold common
 cases a.floatKind? with
 | none =>
  cases b.floatKind? with
  | none => exact commonInteger_comm _ _ _ _
  | some l => rfl
 | some k =>
  cases b.floatKind? with
  | none => rfl
  | some l => cases k <;> cases l <;> rfl

lemma targetsCompatible_comm (a b:CType) : a.targetsCompatible b = b.targetsCompatible a := by
 unfold targetsCompatible
 cases a.target? with
 | none => cases b.target? <;> rfl
 | some t =>
  cases b.target? with
  | none => rfl
  | some u => exact TypeKind.compatible_comm _ _

/-- Equal types, or pointers to types that are compatible but for their qualifiers. -/
def Matches (a b:CType) : Prop := a = b ∨ a.targetsCompatible b = true

lemma Matches.symm {a b:CType} (h:a.Matches b) : b.Matches a := by
 rw [Matches,targetsCompatible_comm]
 exact h.imp_left Eq.symm

lemma conditional?_pointers (t u:CType) :
  Option.Rel Matches ((pointer t).conditional? (pointer u) false false)
   ((pointer u).conditional? (pointer t) false false) := by
 have hrule (t u:CType) : (pointer t).conditional? (pointer u) false false =
   if (pointer t).targetsCompatible (pointer u) || t.isVoid then some (.pointer t)
   else if u.isVoid then some (.pointer u) else none := rfl
 rw [hrule,hrule,targetsCompatible_comm (pointer u)]
 cases hmatch : (pointer t).targetsCompatible (pointer u) with
 | true => exact .some (Or.inr hmatch)
 | false =>
  cases ht : t.isVoid <;> cases hu : u.isVoid
  · exact .none
  · exact .some (Or.inl rfl)
  · exact .some (Or.inl rfl)
  · obtain ⟨k,q⟩:=t
    obtain ⟨l,r⟩:=u
    cases k <;> cases ht
    cases l <;> cases hu
    cases hmatch

lemma conditional?_swap {k l:TypeKind} {m n:Bool} (hm:m = true → (plain k).isInteger = true)
  (hn:n = true → (plain l).isInteger = true) :
  Option.Rel Matches ((plain k).conditional? (plain l) m n)
   ((plain l).conditional? (plain k) n m) := by
 have only (b:Bool) (t:CType) :
   Option.Rel Matches (if b then some t else none) (if b then some t else none) := by
  cases b
  · exact .none
  · exact .some (Or.inl rfl)
 cases harith : (plain k).isArithmetic && (plain l).isArithmetic with
 | true =>
  unfold conditional?
  rw [Bool.and_comm (plain l).isArithmetic,harith]
  exact .some (Or.inl (common_comm _ _))
 | false =>
  cases k with
  | pointer t =>
   cases l with
   | pointer u =>
    obtain rfl : m = false:=Bool.eq_false_iff.mpr fun h => absurd (hm h) Bool.false_ne_true
    obtain rfl : n = false:=Bool.eq_false_iff.mpr fun h => absurd (hn h) Bool.false_ne_true
    exact conditional?_pointers t u
   | _ => exact only n _
  | void =>
   cases l with
   | pointer => exact only m _
   | void => exact .some (Or.inl rfl)
   | _ => exact .none
  | record i =>
   cases l with
   | pointer => exact only m _
   | record j =>
    have hrule (i j:Nat) (m n:Bool) : (plain (.record i)).conditional? (plain (.record j))
      m n = if i = j then some (plain (.record i)) else none := rfl
    rw [hrule,hrule]
    by_cases hij : i = j
    · subst hij
      rw [if_pos rfl]
      exact .some (Or.inl rfl)
    · rw [if_neg hij,if_neg (Ne.symm hij)]
      exact .none
   | _ => exact .none
  | _ =>
   cases l with
   | pointer => exact only m _
   | _ => first | exact .none | cases harith

end CType

/-- The step answers so in every state that knows the tags of this one, and makes none known. -/
def Check.Stable (x:Check α) (c:Checker) (o:Option α) : Prop :=
 ∀ d, c.Widens d → ∃ e, x.outcome d = (o,e) ∧ d.Alike e

section

variable {x:Check α} {c d:Checker} {o:Option α}

lemma Check.Stable.of_alike (h:Stable x d o) (hcd:c.Alike d) : Stable x c o :=
 fun e hce => h e (hcd.symm.widens.trans hce)

lemma Check.Repeats.stable (hx:Repeats x) (hc:c.TagsBound) (hrun:x.outcome c = (o,d))
  (hrecords:d.records = c.records) : Stable x c o := by
 intro e hce
 have hwidens:=hx.widens c hc
 have hagain:=hx.again c e hc
 rw [hrun] at hwidens hagain
 exact hagain ((hwidens.same hrecords).symm.widens.trans hce)

end

/-! ### Branches -/

lemma outcome_isNull_some (e:Expr) (t:CType) (v:Check Int64) (c:Checker) :
  ∃ b d, (isNull e t v).outcome c = (some b,d) ∧ (b = true → t.isInteger = true) := by
 unfold isNull
 split
 · rename_i h
   have hinteger:=((Bool.and_eq_true _ _).mp h).1
   unfold Check.outcome
   simp only [Check.attempt,bind,EStateM.bind]
   cases v c with
   | ok n d => exact ⟨_,_,rfl,fun _ => hinteger⟩
   | error f d => exact ⟨_,_,rfl,fun _ => hinteger⟩
 · exact ⟨_,_,rfl,fun h => absurd h Bool.false_ne_true⟩

lemma outcome_value_some {x:Check CType} {t:CType} {c d:Checker}
  (h:(value x).outcome c = (some t,d)) : t = .plain t.kind := by
 cases hx : x.outcome c with
 | mk o e =>
  rw [outcome_value hx] at h
  obtain ⟨u,-,rfl⟩:=Option.map_eq_some_iff.mp (congrArg Prod.fst h)
  rfl

lemma outcome_conditionalType (a b:CType) (m n:Bool) (span:Span) (c:Checker) :
  ((conditionalType a b m n span).outcome c).1 = a.conditional? b m n := by
 unfold conditionalType
 cases a.conditional? b m n <;> rfl

def Check.branch (e:Expr) : Check (CType × Bool) := do
 let t ← value (checkExpr e)
 return (t,← isNull e t (evalConst e))

/-- The branch makes no tag known. -/
def Expr.AddsNoTag (e:Expr) (c:Checker) : Prop := ((branch e).outcome c).2.records = c.records

/-- The type of the branch, and whether it is a null pointer, do not change with the tags that the
other branch makes known. -/
inductive Expr.Fixed (e:Expr) (c:Checker) : Prop
 | refused (type:Stable (value (checkExpr e)) c none) : Fixed e c
 | typed {k:TypeKind} {n:Bool} (type:Stable (value (checkExpr e)) c (some (.plain k)))
   (null:Stable (isNull e (.plain k) (evalConst e)) c (some n))
   (integer:n = true → (CType.plain k).isInteger = true) : Fixed e c

lemma Expr.AddsNoTag.fixed {e:Expr} {c:Checker} (h:e.AddsNoTag c) (he:(Piece.expr e).Refers)
  (hc:c.TagsBound) : e.Fixed c := by
 unfold AddsNoTag branch at h
 have hrepeats:=(repeats_checkExpr he).value
 have hwidens:=hrepeats.widens c hc
 cases hrun : (value (checkExpr e)).outcome c with
 | mk o d =>
  rw [hrun] at hwidens
  cases o with
  | none =>
   rw [outcome_bind_none hrun] at h
   exact .refused (hrepeats.stable hc hrun h)
  | some t =>
   obtain ⟨n,d',hnull,hinteger⟩:=outcome_isNull_some e t (evalConst e) d
   rw [outcome_bind_some hrun,outcome_bind_some hnull] at h
   have hnulls:=repeats_isNull e t (repeats_evalConst he)
   have hd:=hwidens.tagsBound hc
   have hwidens':=hnulls.widens d hd
   rw [hnull] at hwidens'
   have hrecords:d.records = c.records:=hwidens.records_eq hwidens' h
   have hstable:=hnulls.stable hd hnull (h.trans hrecords.symm)
   have hkind:=outcome_value_some hrun
   rw [hkind] at hrun hstable hinteger
   exact .typed (hrepeats.stable hc hrun hrecords)
    (hstable.of_alike (hwidens.same hrecords)) hinteger

def Check.branches (yes no:Expr) : Check CType := do
 let a ← value (checkExpr yes)
 let b ← value (checkExpr no)
 let aIsNull ← isNull yes a (evalConst yes)
 let bIsNull ← isNull no b (evalConst no)
 conditionalType a b aIsNull bIsNull no.span

lemma exchanged_branches {yes no:Expr} (hyes:(Piece.expr yes).Refers) {c:Checker}
  (hc:c.TagsBound) (h:no.Fixed c) :
  Option.Rel CType.Matches ((branches yes no).outcome c).1 ((branches no yes).outcome c).1 := by
 have hkeeps:unmarked.Keeps (value (checkExpr yes)):=unmarked.keeps_rvalue (allows_all _)
 have hwidens:=(repeats_checkExpr hyes).value.widens c hc
 unfold branches
 cases h with
 | refused type =>
  obtain ⟨d,hd,-⟩:=type c (Checker.Alike.refl c).widens
  rw [outcome_bind_none hd]
  cases hrun : (value (checkExpr yes)).outcome c with
  | mk o c₁ =>
   rw [hrun] at hwidens
   cases o with
   | none =>
    rw [outcome_bind_none hrun]
    exact .none
   | some a =>
    obtain ⟨c₂,hc₂,-⟩:=type c₁ hwidens
    rw [outcome_bind_some hrun,outcome_bind_none hc₂]
    exact .none
 | @typed l n type null integer =>
  obtain ⟨d₁,hd₁,h₁⟩:=type c (Checker.Alike.refl c).widens
  rw [outcome_bind_some hd₁]
  cases hrun : (value (checkExpr yes)).outcome c with
  | mk o c₁ =>
   obtain ⟨d₂,hd₂,h₂⟩:=h₁.outcome hkeeps hrun
   rw [hrun] at hwidens
   cases o with
   | none =>
    rw [outcome_bind_none hrun,outcome_bind_none hd₂]
    exact .none
   | some a =>
    -- Both orders come to states that are alike before they look for null pointers.
    obtain ⟨c₂,hc₂,hc₁₂⟩:=type c₁ hwidens
    obtain ⟨m,c₃,hc₃,hinteger⟩:=outcome_isNull_some yes a (evalConst yes) c₂
    have hnull:=(repeats_isNull yes a (repeats_evalConst hyes)).widens c₂
     ((hwidens.trans hc₁₂.widens).tagsBound hc)
    rw [hc₃] at hnull
    obtain ⟨c₄,hc₄,-⟩:=null c₃ ((hwidens.trans hc₁₂.widens).trans hnull)
    obtain ⟨d₃,hd₃,h₃⟩:=null d₂ (hwidens.trans h₂.widens)
    obtain ⟨d₄,hd₄,-⟩:=((hc₁₂.symm.trans h₂).trans h₃).outcome
     (unmarked.keeps_isNull yes a (unmarked.keeps_evalConst (allows_all _))) hc₃
    rw [outcome_bind_some hrun,outcome_bind_some hc₂,outcome_bind_some hc₃,
     outcome_bind_some hc₄,outcome_conditionalType]
    rw [outcome_bind_some hd₂,outcome_bind_some hd₃,outcome_bind_some hd₄,
     outcome_conditionalType]
    rw [outcome_value_some hrun] at hinteger ⊢
    exact CType.conditional?_swap hinteger integer

/-- Both orders of the branches are accepted or neither is, with the same type or with those of two
pointers to types that are compatible but for their qualifiers. Nothing must be defined in the
expression, and one of the branches make no tag known: records are numbered as their tags are met, so
that two branches which both do so refer to other numbers when they are exchanged. -/
theorem conditional_exchanged {c:Checker} (hc:c.TagsBound) {test yes no:Expr}
  (htest:(Piece.expr test).Refers) (hyes:(Piece.expr yes).Refers)
  (hno:(Piece.expr no).Refers) (span span':Span)
  (hrecords:∀ d, (condition test (checkExpr test)).outcome c = (some (),d) →
   yes.AddsNoTag d ∨ no.AddsNoTag d) :
  Option.Rel CType.Matches ((checkExpr (.cond test yes no span)).outcome c).1
   ((checkExpr (.cond test no yes span')).outcome c).1 := by
 have hcond (yes no:Expr) (span:Span) : checkExpr (.cond test yes no span) =
   condition test (checkExpr test) >>= fun _ => branches yes no := by
  rw [checkExpr]
  rfl
 have hwidens:=(repeats_condition test (repeats_checkExpr htest)).widens c hc
 rw [hcond,hcond]
 cases hrun : (condition test (checkExpr test)).outcome c with
 | mk o d =>
  rw [hrun] at hwidens
  cases o with
  | none =>
   rw [outcome_bind_none hrun,outcome_bind_none hrun]
   exact .none
  | some _ =>
   have hd:=hwidens.tagsBound hc
   rw [outcome_bind_some hrun,outcome_bind_some hrun]
   rcases hrecords d hrun with hfirst | hsecond
   · have hexchanged:=exchanged_branches hno hd (hfirst.fixed hyes hd)
     generalize ((branches no yes).outcome d).1 = o at hexchanged
     generalize ((branches yes no).outcome d).1 = o' at hexchanged
     cases hexchanged with
     | none => exact .none
     | some hmatches => exact .some hmatches.symm
   · exact exchanged_branches hyes hd (hsecond.fixed hno hd)

/-- `'a' ? (p *)'a' : (q *)'a'` for `int` with two sets of qualifiers. -/
def qualifiedBranches (p q:Qualifiers) : Expr :=
 let test : Expr:=.literal (.char 97 .nowhere)
 let branch (q:Qualifiers) : Expr:=
  .cast ⟨.pointer ⟨.base .int,q,.nowhere⟩,.none,.nowhere⟩ test .nowhere
 .cond test (branch p) (branch q) .nowhere

theorem conditional_exchanged_qualified :
  Option.Rel CType.Matches ((checkExpr (qualifiedBranches .none .const)).outcome (.start false)).1
   ((checkExpr (qualifiedBranches .const .none)).outcome (.start false)).1 := by
 have hstart:(Checker.start false).TagsBound:=Moment.Course.tagsBound (.refl (.start false))
 refine conditional_exchanged hstart ?_ ?_ ?_ _ _ fun d hd => .inl ?_
 case refine_4 =>
  cases hd
  unfold Expr.AddsNoTag
  decide +kernel
 all_goals repeat' first
  | refine .intro rfl ?_
  | refine List.forall_mem_cons.mpr ⟨?_,?_⟩
  | exact List.forall_mem_nil _

theorem conditional_loses_const :
  ((checkExpr (qualifiedBranches .none .const)).outcome (.start false)).1 =
    some (.pointer .int) ∧
   ((checkExpr (qualifiedBranches .const .none)).outcome (.start false)).1 =
    some (.pointer (CType.int.qualify .const)) := by
 decide +kernel

end CCheck
