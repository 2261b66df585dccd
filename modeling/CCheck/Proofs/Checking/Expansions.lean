import CCheck.Proofs.Checking.After

/-! # Operators that stand for others

A subscript is a dereferenced sum, and an arrow selects a member of what is pointed to. -/

set_option autoImplicit false

namespace CCheck

open Check

variable {α β:Type}

/-- What a step answers, if it does not fail, and the state that it leaves behind. -/
def Check.outcome (x:Check α) (c:Checker) : Option α × Checker :=
 match x c with
 | .ok a d => (some a,d)
 | .error _ d => (none,d)

section

variable {x:Check α} {k l:α → Check β} {c:Checker}

lemma outcome_look (c:Checker) : (get:Check Checker).outcome c = (some c,c) := rfl

lemma outcome_bind_congr (h:∀ a d, (k a).outcome d = (l a).outcome d) :
  (x >>= k).outcome c = (x >>= l).outcome c := by
 unfold Check.outcome at h ⊢
 simp only [bind,EStateM.bind]
 cases x c with
 | ok a d => exact h a d
 | error f d => rfl

lemma outcome_bind_some {a:α} {d:Checker} (h:x.outcome c = (some a,d)) :
  (x >>= k).outcome c = (k a).outcome d := by
 unfold Check.outcome at h ⊢
 simp only [bind,EStateM.bind]
 cases hx : x c with
 | ok b e =>
  rw [hx] at h
  cases h
  rfl
 | error f e =>
  rw [hx] at h
  cases h

lemma outcome_bind_none {d:Checker} (h:x.outcome c = (none,d)) :
  (x >>= k).outcome c = (none,d) := by
 unfold Check.outcome at h ⊢
 simp only [bind,EStateM.bind]
 cases hx : x c with
 | ok b e =>
  rw [hx] at h
  cases h
 | error f e =>
  rw [hx] at h
  cases h
  rfl

end

section

variable {c:Checker} {a b:CType} {span:Span}

lemma outcome_binaryType (op:BinOp) (m n:Bool) :
  (binaryType op a b m n span).outcome c = (op.type? c.records a b m n,c) := by
 rw [binaryType,outcome_bind_some (outcome_look c)]
 cases op.type? c.records a b m n <;> rfl

lemma outcome_unaryType (op:UnaryOp) :
  (unaryType op a span).outcome c = (op.type? c.records a,c) := by
 rw [unaryType,outcome_bind_some (outcome_look c)]
 cases op.type? c.records a <;> rfl

lemma outcome_isComplete (t:CType) :
  (Check.isComplete t).outcome c = (some (c.records.isComplete t),c) := rfl

lemma outcome_elementType (base:Expr) :
  (elementType base a b span).outcome c =
   ((a.element? b).filter fun t => !t.isFunction && c.records.isComplete t,c) := by
 unfold elementType
 cases a.element? b with
 | none => rfl
 | some t =>
  dsimp only
  rw [outcome_bind_some (outcome_isComplete t),Option.filter_some]
  cases t.isFunction <;> cases c.records.isComplete t <;> rfl

lemma outcome_memberType (member:Ident) :
  (memberType a member span).outcome c =
   (if a.isRecord && c.records.isComplete a then
    (c.records.member? a member.name).map fun f => f.type.qualify a.quals else none,c) := by
 unfold memberType
 cases a.isRecord with
 | false => rfl
 | true =>
  rw [if_neg (by decide),outcome_bind_some (outcome_isComplete a)]
  cases c.records.isComplete a with
  | false => rfl
  | true =>
   rw [if_neg (by decide),outcome_bind_some (outcome_look c)]
   cases c.records.member? a member.name <;> rfl

lemma outcome_arrowTarget : (arrowTarget a span).outcome c = (a.target?,c) := by
 unfold arrowTarget
 cases a.target? <;> rfl

end

/-! ### Subscripts and arrows -/

lemma CType.commonInteger_eq (r:IntRank) (s:Bool) (r':IntRank) (s':Bool) :
  ∃ u v, commonInteger r s r' s' = .integer u v := by
 unfold CType.commonInteger
 repeat' split
 all_goals exact ⟨_,_,rfl⟩

lemma CType.common_cases (a b:CType) :
  (∃ k, a.common b = .floating k) ∨ ∃ r s, a.common b = .integer r s := by
 unfold CType.common
 split
 · exact .inl ⟨_,rfl⟩
 · exact .inl ⟨_,rfl⟩
 · exact .inl ⟨_,rfl⟩
 · exact .inr (commonInteger_eq _ _ _ _)

lemma CType.value_of_target? {a t:CType} (h:a.target? = some t) :
  a.value = .pointer t := by
 obtain ⟨k,q⟩:=a
 cases k <;> cases h
 rfl

lemma CType.not_arithmetic_of_target? {a t:CType} (h:a.target? = some t) :
  a.isArithmetic = false ∧ a.isInteger = false := by
 obtain ⟨k,q⟩:=a
 cases k <;> cases h
 exact ⟨rfl,rfl⟩

lemma Registry.isObjectPointer_of_target? (r:Registry) {a t:CType}
  (h:a.target? = some t) : r.isObjectPointer a = (!t.isFunction && r.isComplete t) := by
 rw [isObjectPointer,h,Option.any_some]

lemma Registry.not_isObjectPointer (r:Registry) {a:CType} (h:a.target? = none) :
  r.isObjectPointer a = false := by
 rw [isObjectPointer,h,Option.any_none]

lemma Registry.deref_value {r:Registry} {a t:CType} (h:a.target? = some t)
  (hmoved:r.isObjectPointer a = true) : UnaryOp.deref.type? r a.value = some t := by
 rw [r.isObjectPointer_of_target? h,Bool.and_eq_true] at hmoved
 have hvoid:t.isVoid = false := by
  obtain ⟨k,q⟩:=t
  cases k <;> first | rfl | exact absurd hmoved.2 Bool.false_ne_true
 rw [CType.value_of_target? h]
 change (some t).filter (!·.isVoid) = some t
 rw [Option.filter_some,hvoid,Bool.not_false,if_pos rfl]

lemma CType.element?_filter (r:Registry) (a b:CType) :
  (a.element? b).filter (fun t => !t.isFunction && r.isComplete t) =
   (BinOp.add.type? r a b false false).bind fun t => UnaryOp.deref.type? r t.value := by
 unfold CType.element? BinOp.type?
 cases ha : a.target? with
 | some t =>
  obtain ⟨harith,hint⟩:=not_arithmetic_of_target? ha
  cases hb : b.target? with
  | some u =>
   obtain ⟨-,hint'⟩:=not_arithmetic_of_target? hb
   simp [harith,hint,hint']
  | none =>
   have hmoved:=r.isObjectPointer_of_target? ha
   cases h : r.isObjectPointer a <;> cases b.isInteger <;>
    simp [harith,hint,h,← hmoved,r.deref_value ha,Option.filter_some,
     -Bool.not_eq_eq_eq_not,-Bool.and_eq_true]
 | none =>
  cases hb : b.target? with
  | some u =>
   obtain ⟨harith,hint⟩:=not_arithmetic_of_target? hb
   have hmoved:=r.isObjectPointer_of_target? hb
   cases h : r.isObjectPointer b <;> cases a.isInteger <;>
    simp [harith,hint,h,← hmoved,r.not_isObjectPointer ha,r.deref_value hb,
     Option.filter_some,-Bool.not_eq_eq_eq_not,-Bool.and_eq_true]
  | none =>
   have hcommon:UnaryOp.deref.type? r (a.common b).value = none := by
    obtain ⟨k,h⟩ | ⟨u,v,h⟩:=common_cases a b <;> rw [h] <;> rfl
   cases a.isArithmetic <;> cases b.isArithmetic <;>
    simp [r.not_isObjectPointer ha,r.not_isObjectPointer hb,hcommon]

lemma checkExpr_deref (e:Expr) (span:Span) :
  checkExpr (.unary .deref e span) = value (checkExpr e) >>= (unaryType .deref · span) := by
 rw [checkExpr]
 rfl

lemma outcome_index (base index:Expr) (span inner outer:Span) (c:Checker) :
  (checkExpr (.index base index span)).outcome c =
   (checkExpr (.unary .deref (.binary .add base index inner) outer)).outcome c := by
 have hsum:checkExpr (.binary .add base index inner) = (do
   let a ← value (checkExpr base)
   let b ← value (checkExpr index)
   binaryType .add a b false false inner) := by
  rw [checkExpr]
  rfl
 rw [checkExpr_deref,hsum,checkExpr]
 simp only [value,bind_assoc,pure_bind]
 refine outcome_bind_congr fun a d => outcome_bind_congr fun b e => ?_
 rw [outcome_elementType,CType.element?_filter]
 have hadd:(binaryType .add a.value b.value false false inner).outcome e = _:=
  outcome_binaryType .add false false
 cases h : BinOp.add.type? e.records a.value b.value false false with
 | none => rw [outcome_bind_none (h ▸ hadd)]; rfl
 | some t => rw [outcome_bind_some (h ▸ hadd),outcome_unaryType]; rfl

lemma outcome_arrow (base:Expr) (member:Ident) (span inner outer:Span) (c:Checker) :
  (checkExpr (.member base member true span)).outcome c =
   (checkExpr (.member (.unary .deref base inner) member false outer)).outcome c := by
 have harrow:checkExpr (.member base member true span) =
   value (checkExpr base) >>= fun a => arrowTarget a span >>= (memberType · member span) := by
  rw [checkExpr]
  rfl
 have hdot (e:Expr) : checkExpr (.member e member false outer) =
   checkExpr e >>= (memberType · member outer) := by
  rw [checkExpr]
  rfl
 rw [harrow,hdot,checkExpr_deref,bind_assoc]
 refine outcome_bind_congr fun a d => ?_
 have harrow:(arrowTarget a span).outcome d = _:=outcome_arrowTarget
 have hderef:(unaryType .deref a inner).outcome d = _:=outcome_unaryType .deref
 rw [UnaryOp.type?] at hderef
 cases h : a.target? with
 | none =>
  rw [h] at harrow hderef
  rw [outcome_bind_none harrow,outcome_bind_none hderef]
 | some t =>
  rw [h] at harrow hderef
  rw [outcome_bind_some harrow]
  cases hvoid : t.isVoid with
  | true =>
   rw [Option.filter_some,hvoid] at hderef
   rw [outcome_bind_none hderef,outcome_memberType]
   obtain ⟨k,q⟩:=t
   cases k <;> first | rfl | cases hvoid
  | false =>
   rw [Option.filter_some,hvoid] at hderef
   rw [outcome_bind_some hderef,outcome_memberType,outcome_memberType]

/-- A subscript and an arrow have the types of their expansions, fail where these fail, and leave
the same state behind. -/
theorem typed_as_expansion (c:Checker) (base index pointer:Expr) (member:Ident)
  (span inner outer:Span) :
  (checkExpr (.index base index span)).outcome c =
    (checkExpr (.unary .deref (.binary .add base index inner) outer)).outcome c ∧
   (checkExpr (.member pointer member true span)).outcome c =
    (checkExpr (.member (.unary .deref pointer inner) member false outer)).outcome c :=
 ⟨outcome_index base index span inner outer c,outcome_arrow pointer member span inner outer c⟩

end CCheck
