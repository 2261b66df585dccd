import CCheck.Proofs.Checking.Repetition

/-! # Compound assignments

A compound assignment has the type of its expansion, whose target is checked once more. -/

set_option autoImplicit false

namespace CCheck

open Check

variable {α:Type}

variable {base op:BinOp} {c d e:Checker} {o:Option CType} {operand target:Expr} {span:Span}
 {t:CType}

namespace CType

lemma value_eq_unqualified (ha:t.isArray = false) (hf:t.isFunction = false) :
  t.value = t.unqualified := by
 obtain ⟨k,q⟩:=t
 cases k with
 | array => cases ha
 | function => cases hf
 | _ => rfl

lemma value_value (t:CType) : t.value.value = t.value := by
 obtain ⟨k,q⟩:=t
 cases k <;> rfl

lemma value_promote (t:CType) : t.value.promote.value = t.value.promote := by
 obtain ⟨k,q⟩:=t
 cases k with
 | int rank signed => cases rank <;> rfl
 | _ => rfl

lemma value_common (a b:CType) : (a.common b).value = a.common b := by
 obtain ⟨k,h⟩ | ⟨r,s,h⟩:=common_cases a b <;> rw [h] <;> rfl

end CType

lemma BinOp.value_type? {r:Registry} {a b:CType} {m n:Bool}
  (h:op.type? r a.value b.value m n = some t) : t.value = t := by
 unfold BinOp.type? at h
 cases op <;> dsimp only at h <;> repeat' split at h
 all_goals cases h
 all_goals first
  | rfl
  | exact a.value_value
  | exact b.value_value
  | exact a.value_promote
  | exact CType.value_common _ _

/-! ### Steps -/

lemma outcome_value {x:Check CType}
  (h:x.outcome c = (o,d)) : (value x).outcome c = (o.map CType.value,d) := by
 cases o with
 | none => exact outcome_bind_none h
 | some t => exact outcome_bind_some h

lemma Checker.Alike.outcome {x:Check α} (hx:unmarked.Keeps x)
  {o:Option α} (hcd:c.Alike d) (h:x.outcome c = (o,e)) :
  ∃ e', x.outcome d = (o,e') ∧ e.Alike e' := by
 unfold Check.outcome at h ⊢
 obtain ⟨a,c',d',hc,hd,halike⟩ | ⟨f,c',d',hc,hd,halike⟩:=(hx c d hcd).run
 · rw [hc] at h
   cases h
   exact ⟨d',by rw [hd],halike⟩
 · rw [hc] at h
   cases h
   exact ⟨d',by rw [hd],halike⟩

lemma outcome_modifiable {e:Expr} {u:CType}
  (h:(modifiable e (pure t)).outcome c = (some u,d)) :
  (designatesObject e).outcome c = (some true,c) ∧ u = t.unqualified ∧ t.isArray = false ∧
   t.isFunction = false := by
 obtain ⟨o,ho,-⟩:=inspects_designatesObject e c c (Checker.Alike.refl c).widens
 unfold modifiable at h
 rw [pure_bind] at h
 cases o with
 | none =>
  rw [outcome_bind_none ho] at h
  cases h
 | some b =>
  rw [outcome_bind_some ho] at h
  cases b with
  | false => cases h
  | true =>
   cases ha : t.isArray with
   | true =>
    rw [ha] at h
    cases h
   | false =>
    cases hf : t.isFunction with
    | true =>
     rw [ha,hf] at h
     cases h
    | false =>
     cases hconst : t.isConst with
     | true =>
      rw [ha,hf,hconst] at h
      cases h
     | false =>
      rw [ha,hf,hconst] at h
      cases h
      exact ⟨ho,rfl,rfl,rfl⟩

lemma outcome_identConstant {i:Ident}
  (h:(designatesObject (.ident i)).outcome c = (some true,c)) :
  (identConstant i).outcome c = (none,c) := by
 have hlook:(lookup? i.name).outcome c = (some (c.symbols.lookup? i.name),c):=rfl
 have hany:(c.symbols.lookup? i.name).any (·.kind == .var) = true:=
  Option.some.inj (congrArg Prod.fst h)
 obtain ⟨x,hx,hkind⟩:=(Option.any_eq_true _ _).mp hany
 rw [identConstant,outcome_bind_some hlook,hx,Option.map_some,eq_of_beq hkind]
 rfl

lemma mayBeNull_of_designatesObject {e:Expr}
  (h:(designatesObject e).outcome c = (some true,c)) :
  (∃ i, e = .ident i) ∨ e.mayBeNull = false := by
 cases e with
 | ident i => exact .inl ⟨i,rfl⟩
 | unary op e span => cases op <;> first | exact .inr rfl | cases h
 | index | member => exact .inr rfl
 | _ => cases h

lemma outcome_isNull
  (h:(designatesObject target).outcome c = (some true,c)) (t:CType) :
  (isNull (.binary op target operand span) t (evalConst (.binary op target operand span))).outcome
   c = (some false,c) := by
 unfold isNull
 split
 · rename_i hnull
   obtain ⟨i,rfl⟩ | hnot:=mayBeNull_of_designatesObject h
   · have hnone:(evalConst (.binary op (.ident i) operand span)).outcome c = (none,c):=
      outcome_bind_none (outcome_identConstant h)
     unfold Check.outcome at hnone ⊢
     simp only [Check.attempt,bind,EStateM.bind]
     cases hrun : evalConst (.binary op (.ident i) operand span) c with
     | ok v d =>
      rw [hrun] at hnone
      cases hnone
     | error f d =>
      rw [hrun] at hnone
      cases hnone
      rfl
   · rw [Expr.mayBeNull,hnot,Bool.false_and,Bool.and_false] at hnull
     cases hnull
 · rfl

lemma outcome_storeType (htarget:(Piece.expr target).Refers)
  (hc:c.TagsBound) (h:(checkExpr target).outcome c = (o,d)) :
  ∃ d', (storeType target (checkExpr target)).outcome c = (o,d') ∧ d'.Alike d ∧
   ∃ e, (checkExpr target).outcome d' = (o,e) ∧ d.Alike e := by
 have again:∃ e, (checkExpr target).outcome d = (o,e) ∧ d.Alike e := by
  have hagain:=(repeats_checkExpr htarget).again c d hc
  rw [h] at hagain
  exact hagain (Checker.Alike.refl d).widens
 cases target with
 | ident i =>
  obtain ⟨o',ho,-⟩:=inspects_identType i c c (Checker.Alike.refl c).widens
  have heq:o' = o ∧ c.Alike d := by
   cases o' with
   | none =>
    cases h.symm.trans (outcome_bind_none ho)
    exact ⟨rfl,.refl c⟩
   | some t =>
    cases h.symm.trans (outcome_bind_some ho)
    exact ⟨rfl,.markUsed c i.name⟩
  obtain ⟨rfl,halike⟩:=heq
  exact ⟨c,ho,halike,d,h,.refl d⟩
 | _ => exact ⟨d,h,.refl d,again⟩

/-! ### Assignments -/

lemma AssignOp.takesNull_of_binary? {op:AssignOp} (h:op.binary? = some base) :
  base.takesNull = false := by
 cases op <;> cases h <;> rfl

lemma checkExpr_operands (h:op.takesNull = false) (l r:Expr) (span:Span) :
  checkExpr (.binary op l r span) = (do
   let a ← value (checkExpr l)
   let b ← value (checkExpr r)
   binaryType op a b false false span) := by
 rw [checkExpr,h]
 rfl

lemma checkExpr_compound {op:AssignOp} (h:op.binary? = some base)
  (target operand:Expr) (span:Span) :
  checkExpr (.assign op target operand span) = (do
   let t ← checkExpr target
   let u ← modifiable target (pure t)
   let v ← value (checkExpr operand)
   compound base u v span) := by
 rw [checkExpr,h]
 simp only [modifiable,pure_bind,bind_assoc]

lemma checkExpr_assign (target e:Expr) (span:Span) :
  checkExpr (.assign .assign target e span) = (do
   let t ← storeType target (checkExpr target)
   let u ← modifiable target (pure t)
   let _ ← convert u e (checkExpr e) (evalConst e)
   pure u) := by
 rw [checkExpr]
 simp only [modifiable,pure_bind,bind_assoc]
 rfl

/-- The type of what a compound assignment stores in a target of the type `t`, for an operand of
the type `u`. -/
def BinOp.stored? (r:Registry) (op:BinOp) (t u:CType) : Option CType :=
 (op.type? r t u.value false false).filter (t.assignable · false)

lemma outcome_compound
  (hoperand:(checkExpr operand).outcome c = (o,d)) :
  ((do compound op t (← value (checkExpr operand)) span).outcome c).1 =
   (o.bind (op.stored? d.records t)).map fun _ => t := by
 cases o with
 | none => rw [outcome_bind_none (outcome_value hoperand)]; rfl
 | some u =>
  have hbinary:(binaryType op t u.value false false span).outcome d = _:=
   outcome_binaryType op false false
  rw [outcome_bind_some (outcome_value hoperand),compound,Option.bind_some,BinOp.stored?]
  cases htype : op.type? d.records t u.value false false with
  | none =>
   rw [htype] at hbinary
   rw [outcome_bind_none hbinary]
   rfl
  | some v =>
   rw [htype] at hbinary
   rw [outcome_bind_some hbinary,Option.filter_some]
   split <;> rfl

lemma outcome_expansion (hop:op.takesNull = false)
  {inner:Span} (hvalue:t.value = t.unqualified)
  (htarget:(checkExpr target).outcome c = (some t,d))
  (hoperand:(checkExpr operand).outcome d = (o,e))
  (hdesignates:(designatesObject target).outcome e = (some true,e)) :
  ((do
   let _ ← convert t.unqualified (.binary op target operand inner)
    (checkExpr (.binary op target operand inner)) (evalConst (.binary op target operand inner))
   pure t.unqualified).outcome c).1 =
   (o.bind (op.stored? e.records t.unqualified)).map fun _ => t.unqualified := by
 have hbinary:(checkExpr (.binary op target operand inner)).outcome c =
   (o.bind fun u => op.type? e.records t.unqualified u.value false false,e) := by
  rw [checkExpr_operands hop,outcome_bind_some (outcome_value htarget),hvalue]
  cases o with
  | none => exact outcome_bind_none (outcome_value hoperand)
  | some u => exact (outcome_bind_some (outcome_value hoperand)).trans (outcome_binaryType _ _ _)
 rw [convert,bind_assoc]
 cases o with
 | none => rw [outcome_bind_none (outcome_value hbinary)]; rfl
 | some u =>
  rw [Option.bind_some] at hbinary
  rw [Option.bind_some,BinOp.stored?]
  cases htype : op.type? e.records t.unqualified u.value false false with
  | none =>
   rw [htype] at hbinary
   rw [outcome_bind_none (outcome_value hbinary)]
   rfl
  | some v =>
   rw [htype] at hbinary
   have hv:v.value = v:=BinOp.value_type? (hvalue ▸ htype)
   rw [outcome_bind_some (outcome_value hbinary),bind_assoc,
    outcome_bind_some (outcome_isNull hdesignates _),hv,Option.filter_some,
    show t.unqualified.unqualified = t.unqualified from rfl]
   split <;> rfl

/-- A compound assignment has the type of its expansion, and fails where this fails, unless the
operands define a struct, a union or an enumeration. -/
theorem compound_assignment_as_expansion {c:Checker} (hc:c.TagsBound) {op:AssignOp}
  {base:BinOp} (hop:op.binary? = some base) {target operand:Expr}
  (htarget:(Piece.expr target).Refers) (hoperand:(Piece.expr operand).Refers)
  (span inner outer:Span) :
  ((checkExpr (.assign op target operand span)).outcome c).1 =
   ((checkExpr (.assign .assign target (.binary base target operand inner) outer)).outcome
    c).1 := by
 rw [checkExpr_compound hop,checkExpr_assign]
 cases hrun : (checkExpr target).outcome c with
 | mk o d =>
  obtain ⟨d',hstore,halike,e,hagain,halike'⟩:=outcome_storeType htarget hc hrun
  cases o with
  | none => rw [outcome_bind_none hrun,outcome_bind_none hstore]
  | some t =>
   rw [outcome_bind_some hrun,outcome_bind_some hstore]
   obtain ⟨o,hmodify',hmodify⟩:=inspects_modifiable target t d' d halike.widens
   cases o with
   | none => rw [outcome_bind_none hmodify,outcome_bind_none hmodify']
   | some u =>
    obtain ⟨hdesignates,rfl,harray,hfunction⟩:=outcome_modifiable hmodify
    rw [outcome_bind_some hmodify,outcome_bind_some hmodify']
    -- The operand is checked after the target, once and twice.
    cases hfirst : (checkExpr operand).outcome d with
    | mk s f =>
     obtain ⟨f',hsecond,halike''⟩:=
      halike'.outcome (unmarked.keeps_checkExpr (allows_all _)) hfirst
     have hd:d.TagsBound := by
      have hwidens:=(repeats_checkExpr htarget).widens c hc
      rw [hrun] at hwidens
      exact hwidens.tagsBound hc
     have hwidens:d.Widens f' := by
      have hwidens:=(repeats_checkExpr hoperand).widens d hd
      rw [hfirst] at hwidens
      exact hwidens.trans halike''.widens
     obtain ⟨b,hb,hlater⟩:=inspects_designatesObject target d f' hwidens
     cases hb.symm.trans hdesignates
     rw [outcome_compound hfirst,outcome_expansion (AssignOp.takesNull_of_binary? hop)
      (CType.value_eq_unqualified harray hfunction) hagain hsecond hlater,halike''.records]

lemma Moment.Course.tagsBound {m:Moment} {warnUnused:Bool}
  (h:(Moment.start warnUnused).Course m) : m.state.TagsBound :=
 fun _ _ ht => h.anchored.references.symbols.tag? ht

/-- `*(struct s ***)'a'`, which makes the tag known. -/
def forwardTarget (span:Span) : Expr :=
 let forward : TypeExpr := ⟨.record ⟨.struct,some ⟨"s",span⟩,none,span⟩,.none,span⟩
 let pointer (t:TypeExpr) : TypeExpr:=⟨.pointer t,.none,span⟩
 .unary .deref (.cast (pointer (pointer (pointer forward))) (.literal (.char 97 span)) span) span

lemma refers_forwardTarget (span:Span) : (Piece.expr (forwardTarget span)).Refers := by
 repeat' first
  | refine .intro rfl ?_
  | refine List.forall_mem_cons.mpr ⟨?_,?_⟩
  | exact List.forall_mem_nil _

theorem compound_assignment_as_expansion_forward :
  ((checkExpr (.assign .assign (forwardTarget .nowhere)
   (.binary .add (forwardTarget .nowhere) (.literal (.char 97 .nowhere)) .nowhere)
   .nowhere)).outcome (.start false)).1 = some (.pointer (.pointer (.plain (.record 0)))) := by
 have hstart:(Checker.start false).TagsBound:=Moment.Course.tagsBound (.refl (.start false))
 have hop:AssignOp.add.binary? = some .add:=rfl
 rw [← compound_assignment_as_expansion hstart hop (refers_forwardTarget _)
  (.intro rfl (List.forall_mem_nil _)) .nowhere]
 decide +kernel

end CCheck
