import CCheck.Proofs.Checking.After
import CCheck.Proofs.Checking.SymbolRules
import CCheck.Proofs.Checking.TermLogic

/-! # Logics of programs

A logic with rules for scopes, jumps and declarations speaks of all statements, definitions and
units. -/

set_option autoImplicit false

namespace CCheck

open Check

variable {α β:Type} {ps:List Param} {span:Span} {ts:List CType} {u:CType}

/-! ### Parameters -/

structure CType.IsParameter (t:CType) : Prop where
 notVoid : t.isVoid = false
 notArray : t.isArray = false
 notFunction : t.isFunction = false

lemma CType.isParameter_decay {t:CType} (h:t.decay.isVoid = false) :
  t.decay.IsParameter := by
 obtain ⟨k,q⟩:=t
 cases k <;> exact ⟨h,rfl,rfl⟩

lemma paramType_eq_ok {name:Option Ident} {t:CType} {c d:Checker}
  (h:paramType name t span c = .ok u d) : u = t ∧ t.isVoid = false := by
 unfold paramType at h
 split at h
 · cases h
 · cases h
   exact ⟨rfl,(Bool.not_eq_true _).mp ‹_›⟩

lemma isParameter_resolveParam {p:Param} {t:CType} {c d:Checker}
  (h:resolveParam p c = .ok t d) : t.IsParameter := by
 obtain ⟨name,⟨form,quals,s⟩,span⟩:=p
 cases form with
 | array elem size vla =>
  obtain ⟨u,e,_,hu⟩:=bind_eq_ok h
  obtain ⟨rfl,_⟩:=paramType_eq_ok hu
  exact ⟨rfl,rfl,rfl⟩
 | _ =>
  obtain ⟨u,e,_,hu⟩:=bind_eq_ok h
  obtain ⟨rfl,hvoid⟩:=paramType_eq_ok hu
  exact CType.isParameter_decay hvoid

lemma isParameter_resolveParams {c d:Checker}
  (h:resolveParams ps c = .ok ts d) : ∀ t ∈ ts, t.IsParameter := by
 induction ps generalizing ts c with
 | nil =>
  cases h
  intro t ht
  cases ht
 | cons p ps ih =>
  obtain ⟨t,e,ht,hrest⟩:=bind_eq_ok h
  obtain ⟨us,e',hus,hpure⟩:=bind_eq_ok hrest
  cases hpure
  exact List.forall_mem_cons.mpr ⟨isParameter_resolveParam ht,ih hus⟩

lemma length_resolveParams {c d:Checker}
  (h:resolveParams ps c = .ok ts d) : ts.length = ps.length := by
 induction ps generalizing ts c with
 | nil =>
  cases h
  rfl
 | cons p ps ih =>
  obtain ⟨t,e,_,hrest⟩:=bind_eq_ok h
  obtain ⟨us,e',hus,hpure⟩:=bind_eq_ok hrest
  cases hpure
  exact congrArg (· + 1) (ih hus)

lemma resolveType_function_eq_ok {ret:TypeExpr} {params:List Param}
  {variadic prototyped:Bool} {quals:Qualifiers} {c d:Checker}
  (h:resolveType ⟨.function ret params variadic prototyped,quals,span⟩ c = .ok u d) :
  ∃ f e e', u.signature? = some f ∧ resolveParams params e = .ok f.params e' := by
 obtain ⟨v,e,hv,hpure⟩:=bind_eq_ok h
 cases hpure
 obtain ⟨w,e',_,hrest⟩:=bind_eq_ok hv
 obtain ⟨w',e'',_,hrest'⟩:=bind_eq_ok hrest
 obtain ⟨ts, e''',hts,hpure⟩:=bind_eq_ok hrest'
 cases hpure
 exact ⟨_,_,_,rfl,hts⟩

lemma CType.isFunction_of_signature {t:CType} {f:Signature} (h:t.signature? = some f) :
  t.isFunction = true := by
 obtain ⟨k,q⟩:=t
 cases k with
 | function g => rfl
 | _ => cases h

lemma resolveParams_of_head {t:TypeExpr} {f:Signature} {c d:Checker}
  (h:resolveType t c = .ok u d) (hf:u.signature? = some f) :
  t.params = [] ∨ ∃ e e', resolveParams t.params e = .ok f.params e' := by
 obtain ⟨form,quals,span⟩:=t
 cases form with
 | function ret params variadic prototyped =>
  obtain ⟨g,e,e',hg,hparams⟩:=resolveType_function_eq_ok h
  cases hg.symm.trans hf
  exact .inr ⟨e,e',hparams⟩
 | _ => exact .inl rfl

lemma isParameter_of_head {t:TypeExpr} {f:Signature} {c d:Checker}
  (h:resolveType t c = .ok u d) (hf:u.signature? = some f) :
  t.params = [] ∨ ∀ v ∈ f.params, v.IsParameter := by
 refine (resolveParams_of_head h hf).imp_right fun hparams => ?_
 obtain ⟨_,_,hparams⟩:=hparams
 exact isParameter_resolveParams hparams

lemma signature_of_definedSignature {head:FunctionDecl} {t:CType} {f:Signature}
  {c d:Checker} (h:definedSignature head t c = .ok f d) : t.signature? = some f := by
 unfold definedSignature at h
 cases hs : t.signature? with
 | none =>
  rw [hs] at h
  cases h
 | some g =>
  rw [hs] at h
  cases h
  rfl

/-! ### Logics -/

def FunctionContext.mapSpans (f:Span → Span) (c:FunctionContext) : FunctionContext :=
 { c with
   labels := c.labels.map (·.mapSpan f)
   gotos := c.gotos.map (·.mapSpan f)
   locals := c.locals.map (·.mapSpan f) }

lemma Symbol.map_mapSpan_id (xs:List Symbol) : xs.map (·.mapSpan id) = xs :=
 List.map_id xs

lemma FunctionContext.mapSpans_id (f:FunctionContext) : f.mapSpans id = f := by
 have idents:f.gotos.map (·.mapSpan id) = f.gotos:=List.map_id f.gotos
 simp only [mapSpans,Symbol.map_mapSpan_id,idents]

lemma FunctionContext.map_mapSpans_id (f:Option FunctionContext) :
  f.map (·.mapSpans id) = f := by
 cases f with
 | none => rfl
 | some f => rw [Option.map_some,FunctionContext.mapSpans_id]

def IsCaseWarning (message:String) : Prop :=
 ∃ t u, message = "case value of type '" ++ t ++ "' does not match switch type '" ++ u ++ "'"

structure Checker.Faces (ρ:Relocation) (c d:Checker) : Prop where
 flow : d.flow = c.flow
 switches : d.switches = c.switches
 function : d.function = c.function.map (·.mapSpans ρ)

lemma Checker.Faces.refl (c:Checker) : c.Faces .identity c :=
 ⟨rfl,rfl,(FunctionContext.map_mapSpans_id c.function).symm⟩

structure StatementLogic (ρ:Relocation) extends TermLogic ρ where
 expr : ∀ e, Admits (.expr e)
 form : ∀ t, Admits (.form t)
 initializer : ∀ i, Admits (.initializer i)
 declaration {κ} (d:Declaration) :
  Holds κ d.marks (checkDeclaration d) (checkDeclaration (d.mapSpans ρ)) fun _ => []
 jump {α κ μ} {cause:Cause} {f:α → List Nat} : cause.ofJump = true → ∀ span,
  Holds κ μ (Check.fail cause span) (Check.fail cause (ρ span)) f
 again {α κ μ x y} {f:α → List Nat} : Holds κ μ x y f → Holds κ [.again μ] x y f
 typeName {κ μ} t : Holds κ μ (typeName t) (typeName t) fun _ => []
 view {α κ μ} {k l:Checker → Check α} {f} :
  (∀ c d, c.Faces ρ d → Holds κ μ (k c) (l d) f) → Holds κ μ (get >>= k) (get >>= l) f
 reporting {κ μ x y} : Holds κ μ x y (fun _ => []) →
  Holds κ μ (reporting x) (reporting y) fun _ => []
 inScope {κ μ} {x y:Check Unit} : Holds κ μ x y (fun _ => []) →
  Holds κ μ (inScope x) (inScope y) fun _ => []
 withFlow {κ μ} {x y:Check Unit} change : Holds κ μ x y (fun _ => []) →
  Holds κ μ (withFlow change x) (withFlow change y) fun _ => []
 inSwitch {κ μ} {x y:Check Unit} frame : (tracks → frame.type.recordIds ⊆ κ) →
  Holds κ μ x y (fun _ => []) → Holds κ μ (inSwitch frame x) (inSwitch frame y) fun _ => []
 addCase {κ} v : Holds κ [] (updateSwitch fun f => { f with values := v :: f.values })
  (updateSwitch fun f => { f with values := v :: f.values }) fun _ => []
 addDefault {κ} : Holds κ [] (updateSwitch fun f => { f with hasDefault := true })
  (updateSwitch fun f => { f with hasDefault := true }) fun _ => []
 warn {κ message} : IsCaseWarning message → ∀ span,
  Holds κ [] (warn message span) (warn message (ρ span)) fun _ => []
 returned {κ} t : (tracks → t.recordIds ⊆ κ) →
  Holds κ [] (updateFunction fun f => { f with returns := f.returns ++ [t] })
   (updateFunction fun f => { f with returns := f.returns ++ [t] }) fun _ => []
 goto {κ} i : Holds κ [] (updateFunction fun f => { f with gotos := f.gotos ++ [i] })
  (updateFunction fun f => { f with gotos := f.gotos ++ [i.mapSpan ρ] }) fun _ => []
 label {κ} i : Holds κ []
  (updateFunction fun f => { f with labels := f.labels ++ [.fresh i .label .void none true] })
  (updateFunction fun f =>
   { f with labels := f.labels ++ [.fresh (i.mapSpan ρ) .label .void none true] }) fun _ => []

structure ProgramLogic (ρ:Relocation) extends StatementLogic ρ where
 heading {κ} name t storage : (tracks → t.recordIds ⊆ κ) →
  Holds κ [] (declareFunction name t storage true)
   (declareFunction (name.mapSpan ρ) t storage true) fun _ => []
 param {κ} name t : t.IsParameter → (tracks → t.recordIds ⊆ κ) →
  Holds κ [] (declare (.param name t)) (declare (.param (name.mapSpan ρ) t)) fun _ => []
 enterFunction {κ} name t : (tracks → t.recordIds ⊆ κ) →
  Holds κ [] (enterFunction name t) (enterFunction name t) fun _ => []
 leaveFunction {κ} t : (tracks → t.recordIds ⊆ κ) →
  Holds κ [] (modify (·.leaveFunction t)) (modify (·.leaveFunction t)) fun _ => []

/-! ### Declarations -/

namespace StepLogic.Holds

variable {ρ:Relocation} {L:StepLogic ρ} {κ:List Nat} {μ:List Mark}

lemma flatMap_some {γ:Type} {m:γ → List Mark} {a:γ} {x y:Check α} {f:α → List Nat}
  (h:L.Holds κ (m a) x y f) : L.Holds κ ((some a).toList.flatMap m) x y f := by
 rw [Option.toList_some,List.flatMap_singleton]
 exact h

lemma fileScopeStorage (d:VarDecl) :
  L.Runs κ μ (fileScopeStorage d) (fileScopeStorage (d.mapSpans ρ)) := by
 refine .first .atFileScope fun b => .ite ?_ .done
 dsimp only [VarDecl.mapSpans]
 split
 · exact .fail rfl
 · exact .fail rfl
 · exact .done

lemma definable (d:VarDecl) (t:CType) :
  L.Runs κ μ (definable d t) (definable (d.mapSpans ρ) t) := by
 refine .first .atFileScope fun b => .first (.isComplete t) fun b' => ?_
 exact .ite (.failNaming fun _ => rfl) .done

lemma paramsNamed (function:String) (ps:List Param) :
  L.Runs κ μ (paramsNamed function ps) (paramsNamed function (ps.map (·.mapSpans ρ))) := by
 induction ps with
 | nil => exact .done
 | cons p ps ih =>
  obtain ⟨name,type,span⟩:=p
  cases name with
  | none => exact .fail rfl
  | some n => exact ih

lemma definedSignature (head:FunctionDecl) (t:CType) (ht:L.tracks → t.recordIds ⊆ κ) :
  L.Holds κ μ (definedSignature head t) (definedSignature (head.mapSpans ρ) t)
   Signature.recordIds := by
 unfold Check.definedSignature
 split
 · rename_i f hf
   refine .pure ?_
   rw [CType.recordIds_signature? hf]
   exact ht
 · exact .failNaming fun _ => rfl

lemma returnsComplete (ret:CType) (span:Span) :
  L.Runs κ μ (returnsComplete ret span) (returnsComplete ret (ρ span)) :=
 .first (.isComplete ret) fun _ => .ite .done (.failNaming fun _ => rfl)

lemma namedLabel (i:Ident) : L.Runs κ μ (namedLabel i) (namedLabel (i.mapSpan ρ)) :=
 .ite (.fail rfl) .done

end StepLogic.Holds

namespace TermLogic

variable {ρ:Relocation} (L:TermLogic ρ)

section

variable {κ:List Nat}

lemma initializedType (h:∀ i, L.Admits (.initializer i)) (d:VarDecl) (t:CType)
  (ht:L.tracks → t.recordIds ⊆ κ) :
  L.Types κ (d.init.toList.flatMap Initializer.marks) (initializedType d t)
   (initializedType (d.mapSpans ρ) t) := by
 obtain ⟨name,type,storage,init,span⟩:=d
 cases init with
 | none => exact .pure ht
 | some i =>
  refine .flatMap_some (.first .atFileScope fun b => ?_)
  dsimp only [VarDecl.mapSpans]
  rw [Initializer.mapSpans_span]
  exact .ite (.fail rfl) (L.checkInitializer (h i) ht)

lemma declareRecord (h:L.Tags) {spec:RecordSpec} (hspec:L.Admits (.form (.record spec))) :
  L.Runs κ spec.marks (declareRecord spec) (declareRecord (spec.mapSpans ρ)) := by
 have resolve {κ:List Nat} : L.Runs κ spec.marks (do let _ ← CCheck.resolveRecord spec)
   (do let _ ← CCheck.resolveRecord (spec.mapSpans ρ)) :=
  .last (L.resolveRecord hspec) fun _ => .done
 obtain ⟨kind,tag,members,span⟩:=spec
 cases members with
 | some ms => cases tag <;> exact resolve
 | none =>
  cases tag with
  | none => exact resolve
  | some tag =>
   refine h.look (fun _ => []) (fun _ _ h => nomatch h) fun c d hcd => ?_
   dsimp only [RecordSpec.mapSpans,Option.map]
   rw [Ident.mapSpan_name,hcd.tagLocal?]
   exact .ite (.last (h.newTaggedRecord kind tag) fun _ => .done) resolve

lemma returnedType (h:∀ e, L.Admits (.expr e)) (f:FunctionContext) (e:Option Expr) (span:Span) :
  L.Types κ (e.toList.flatMap fun e => e.marks ++ Mark.reread e.mayBeNull e.evaluated)
   (returnedType f e span)
   (returnedType (f.mapSpans ρ) (e.map (·.mapSpans ρ)) (ρ span)) := by
 cases e with
 | some e =>
  refine .flatMap_some (.ite ?_ (L.conversion f.ret (h e)))
  exact .mono (.last (L.checkExpr (h e)) fun _ => .fail rfl)
   (List.sublist_append_left _ _)
 | none => exact .ite (.pure fun _ => List.nil_subset _) (.failNaming fun _ => rfl)

end

structure Declares : Prop where
 form : ∀ t, L.Admits (.form t)
 initializer : ∀ i, L.Admits (.initializer i)
 tags : L.Tags
 declareFunction {κ} name t storage : (L.tracks → t.recordIds ⊆ κ) →
  L.Runs κ [] (declareFunction name t storage false)
   (declareFunction (name.mapSpan ρ) t storage false)
 enterVariable {κ} d t : (L.tracks → t.recordIds ⊆ κ) →
  L.Runs κ [] (enterVariable d t) (enterVariable (d.mapSpans ρ) t)
 typedef {κ} (d:TypedefDecl) t : (L.tracks → t.recordIds ⊆ κ) →
  L.Runs κ [.typedef d] (declare (.fresh d.name .type t (some .typedef) true))
   (declare (.fresh (d.name.mapSpan ρ) .type t (some .typedef) true))

namespace Declares

variable {L} {κ:List Nat} (h:L.Declares)
include h

lemma declareVariable (d:VarDecl) :
  L.Runs κ (d.type.marks ++ d.init.toList.flatMap Initializer.marks) (declareVariable d)
   (declareVariable (d.mapSpans ρ)) := by
 refine .bind (L.resolveType (h.form _)) fun t => .ite ?_ ?_
 · simp only [VarDecl.mapSpans,Option.isSome_map]
   exact .ite (.fail rfl) ((h.declareFunction d.name t d.storage (by simp)).mono
    (List.nil_sublist _))
 · refine .ite (.fail rfl) (.first (.fileScopeStorage d) fun _ => ?_)
   refine .last (L.initializedType h.initializer d t (by simp)) fun u => ?_
   refine .first (.definable d u) fun _ => ?_
   exact h.enterVariable d u (by simp)

lemma checkDeclaration (d:Declaration) :
  L.Runs κ d.marks (checkDeclaration d) (checkDeclaration (d.mapSpans ρ)) := by
 cases d with
 | var d =>
  refine (h.declareVariable d).mono ?_
  rw [Declaration.marks,← List.append_assoc]
  exact List.sublist_append_left _ _
 | func d =>
  exact .last (L.resolveType (h.form _)) fun t => h.declareFunction d.name t d.storage (by simp)
 | record spec => exact L.declareRecord h.tags (h.form _)
 | enum spec => exact L.resolveEnum (h.form _)
 | typedef d => exact .bind (L.resolveType (h.form _)) fun t => h.typedef d t (by simp)

end Declares

end TermLogic

/-! ### Statements -/

def forClauses (init:Option ForInit) (condition step:Option Expr) : Check Unit := do
 forInit init
 if let some e := condition then test e
 if let some e := step then
  let _ ← checkExpr e

lemma forStatement_eq (init:Option ForInit) (condition step:Option Expr) (x:Check Unit) :
  forStatement init condition step x =
   inScope (forClauses init condition step >>= fun _ => loopBody x) := by
 cases condition <;> cases step <;>
  simp only [forStatement,forClauses,bind_assoc,pure_bind]

namespace StatementLogic

variable {ρ:Relocation} (L:StatementLogic ρ) {κ:List Nat} {μ:List Mark} {x y:Check Unit}

lemma breakAllowed (span:Span) : L.Runs κ μ (breakAllowed span) (breakAllowed (ρ span)) := by
 refine L.view fun c d h => ?_
 rw [h.flow]
 exact .ite .done (L.jump rfl span)

lemma continueAllowed (span:Span) :
  L.Runs κ μ (continueAllowed span) (continueAllowed (ρ span)) := by
 refine L.view fun c d h => ?_
 rw [h.flow]
 exact .ite .done (L.jump rfl span)

lemma checkDeclarations (ds:List Declaration) :
  L.Runs κ (ds.flatMap Declaration.marks) (checkDeclarations ds)
   (checkDeclarations (ds.map (·.mapSpans ρ))) := by
 induction ds generalizing κ with
 | nil => exact .done
 | cons d ds ih => exact .bind (L.reporting (L.declaration d)) fun _ => ih

lemma forInit (init:Option ForInit) :
  L.Runs κ (init.toList.flatMap ForInit.marks) (forInit init)
   (forInit (init.map (·.mapSpans ρ))) := by
 cases init with
 | none => exact .done
 | some init =>
  refine .flatMap_some ?_
  cases init with
  | decls ds =>
   rw [ForInit.marks]
   induction ds generalizing κ with
   | nil => exact .done
   | cons d ds ih => exact .bind (L.declaration d) fun _ => ih
  | expr e => exact .last (L.checkExpr (L.expr e)) fun _ => .done

lemma forClauses (init:Option ForInit) (c step:Option Expr) :
  L.Runs κ (init.toList.flatMap ForInit.marks ++ c.toList.flatMap Expr.marks ++
    step.toList.flatMap Expr.marks)
   (forClauses init c step)
   (forClauses (init.map (·.mapSpans ρ)) (c.map (·.mapSpans ρ)) (step.map (·.mapSpans ρ))) := by
 rw [List.append_assoc]
 refine .bind (L.forInit init) fun _ => ?_
 have hstep {κ:List Nat} : L.Runs κ (step.toList.flatMap Expr.marks) (do
    if let some e := step then
     let _ ← CCheck.checkExpr e) (do
    if let some e := step.map (·.mapSpans ρ) then
     let _ ← CCheck.checkExpr e) := by
  cases step with
  | none => exact .done
  | some e => exact .flatMap_some (.last (L.checkExpr (L.expr e)) fun _ => .done)
 cases c with
 | none => exact hstep
 | some c => exact .bind (.flatMap_some (L.test (L.expr c))) fun _ => hstep

lemma forStatement (init:Option ForInit) (c step:Option Expr)
  (h:∀ {κ}, L.Runs κ μ x y) :
  L.Runs κ (init.toList.flatMap ForInit.marks ++
    (c.toList.flatMap Expr.marks ++ (step.toList.flatMap Expr.marks ++ μ)))
   (forStatement init c step x)
   (forStatement (init.map (·.mapSpans ρ)) (c.map (·.mapSpans ρ)) (step.map (·.mapSpans ρ))
    y) := by
 rw [forStatement_eq,forStatement_eq,← List.append_assoc,← List.append_assoc]
 exact L.inScope (.bind (L.forClauses init c step) fun _ => L.withFlow _ h)

lemma switchStatement (e:Expr) (h:∀ {κ}, L.Runs κ μ x y) :
  L.Runs κ (e.marks ++ μ) (switchStatement e x) (switchStatement (e.mapSpans ρ) y) := by
 refine .bind (L.rvalue (L.expr e)) fun t => ?_
 rw [Expr.mapSpans_span]
 refine .ite (L.inSwitch _ (fun _ => ?_) (L.withFlow _ h)) (.failNaming fun _ => rfl)
 exact List.Subset.trans (CType.recordIds_promote t) (List.subset_append_left _ _)

lemma caseLabel (e:Expr) (span:Span) :
  L.Runs κ (e.marks ++ [.again e.evaluated]) (caseLabel e span)
   (caseLabel (e.mapSpans ρ) (ρ span)) := by
 refine L.view fun c d h => ?_
 rw [h.switches,Expr.mapSpans_span]
 cases c.switches.head? with
 | none => exact L.jump rfl span
 | some frame =>
  refine .bind (L.rvalue (L.expr e)) fun t => .ite (.fail rfl) ?_
  refine .last (L.again (L.evalConst (L.expr e))) fun v => ?_
  have add {κ:List Nat} : L.Runs κ []
    (if frame.values.contains v then Check.fail (.duplicateCase v) span
     else Check.updateSwitch fun f => { f with values := v :: f.values })
    (if frame.values.contains v then Check.fail (.duplicateCase v) (ρ span)
     else Check.updateSwitch fun f => { f with values := v :: f.values }) :=
   .ite (L.jump rfl span) (L.addCase v)
  refine .ite (.first (L.typeName t) fun a => .first (L.typeName frame.type) fun b => ?_) add
  exact .first (L.warn ⟨a,b,rfl⟩ _) fun _ => add

lemma defaultLabel (span:Span) :
  L.Runs κ [] (defaultLabel span) (defaultLabel (ρ span)) := by
 refine L.view fun c d h => ?_
 rw [h.switches]
 cases c.switches.head? with
 | none => exact L.jump rfl span
 | some frame => exact .ite (L.jump rfl span) L.addDefault

lemma returnStatement (e:Option Expr) (span:Span) :
  L.Runs κ (e.toList.flatMap fun e => e.marks ++ Mark.reread e.mayBeNull e.evaluated)
   (returnStatement e span) (returnStatement (e.map (·.mapSpans ρ)) (ρ span)) := by
 refine L.view fun c d h => ?_
 rw [h.function]
 cases c.function with
 | none => exact .done
 | some f => exact .last (L.returnedType L.expr f e span) fun t => L.returned t (by simp)

lemma gotoStatement (i:Ident) :
  L.Runs κ [] (gotoStatement i) (gotoStatement (i.mapSpan ρ)) :=
 .first (.namedLabel i) fun _ => L.goto i

lemma defineLabel (i:Ident) : L.Runs κ [] (defineLabel i) (defineLabel (i.mapSpan ρ)) := by
 refine .first (.namedLabel i) fun _ => L.view fun c d h => ?_
 rw [h.function]
 cases c.function with
 | none => exact .done
 | some f =>
  have hlabels:(f.mapSpans ρ).labels.any (·.name == (i.mapSpan ρ).name) =
    f.labels.any (·.name == i.name) := by
   simp only [FunctionContext.mapSpans,List.any_map,Function.comp_def,Symbol.mapSpan_name,
    Ident.mapSpan_name]
  simp only [Option.map,hlabels]
  exact .ite (.fail rfl) (L.label i)

mutual

lemma checkStmt : ∀ (s:Stmt) {κ:List Nat},
  L.Runs κ s.marks (checkStmt s) (checkStmt (s.mapSpans ρ))
 | .compound ss _, _ => L.inScope (checkStmts ss)
 | .decls ds _, _ => L.checkDeclarations ds
 | .expr e _, _ => .last (L.checkExpr (L.expr e)) fun _ => .done
 | .ifElse c yes none _, _ => .bind (L.test (L.expr c)) fun _ => checkStmt yes
 | .ifElse c yes (some no) _, _ =>
  .bind (L.test (L.expr c)) fun _ => .bind (checkStmt yes) fun _ => checkStmt no
 | .whileLoop c body _, _ => .bind (L.test (L.expr c)) fun _ => L.withFlow _ (checkStmt body)
 | .doLoop body c _, _ => .bind (L.withFlow _ (checkStmt body)) fun _ => L.test (L.expr c)
 | .forLoop init c step body _, _ => L.forStatement init c step (checkStmt body)
 | .switch e body _, _ => L.switchStatement e (checkStmt body)
 | .caseLabel e body span, _ => by
  rw [Stmt.marks,← List.singleton_append,← List.append_assoc]
  exact .bind (L.caseLabel e span) fun _ => checkStmt body
 | .defaultLabel body span, _ => .first (L.defaultLabel span) fun _ => checkStmt body
 | .breakJump span, _ => L.breakAllowed span
 | .continueJump span, _ => L.continueAllowed span
 | .returnJump e span, _ => L.returnStatement e span
 | .gotoJump i _, _ => L.gotoStatement i
 | .labeled i body _, _ => .first (L.defineLabel i) fun _ => checkStmt body
 | .empty _, _ => .done
termination_by structural s => s

lemma checkStmts : ∀ (ss:List Stmt) {κ:List Nat},
  L.Runs κ (Stmt.marksAll ss) (checkStmts ss) (checkStmts (Stmt.mapSpansAll ρ ss))
 | [], _ => .done
 | s :: ss, _ => .bind (L.reporting (checkStmt s)) fun _ => checkStmts ss

end

lemma checkBlock (b:Block) :
  L.Runs κ (Stmt.marksAll b.stmts) (checkBlock b) (checkBlock (b.mapSpans ρ)) := by
 unfold CCheck.checkBlock Block.mapSpans
 rw [← Stmt.mapSpansAll_eq]
 exact L.inScope (L.checkStmts b.stmts)

end StatementLogic

namespace ProgramLogic

variable {ρ:Relocation} (L:ProgramLogic ρ) {κ:List Nat}

lemma declareParams (ps:List Param) (hparams:∀ t ∈ ts, t.IsParameter)
  (hts:L.tracks → CType.recordIdsAll ts ⊆ κ) :
  L.Runs κ [] (declareParams ps ts) (declareParams (ps.map (·.mapSpans ρ)) ts) := by
 induction ps generalizing ts κ with
 | nil => exact .done
 | cons p ps ih =>
  obtain ⟨name,type,span⟩:=p
  cases ts with
  | nil => exact .done
  | cons t ts =>
   obtain ⟨ht,hrest⟩:=List.forall_mem_cons.mp hparams
   have hts i:=List.append_subset.mp (hts i)
   cases name with
   | none => exact ih hrest fun i => (hts i).2
   | some name =>
    exact .first (L.param name t ht fun i => (hts i).1) fun _ => ih hrest fun i => (hts i).2

lemma checkDefinition (head:FunctionDecl) (body:Block) :
  L.Runs κ (head.type.marks ++ Stmt.marksAll body.stmts) (checkDefinition head body)
   (checkDefinition (head.mapSpans ρ) (body.mapSpans ρ)) := by
 refine L.bind (L.resolveType (L.form _)) fun t ht => ?_
 refine L.bind (μ := []) (.definedSignature head t (by simp)) fun f hf => ?_
 simp only [FunctionDecl.mapSpans,TypeExpr.mapSpans_params,TypeExpr.mapSpans_span,
  Ident.mapSpan_name]
 refine .first (.paramsNamed _ _) fun _ => .first (.returnsComplete _ _) fun _ => ?_
 refine .first (L.heading head.name t head.storage (by simp)) fun _ => ?_
 refine .first (L.enterFunction _ _ fun _ => ?_) fun _ => ?_
 · exact List.Subset.trans (Signature.recordIds_ret f) (by simp)
 refine .last (L.reporting (L.inScope ?_)) fun _ => L.leaveFunction t (by simp)
 refine .first (f := fun _ => []) ?_ fun _ => L.checkBlock body
 obtain ⟨_,_,ht⟩:=ht
 obtain ⟨_,_,hf⟩:=hf
 obtain hnil | hparams:=isParameter_of_head ht (signature_of_definedSignature hf)
 · rw [hnil]
   exact .done
 · refine L.declareParams _ hparams fun _ => ?_
   obtain ⟨ret,params,variadic,prototyped⟩:=f
   simp [Signature.recordIds]

lemma checkExternal (e:External) :
  L.Runs κ e.marks (checkExternal e) (checkExternal (e.mapSpans ρ)) := by
 cases e with
 | declaration d => exact L.declaration d
 | definition head body => exact L.checkDefinition head body

lemma checkExternals (es:List External) :
  L.Runs κ (es.flatMap External.marks) (checkExternals es)
   (checkExternals (es.map (·.mapSpans ρ))) := by
 induction es generalizing κ with
 | nil => exact .done
 | cons e es ih => exact .bind (L.reporting (L.checkExternal e)) fun _ => ih

end ProgramLogic

end CCheck
