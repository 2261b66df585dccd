import CCheck.Proofs.Layout.Checking

/-! # Analysis at other places

The rules of checking, put together: expressions, types, initializers, declarations,
statements and whole programs agree under every simulation of checkers with themselves
on the moved tree. -/

set_option autoImplicit false

namespace CCheck.Checker.Simulation

open Check

variable {ρ:Relocation} (T:Checker.Simulation ρ)

/-! ### Declarations -/

lemma updateLocal (name:String) {f:Symbol → Symbol}
  (hf:∀ x, (f x).mapSpan ρ = f (x.mapSpan ρ)) :
  T.Agree (updateLocal name f) (updateLocal name f) := by
 refine Coupling.Lockstep.modify fun c d h => ?_
 rw [T.symbols h,SymbolTable.mapSpans_updateLocal ρ _ name hf]
 exact T.setSymbols h _

lemma sameEntity (old:Symbol) (kind:SymbolKind) (t:CType) (name:Ident) :
  T.Agree (sameEntity old kind t name)
   (sameEntity (old.mapSpan ρ) kind t (name.mapSpan ρ)) := by
 unfold Check.sameEntity
 change T.Agree
  (if old.kind ≠ kind then _ else if (!old.type.compatible t) = true then _ else _)
  (if old.kind ≠ kind then _ else if (!old.type.compatible t) = true then _ else _)
 split
 · exact T.fail _ _
 · split
   · exact T.fail _ _
   · exact .pure _

lemma redeclareFunction (old:Symbol) (name:Ident) (t:CType) (hasBody:Bool) :
  T.Agree (redeclareFunction old name t hasBody)
   (redeclareFunction (old.mapSpan ρ) (name.mapSpan ρ) t hasBody) := by
 refine (T.sameEntity old _ t name).bind fun _ => ?_
 change T.Agree (if (old.isDefined && hasBody) = true then _ else _)
  (if (old.isDefined && hasBody) = true then _ else _)
 split
 · exact T.fail _ _
 · exact T.updateLocal name.name fun _ => rfl

lemma declareFunction (name:Ident) (t:CType) (storage:Option StorageClass)
  (hasBody:Bool) :
  T.Agree (declareFunction name t storage hasBody)
   (declareFunction (name.mapSpan ρ) t storage hasBody) := by
 refine .get fun c d hcd => ?_
 rw [T.symbols hcd,SymbolTable.mapSpans_lookupLocal?,Ident.mapSpan_name]
 cases c.symbols.lookupLocal? name.name with
 | some old => exact T.redeclareFunction old name t hasBody
 | none => exact T.declare (.fresh name .func t storage hasBody)

lemma markInitialized (name:String) :
  T.Agree (markInitialized name) (markInitialized name) := by
 refine Coupling.Lockstep.modify fun c d h => ?_
 rw [T.initialized h]
 exact T.setInitialized h _

lemma redeclareVariable (old:Symbol) (name:Ident) (t:CType)
  (hasInit isDefined:Bool) :
  T.Agree (redeclareVariable old name t hasInit isDefined)
   (redeclareVariable (old.mapSpan ρ) (name.mapSpan ρ) t hasInit isDefined) := by
 refine (T.sameEntity old _ t name).bind fun _ => .get fun c d hcd => ?_
 rw [T.initialized hcd,Ident.mapSpan_name]
 split
 · exact T.fail _ _
 · dsimp only
   split
   · exact (T.markInitialized _).bind fun _ => T.updateLocal name.name fun _ => rfl
   · exact T.updateLocal name.name fun _ => rfl

lemma enterVariable (d:VarDecl) (t:CType) :
  T.Agree (enterVariable d t) (enterVariable (d.mapSpans ρ) t) := by
 unfold Check.enterVariable
 simp only [VarDecl.mapSpans,Option.isSome_map,Ident.mapSpan_name]
 have fresh (isDefined:Bool) : T.Agree
   (Check.declare (.fresh d.name .var t d.storage isDefined))
   (Check.declare (.fresh (d.name.mapSpan ρ) .var t d.storage isDefined)) :=
  T.declare _
 refine Coupling.Lockstep.bind
  (StepLogic.Holds.atFileScope (L := T.coupling.steps) (κ := []) (μ := [])) fun b => ?_
 split
 · refine .get fun c c' hcc => ?_
   rw [T.symbols hcc,SymbolTable.mapSpans_lookupLocal?]
   cases c.symbols.lookupLocal? d.name.name with
   | some old => exact T.redeclareVariable old d.name t d.init.isSome _
   | none =>
    dsimp only [Option.map]
    split
    · exact (T.markInitialized _).bind fun _ => fresh _
    · exact fresh _
 · exact fresh _

/-! ### Statements -/

lemma updateFunction {f g:FunctionContext → FunctionContext}
  (h:∀ c, (f c).mapSpans ρ = g (c.mapSpans ρ)) :
  T.Agree (updateFunction f) (updateFunction g) := by
 refine Coupling.Lockstep.modify fun c d hcd => ?_
 have hfg:T.coupling.rel _ _:=T.setFunction hcd (c.function.map f)
 rw [T.function hcd]
 cases hc : c.function with
 | none => simpa only [hc,Option.map] using hfg
 | some x => simpa only [hc,Option.map,h x] using hfg

lemma updateSwitch (f:SwitchFrame → SwitchFrame) :
  T.Agree (updateSwitch f) (updateSwitch f) := by
 refine Coupling.Lockstep.modify fun c d h => ?_
 rw [T.switches h]
 exact T.setSwitches h _

lemma info_mapSpans (f:FunctionContext) (type:CType) :
  (f.mapSpans ρ).info type = (f.info type).mapSpans ρ := by
 have hlabels:(f.mapSpans ρ).usedLabels = f.usedLabels.map (·.mapSpan ρ) := by
  unfold FunctionContext.usedLabels
  rw [List.map_mergeSort (s := fun x y : Symbol => decide (x.span.start ≤ y.span.start))
   fun x _ y _ => by
    rw [decide_eq_decide]
    exact (ρ.start_le x.span y.span).symm]
  simp only [FunctionContext.mapSpans,List.map_map,Function.comp_def,Symbol.mapSpan,
   List.any_map,Ident.mapSpan_name]
 simp only [FunctionContext.info,FunctionInfo.mapSpans,hlabels,List.map_append]
 rfl

lemma leaveFunction {c d:Checker} (h:T.rel c d) (type:CType) :
  T.rel (c.leaveFunction type) (d.leaveFunction type) := by
 have reports (gs:List Ident) {c d:Checker} (h:T.rel c d) :
   T.rel (gs.foldl (fun c g => c.report ⟨.undefinedLabel g.name,g.span⟩) c)
    ((gs.map (·.mapSpan ρ)).foldl (fun c g => c.report ⟨.undefinedLabel g.name,g.span⟩)
     d) := by
  induction gs generalizing c d with
  | nil => exact h
  | cons g gs ih => exact ih (T.report h _)
 unfold Checker.leaveFunction
 rw [T.function h]
 cases c.function with
 | none => exact h
 | some f =>
  have hgotos:(f.mapSpans ρ).undefinedGotos = f.undefinedGotos.map (·.mapSpan ρ) := by
   simp only [FunctionContext.undefinedGotos,FunctionContext.hasLabel,
    FunctionContext.mapSpans,List.filter_map,List.any_map,Function.comp_def,
    Symbol.mapSpan_name,Ident.mapSpan_name]
  simp only [Option.map,hgotos,info_mapSpans]
  exact T.addFunction (reports _ (T.setFunction h none)) _

lemma declares : T.coupling.logic.Declares where
 form _ := allows_all _
 initializer _ := allows_all _
 tags := T.coupling.specifiers.toTags
 declareFunction name t storage _ := T.declareFunction name t storage false
 enterVariable d t _ := T.enterVariable d t
 typedef _ _ _ := T.declare _

def logic : ProgramLogic ρ where
 __ := T.coupling.logic
 expr _ := allows_all _
 form _ := allows_all _
 initializer _ := allows_all _
 declaration d := T.declares.checkDeclaration (κ := []) d
 jump _ span := T.fail _ span
 again := id
 typeName := T.coupling.typeName
 view h := Coupling.Lockstep.get fun c d hcd => h c d ⟨T.flow hcd,T.switches hcd,T.function hcd⟩
 reporting := T.reporting
 inScope := T.inScope
 withFlow change := T.withFlow change
 inSwitch frame _ := T.inSwitch frame
 addCase _ := T.updateSwitch _
 addDefault := T.updateSwitch _
 warn hm span := .modify fun _ _ h => T.warn h hm span
 returned _ _ := T.updateFunction fun _ => rfl
 goto _ := T.updateFunction fun _ => by
  simp only [FunctionContext.mapSpans,List.map_append,List.map]
 label _ := T.updateFunction fun _ => by
  simp only [FunctionContext.mapSpans,List.map_append,List.map]
  rfl
 heading name t storage _ := T.declareFunction name t storage true
 param _ _ _ _ := T.declare _
 enterFunction name ret _ := .modify fun _ _ h =>
  T.setSwitches (T.setFlow (T.setFunction h (some (.start name ret))) .outside) []
 leaveFunction t _ := .modify fun _ _ h => T.leaveFunction h t

lemma analyze {c d:Checker} (h:T.rel c d) (u:ProgramUnit) :
  T.rel (c.analyze u) (d.analyze (u.mapSpans ρ)) := by
 unfold Checker.analyze ProgramUnit.mapSpans
 have hrun:T.Agree _ _:=T.logic.checkExternals (κ := []) u.externals
 obtain ⟨a,c',d',hx,hy,hcd⟩ | ⟨e,c',d',hx,hy,hcd⟩:=(hrun c d h).run
 · rw [hx,hy]
   exact hcd
 · rw [hx,hy]
   exact T.report hcd e

end CCheck.Checker.Simulation
