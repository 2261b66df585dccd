import CCheck.Verdict
import CCheck.Proofs.Layout.Analysis

/-! # Warnings about unused variables

Whether a checker warns about unused variables makes no difference apart from these warnings: at the
end of every scope the two checkers hand the same symbols to the current function, and nothing reads
the diagnostics. -/

set_option autoImplicit false

namespace CCheck

def Diagnostic.tellsUnused (d:Diagnostic) : Bool :=
 d.severity == .warning && "unused variable '".toList.isPrefixOf d.message.toList

lemma Diagnostic.tellsUnused_ofFault (f:Fault) : (ofFault f).tellsUnused = false := rfl

lemma Diagnostic.tellsUnused_variable (name:String) (span:Span) :
  (warning ("unused variable '" ++ name ++ "'") span).tellsUnused = true := by
 have hmessage : ("unused variable '" ++ name ++ "'").toList =
   "unused variable '".toList ++ (name.toList ++ "'".toList) := by
  rw [String.toList_append,String.toList_append,List.append_assoc]
 simp only [tellsUnused,warning,hmessage,Bool.and_eq_true]
 exact ⟨rfl,List.isPrefixOf_iff_prefix.mpr (List.prefix_append _ _)⟩

lemma Diagnostic.tellsUnused_case {message:String} (h:IsCaseWarning message)
  (span:Span) : (warning message span).tellsUnused = false := by
 obtain ⟨t,u,rfl⟩:=h
 simp only [tellsUnused,warning,String.toList_append]
 rfl

lemma SymbolTable.mapSpans_id (t:SymbolTable) : t.mapSpans id = t := by
 have scope (s:Scope) : s.mapSpans id = s := by
  simp only [Scope.mapSpans,Symbol.map_mapSpan_id]
 simp only [mapSpans,scope,List.map_id_fun',id]

lemma FunctionInfo.mapSpans_id (i:FunctionInfo) : i.mapSpans id = i := by
 simp only [mapSpans,Symbol.map_mapSpan_id]

/-! ### The same state with fewer warnings -/

structure Checker.Silenced (c d:Checker) : Prop where
 warnUnused : d.warnUnused = false
 symbols : d.symbols = c.symbols
 records : d.records = c.records
 calls : d.calls = c.calls
 definedRecords : d.definedRecords = c.definedRecords
 definedEnums : d.definedEnums = c.definedEnums
 initialized : d.initialized = c.initialized
 flow : d.flow = c.flow
 switches : d.switches = c.switches
 function : d.function = c.function
 functions : d.functions = c.functions
 diagnostics : d.diagnostics = c.diagnostics.filter (!·.tellsUnused)
 errorCount : d.errorCount = c.errorCount
 warningCount :
  c.warningCount = d.warningCount + (c.diagnostics.filter (·.tellsUnused)).length
 lastMessage : d.lastMessage = c.lastMessage

namespace Checker.Silenced

variable {c d:Checker}

lemma start (warnUnused:Bool) : Silenced (start warnUnused) (start false) where
 warnUnused := rfl
 symbols := rfl
 records := rfl
 calls := rfl
 definedRecords := rfl
 definedEnums := rfl
 initialized := rfl
 flow := rfl
 switches := rfl
 function := rfl
 functions := rfl
 diagnostics := rfl
 errorCount := rfl
 warningCount := rfl
 lastMessage := rfl

lemma report (h:c.Silenced d) (f:Fault) : Silenced (c.report f) (d.report f) where
 __ := h
 diagnostics := by
  simp [Checker.report,h.diagnostics,Diagnostic.tellsUnused_ofFault]
 errorCount := congrArg (· + 1) h.errorCount
 warningCount := by
  simp [Checker.report,h.warningCount,Diagnostic.tellsUnused_ofFault]
 lastMessage := rfl

lemma warnCase (h:c.Silenced d) {message:String} (hm:IsCaseWarning message)
  (span:Span) : Silenced (c.warn message span) (d.warn message span) where
 __ := h
 diagnostics := by
  simp [Checker.warn,h.diagnostics,Diagnostic.tellsUnused_case hm]
 warningCount := by
  simp [Checker.warn,h.warningCount,Diagnostic.tellsUnused_case hm,Nat.add_right_comm]

lemma warnUnusedVariable (h:c.Silenced d) (name:String) (span:Span) :
  Silenced (c.warn ("unused variable '" ++ name ++ "'") span) d where
 __ := h
 diagnostics := by
  simp [Checker.warn,h.diagnostics,Diagnostic.tellsUnused_variable]
 warningCount := by
  simp [Checker.warn,h.warningCount,Diagnostic.tellsUnused_variable,Nat.add_assoc]

lemma warnAboutUnused (h:c.Silenced d) (xs:List Symbol) :
  Silenced (c.warnAboutUnused xs) (d.warnAboutUnused xs) := by
 have warnings (xs:List Symbol) {c:Checker} (h:c.Silenced d) :
   Silenced (xs.foldl (fun c x => c.warn ("unused variable '" ++ x.name ++ "'") x.span) c)
    d := by
  induction xs generalizing c with
  | nil => exact h
  | cons x xs ih => exact ih (h.warnUnusedVariable x.name x.span)
 have hsilent:d.warnAboutUnused xs = d := by
  rw [Checker.warnAboutUnused,h.warnUnused]
  rfl
 rw [hsilent]
 unfold Checker.warnAboutUnused
 split
 · exact warnings _ h
 · exact h

end Checker.Silenced

def Checker.Simulation.silenced : Checker.Simulation .identity where
 rel := Checker.Silenced
 symbols h := by rw [h.symbols]; exact (SymbolTable.mapSpans_id _).symm
 records h := h.records
 definedRecord h _ := by rw [h.definedRecords]; rfl
 definedEnum h _ := by rw [h.definedEnums]; rfl
 initialized h := h.initialized
 flow h := h.flow
 switches h := h.switches
 function h := by rw [h.function]; exact (FunctionContext.map_mapSpans_id _).symm
 setSymbols h t := { h with symbols := SymbolTable.mapSpans_id t }
 setRecords h _ := { h with records := rfl }
 addCall h _ := { h with calls := by rw [h.calls]; rfl }
 addDefinedRecord h _ _ := { h with definedRecords := by rw [h.definedRecords]; rfl }
 addDefinedEnum h _ := { h with definedEnums := by rw [h.definedEnums]; rfl }
 setInitialized h _ := { h with initialized := rfl }
 setFlow h _ := { h with flow := rfl }
 setSwitches h _ := { h with switches := rfl }
 setFunction h f := { h with function := FunctionContext.map_mapSpans_id f }
 addFunction h i :=
  { h with
    functions := by
     rw [h.functions]
     exact congrArg (_ ++ [·]) i.mapSpans_id }
 report h f := h.report f
 warn h _ hm span := h.warnCase hm span
 warnAboutUnused h xs := by
  rw [show xs.map (·.mapSpan Relocation.identity) = xs from Symbol.map_mapSpan_id xs]
  exact h.warnAboutUnused xs

namespace Checker.Silenced

variable {c d:Checker}

lemma analyze (h:c.Silenced d) (u:ProgramUnit) : (c.analyze u).Silenced (d.analyze u) := by
 have hrun:=Checker.Simulation.silenced.analyze h u
 rwa [show u.mapSpans Relocation.identity = u from u.mapSpans_id] at hrun

lemma analyzeAll (h:c.Silenced d) (us:List ProgramUnit) :
  (us.foldl Checker.analyze c).Silenced (us.foldl Checker.analyze d) := by
 induction us generalizing c d with
 | nil => exact h
 | cons u us ih => exact ih (h.analyze u)

lemma outcome (h:c.Silenced d) :
  d.outcome = c.outcome.mapError ({ · with warnings := d.warningCount }) := by
 unfold Checker.outcome
 rw [h.errorCount,h.lastMessage]
 split <;> rfl

lemma analysis (h:c.Silenced d) :
  d.analysis = { c.analysis with
   diagnostics := c.diagnostics.filter (!·.tellsUnused)
   warningCount := c.warningCount - (c.diagnostics.filter (·.tellsUnused)).length } := by
 have hcount:d.warningCount =
   c.warningCount - (c.diagnostics.filter (·.tellsUnused)).length :=
  Nat.eq_sub_of_add_eq h.warningCount.symm
 simp only [Checker.analysis,h.symbols,h.functions,h.calls,h.records,h.diagnostics,
  h.errorCount,hcount]

end Checker.Silenced

/-- With and without warnings about unused variables, whatever units are analyzed, an analysis
finds the same out; the diagnostics without them are those with them, less these warnings. -/
theorem analysis_without_unused (us:List ProgramUnit) :
  let told:=us.foldl Checker.analyze (.start true)
  let untold:=us.foldl Checker.analyze (.start false)
  untold.analysis = { told.analysis with
    diagnostics := told.diagnostics.filter (!·.tellsUnused)
    warningCount := told.warningCount - (told.diagnostics.filter (·.tellsUnused)).length } ∧
   untold.lastMessage = told.lastMessage ∧
   untold.outcome = told.outcome.mapError ({ · with warnings := untold.warningCount }) := by
 have h:=(Checker.Silenced.start true).analyzeAll us
 exact ⟨h.analysis,h.lastMessage,h.outcome⟩

example : (check "void f(void) { int x; g(); }" "f.c" true).report.diagnostics.length = 2 ∧
  (check "void f(void) { int x; g(); }" "f.c" false).report.diagnostics.length = 1 := by
 decide +kernel

end CCheck
