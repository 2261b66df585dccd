import CCheck.Proofs.Checking.Course
import CCheck.Proofs.Checking.Stages

/-! # Counts of diagnostics

Along the whole course of an analysis the counts and the latest message are those of the
diagnostics. -/

set_option autoImplicit false

namespace CCheck

/-! ### What diagnostics say together -/

namespace Diagnostic

def errors (ds:List Diagnostic) : Nat := ds.countP (·.severity == .error)

def warnings (ds:List Diagnostic) : Nat := ds.countP (·.severity == .warning)

def lastError? (ds:List Diagnostic) : Option String :=
 (ds.filter isError).getLast?.map message

variable (ds:List Diagnostic) (f:Fault) (text:String) (span:Span)

lemma errors_concat (d:Diagnostic) :
  errors (ds ++ [d]) = errors ds + if d.severity == .error then 1 else 0 := by
 unfold errors
 rw [List.countP_append,List.countP_singleton]

lemma warnings_concat (d:Diagnostic) :
  warnings (ds ++ [d]) = warnings ds + if d.severity == .warning then 1 else 0 := by
 unfold warnings
 rw [List.countP_append,List.countP_singleton]

lemma lastError?_report : lastError? (ds ++ [ofFault f]) = some f.message := by
 have hlast:(ds ++ [ofFault f]).filter isError = ds.filter isError ++ [ofFault f]:=
  List.filter_append ds [ofFault f]
 unfold lastError?
 rw [hlast,List.getLast?_concat]
 rfl

lemma lastError?_warn : lastError? (ds ++ [warning text span]) = lastError? ds := by
 have hlast:(ds ++ [warning text span]).filter isError = ds.filter isError ++ []:=
  List.filter_append ds [warning text span]
 unfold lastError?
 rw [hlast,List.append_nil]

lemma exists_lastError? {ds:List Diagnostic} (h:errors ds ≠ 0) :
  ∃ m, lastError? ds = some m := by
 obtain ⟨d,hd,hsevere⟩:=List.countP_pos_iff.mp (Nat.pos_of_ne_zero h)
 have hne:ds.filter isError ≠ []:=
  List.ne_nil_of_mem (List.mem_filter.mpr ⟨hd,hsevere⟩)
 exact ⟨_,congrArg (Option.map message) (List.getLast?_eq_getLast_of_ne_nil hne)⟩

end Diagnostic

open Diagnostic

/-! ### The state of an analysis -/

namespace Checker

variable {c d:Checker} {held:List Nat}

structure Tallied (ds:List Diagnostic) (c:Checker) : Prop where
 earlier : ds <+: c.diagnostics
 errors : c.errorCount = Diagnostic.errors c.diagnostics
 warnings : c.warningCount = Diagnostic.warnings c.diagnostics
 last : c.lastMessage = lastError? c.diagnostics

variable {ds:List Diagnostic}

lemma Tallied.report (h:Tallied ds c) (f:Fault) : Tallied ds (c.report f) where
 earlier := h.earlier.trans (List.prefix_append _ _)
 errors := (congrArg (· + 1) h.errors).trans (errors_concat c.diagnostics (.ofFault f)).symm
 warnings := h.warnings.trans (warnings_concat c.diagnostics (.ofFault f)).symm
 last := (lastError?_report _ f).symm

lemma Tallied.warn (h:Tallied ds c) (text:String) (span:Span) :
  Tallied ds (c.warn text span) where
 earlier := h.earlier.trans (List.prefix_append _ _)
 errors := h.errors.trans (errors_concat c.diagnostics (.warning text span)).symm
 warnings :=
  (congrArg (· + 1) h.warnings).trans (warnings_concat c.diagnostics (.warning text span)).symm
 last := h.last.trans (lastError?_warn _ text span).symm

lemma Tallied.change (h:c.Change held d) (hc:Tallied ds c) : Tallied ds d := by
 cases h with
 | warn text span => exact hc.warn text span
 | report f => exact hc.report f
 | leaveScope =>
  refine leaveScope_keeps (P := Tallied ds) (fun _ text span h => h.warn text span) ?_ ?_ hc
  · exact fun _ _ h => ⟨h.earlier,h.errors,h.warnings,h.last⟩
  · exact fun _ _ h => ⟨h.earlier,h.errors,h.warnings,h.last⟩
 | leaveFunction =>
  refine leaveFunction_keeps (P := Tallied ds) (fun _ f _ h => h.report f) ?_ ?_ _ hc
  · exact fun _ h => ⟨h.earlier,h.errors,h.warnings,h.last⟩
  · exact fun _ _ h => ⟨h.earlier,h.errors,h.warnings,h.last⟩
 | _ => exact ⟨hc.earlier,hc.errors,hc.warnings,hc.last⟩

lemma Tallied.course {m n:Moment} (h:m.Course n) (hm:Tallied ds m.state) :
  Tallied ds n.state := by
 refine h.invariant (P := fun n => Tallied ds n.state) (fun m n hstep hm => ?_) hm
 cases hstep with
 | change h => exact hm.change h
 | _ => exact ⟨hm.earlier,hm.errors,hm.warnings,hm.last⟩

lemma tallied_start (warnUnused:Bool) : Tallied [] (start warnUnused) :=
 ⟨List.nil_prefix,rfl,rfl,rfl⟩

lemma tallied_analyses (us:List ProgramUnit) (warnUnused:Bool) :
  Tallied [] (us.foldl analyze (start warnUnused)) := by
 obtain ⟨held,hcourse⟩:=(Moment.start warnUnused).course_analyses us
 exact Tallied.course hcourse (tallied_start warnUnused)

lemma Tallied.analyze (hc:Tallied ds c) (u:ProgramUnit) :
  Tallied c.diagnostics (c.analyze u) := by
 obtain ⟨held,hcourse⟩:=Moment.course_analyze ⟨c,[]⟩ u
 exact Tallied.course hcourse ⟨List.prefix_refl _,hc.errors,hc.warnings,hc.last⟩

lemma Tallied.outcome (h:Tallied ds c) :
  (c.errorCount = 0 ∧ c.outcome = .ok ()) ∨
  ∃ m, c.errorCount ≠ 0 ∧ c.lastMessage = some m ∧
   c.outcome = .error ⟨c.errorCount,c.warningCount,m⟩ := by
 unfold Checker.outcome
 by_cases hzero : c.errorCount = 0
 · exact .inl ⟨hzero,if_pos hzero⟩
 · obtain ⟨m,hm⟩:=exists_lastError? (h.errors ▸ hzero)
   have hlast:c.lastMessage = some m:=h.last.trans hm
   exact .inr ⟨m,hzero,hlast,by rw [if_neg hzero,hlast]; rfl⟩

end Checker

namespace Report

structure Tallied (r:Report) : Prop where
 success : r.success = (r.errors == 0)
 errors : r.errors = Diagnostic.errors r.diagnostics
 warnings : r.warnings = Diagnostic.warnings r.diagnostics

variable {r:Report}

lemma tallied_start (file:String) : Tallied (start file) := ⟨rfl,rfl,rfl⟩

lemma Tallied.push (h:r.Tallied) (d:Diagnostic) : (r.push d).Tallied := by
 unfold Report.push
 dsimp only
 have herrors:=errors_concat r.diagnostics d
 have hwarnings:=warnings_concat r.diagnostics d
 rw [← h.errors] at herrors
 rw [← h.warnings] at hwarnings
 split <;> rename_i hd <;> rw [hd] at herrors hwarnings
 · exact ⟨rfl,herrors.symm,hwarnings.symm⟩
 · exact ⟨h.success,herrors.symm,hwarnings.symm⟩

lemma Tallied.pushAll (h:r.Tallied) (ds:List Diagnostic) : (r.pushAll ds).Tallied := by
 induction ds generalizing r with
 | nil => exact h
 | cons d ds ih => exact ih (h.push d)

end Report

/-- The report on a source: its diagnostics are those of the analysis, or the one fault that keeps
it from being read. -/
lemma diagnostics_check (source file:String) (warnUnused:Bool) :
  (check source file warnUnused).report.Tallied ∧
  ((∃ u, parse source = .ok u ∧ (check source file warnUnused).unit = some u ∧
    (check source file warnUnused).analysis =
     some ((Checker.start warnUnused).analyze u).analysis ∧
    (check source file warnUnused).report.diagnostics =
     ((Checker.start warnUnused).analyze u).diagnostics) ∨
   ∃ f, parse source = .error f ∧ (check source file warnUnused).unit = none ∧
    (check source file warnUnused).analysis = none ∧
    (check source file warnUnused).report.diagnostics = [.ofFault f]) := by
 unfold check parse
 cases tokenize source with
 | error f =>
  exact ⟨(Report.tallied_start file).push (.ofFault f),.inr ⟨f,rfl,rfl,rfl,rfl⟩⟩
 | ok ts =>
  dsimp only
  cases parseTokens ts with
  | error f =>
   have hstart:Report.Tallied { Report.start file with stats := ⟨ts.length,0,0,0⟩ }:=
    ⟨rfl,rfl,rfl⟩
   exact ⟨hstart.push (.ofFault f),.inr ⟨f,rfl,rfl,rfl,rfl⟩⟩
  | ok u =>
   have hall:=(Report.tallied_start file).pushAll
    ((Checker.start warnUnused).analyze u).analysis.diagnostics
   exact ⟨⟨hall.success,hall.errors,hall.warnings⟩,
    .inl ⟨u,rfl,rfl,rfl,Report.diagnostics_pushAll _ _⟩⟩

/-- The counts of an analyzer, its answer and the report on a source tell what the diagnostics
tell. -/
theorem counts_tell_diagnostics (warnUnused:Bool) :
  (∀ (us:List ProgramUnit) (u:ProgramUnit), ∃ c d,
   us.foldl Checker.analyze (.start warnUnused) = c ∧ c.analyze u = d ∧
   c.diagnostics <+: d.diagnostics ∧
   d.errorCount = errors d.diagnostics ∧
   d.warningCount = warnings d.diagnostics ∧
   d.lastMessage = lastError? d.diagnostics ∧
   ((d.errorCount = 0 ∧ d.outcome = .ok ()) ∨
    ∃ m, d.errorCount ≠ 0 ∧ d.lastMessage = some m ∧
     d.outcome = .error ⟨d.errorCount,d.warningCount,m⟩)) ∧
  ∀ source file : String, ∃ v, check source file warnUnused = v ∧
   v.report.success = (v.report.errors == 0) ∧
   v.report.errors = errors v.report.diagnostics ∧
   v.report.warnings = warnings v.report.diagnostics ∧
   ((∃ u a, parse source = .ok u ∧ v.unit = some u ∧ v.analysis = some a ∧
     v.report.errors = a.errorCount ∧ v.report.warnings = a.warningCount) ∨
    ∃ f, parse source = .error f ∧ v.unit = none ∧ v.analysis = none ∧
     v.report.diagnostics = [.ofFault f]) := by
 refine ⟨fun us u => ⟨_,_,rfl,rfl,?_⟩,fun source file => ⟨_,rfl,?_⟩⟩
 · have h:=(Checker.tallied_analyses us warnUnused).analyze u
   exact ⟨h.earlier,h.errors,h.warnings,h.last,h.outcome⟩
 · obtain ⟨hr,hcases⟩:=diagnostics_check source file warnUnused
   refine ⟨hr.success,hr.errors,hr.warnings,?_⟩
   rcases hcases with ⟨u,hu,hunit,hanalysis,hds⟩ | hunread
   · have h:=Checker.tallied_analyses [u] warnUnused
     refine .inl ⟨u,_,hu,hunit,hanalysis,?_,?_⟩
     · rw [hr.errors,hds]
       exact h.errors.symm
     · rw [hr.warnings,hds]
       exact h.warnings.symm
   · exact .inr hunread

end CCheck
