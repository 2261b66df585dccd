import CCheck.Proofs.Checking.ProgramLogic

/-! # The course of checking

The types that the rules compute refer to records of their operands only. So every rule, run from
any moment, takes the steps that a course allows, and so does the analysis of programs one after
the other. -/

set_option autoImplicit false

namespace CCheck

open Check

variable {α:Type}

namespace Check

variable {m:Moment} {Q:α → Moment → Prop}

lemma Traces.runsAt {x:Check α} (h:Traces m x Q) : RunsAt m x := h.mono fun _ _ _ _ => trivial

lemma RunsAt.silent {x:Check α} (h:RunsAt m x) : Traces m x fun _ n => [] ⊆ n.held :=
 h.mono fun _ n _ _ => List.nil_subset n.held

lemma Traces.declare {x:Symbol} (hx:m.Knows x.type) : RunsAt m (declare x) :=
 RunsAt.updateSymbols fun _ h => .declare x h hx

lemma traces_newRecord (kind:RecordKind) (tag:Option String) :
  Traces m (newRecord kind tag) fun id n => [id] ⊆ n.held :=
 .ok (Moment.Step.newRecord kind tag).course (List.cons_subset_cons _ (List.nil_subset _))

lemma traces_newTaggedRecord (kind:RecordKind) (tag:Ident) :
  Traces m (newTaggedRecord kind tag) fun id n => [id] ⊆ n.held := by
 have hnew:newRecord kind (some tag.name) m.state = .ok m.state.records.size
   { m.state with records := (m.state.records.declare kind (some tag.name)).2 } := rfl
 unfold Traces newTaggedRecord
 simp only [Bind.bind,EStateM.bind,hnew,declareTag,updateSymbols]
 cases h : m.state.symbols.declareTag tag.name (.record m.state.records.size) tag.span with
 | ok symbols =>
  exact .ok (Moment.Step.newTaggedRecord kind tag h).course
   (List.cons_subset_cons _ (List.nil_subset _))
 | error f => exact .error (Moment.Step.newRecord kind (some tag.name)).course

lemma traces_definedRecord? (span:Span) :
  Traces m (definedRecord? span) fun o n => o.toList ⊆ n.held := by
 refine .get ?_
 cases h : m.state.definedRecords.lookup span.start with
 | none => exact .pure (List.nil_subset _)
 | some i =>
  have hi:∀ j ∈ [i], m.state.Finds j:=fun j hj => List.mem_singleton.mp hj ▸ .specifier h
  exact .find hi (.pure (List.subset_append_left _ _))

lemma runsAt_completeRecord (id:Nat) {members:List (String × CType)}
  (h:members.flatMap (·.2.recordIds) ⊆ m.held) (span:Span) :
  RunsAt m (completeRecord id members span) := by
 unfold RunsAt Traces completeRecord
 cases hr : m.state.records.complete id members with
 | ok records =>
  rw [Registry.completeInPlace_ok hr]
  refine .ok (Moment.Step.change (.complete hr fun p hp => ?_)).course trivial
  exact fun i hi => h (List.mem_flatMap.mpr ⟨p,hp,hi⟩)
 | error flaw =>
  rw [Registry.completeInPlace_error hr]
  exact .error (.refl m)

variable {t:CType}

lemma runsAt_sameEntity (old:Symbol) (kind:SymbolKind) (t:CType) (name:Ident) :
  RunsAt m (sameEntity old kind t name) :=
 Traces.ite (.fail _ _) (.ite (.fail _ _) (.pure trivial))

lemma runsAt_declareFunction (name:Ident) (ht:m.Knows t) (storage:Option StorageClass)
  (hasBody:Bool) : RunsAt m (declareFunction name t storage hasBody) := by
 refine Traces.get ?_
 split
 · refine (runsAt_sameEntity _ _ t name).bind fun _ n hn _ => ?_
   refine .ite (.fail _ _) (.modify ?_ fun _ => trivial)
   exact .redeclare name.name (fun _ => t.signature?.any (·.prototyped)) hasBody (hn.knows ht)
 · exact .declare ht

lemma runsAt_markInitialized (name:String) : RunsAt m (markInitialized name) :=
 Traces.modify (.noteInitialized name) fun _ => trivial

lemma runsAt_redeclareVariable (old:Symbol) (name:Ident) (ht:m.Knows t)
  (hasInit isDefined:Bool) :
  RunsAt m (redeclareVariable old name t hasInit isDefined) := by
 refine (runsAt_sameEntity old _ t name).bind fun _ n hn _ => .get (.ite (.fail _ _) ?_)
 have update {replaced:Symbol → Bool} {o:Moment} (ho:o.Knows t) :
   RunsAt o (updateLocal name.name fun x =>
    { x with
      type := if replaced x then t else x.type
      isDefined := x.isDefined || isDefined }) :=
  Traces.modify (.redeclare name.name replaced isDefined ho) fun _ => trivial
 refine Traces.ite ?_ (update (hn.knows ht))
 exact (runsAt_markInitialized _).bind fun _ o ho _ => update (ho.knows (hn.knows ht))

lemma runsAt_enterVariable (d:VarDecl) (ht:m.Knows t) : RunsAt m (enterVariable d t) := by
 refine Traces.get (.ite (.get ?_) (.declare ht))
 split
 · exact runsAt_redeclareVariable _ d.name ht _ _
 · refine .ite ?_ (.declare ht)
   exact (runsAt_markInitialized _).bind fun _ n hn _ => .declare (hn.knows ht)

end Check

/-! ### The logic of courses -/

namespace Moment

/-- Whatever moment a step is taken from, it stays on a course if some records are in hand, and
those of its answer are in hand afterwards. -/
def steps : StepLogic .identity where
 Holds κ _ x _ f := ∀ m, κ ⊆ m.held → Traces m x fun a n => f a ⊆ n.held
 tracks := True
 Known _ := True
 pure h _ hm := .pure (List.Subset.trans (h trivial) hm)
 fail _ _ _ _ := .fail _ _
 failNaming _ _ _ _ _ _ := .fail _ _
 failNamingBoth _ _ _ _ _ _ _ := .fail _ _
 bind {_ _ _ _ _ x} _ _ _ _ _ h hk m hm := by
  have hx:Traced _ m (x m.state):=h m hm
  unfold Traces
  simp only [Bind.bind,EStateM.bind]
  generalize hr : x m.state = r at hx
  cases hx with
  | @ok a n course answer =>
   refine .after course (hk a ⟨_,_,hr⟩ n (List.append_subset.mpr ⟨answer,?_⟩))
   exact List.Subset.trans hm course.held_subset
  | error course => exact .error course
 weaken h hκ _ m hm := h m (List.Subset.trans hκ hm)
 look new hnew h m hm := by
  refine .find (hnew m.state) (h _ _ (.refl _) ⟨m.state,_⟩ ?_)
  exact List.append_subset.mpr
   ⟨List.subset_append_left _ _,List.Subset.trans hm (List.subset_append_right _ _)⟩
 lookup {_ _ _ name} _ _ _ _ hnone hsome m hm := by
  have hfound:Check.lookup? name m.state = .ok (m.state.symbols.lookup? name) m.state:=rfl
  unfold Traces
  simp only [Bind.bind,EStateM.bind,hfound]
  cases hx : m.state.symbols.lookup? name with
  | none => exact hnone m hm
  | some x =>
   refine Traces.find (fun _ hid => .symbol hx hid) (hsome x x rfl rfl ⟨m.state,_⟩ ?_)
   exact List.append_subset.mpr
    ⟨List.subset_append_left _ _,List.Subset.trans hm (List.subset_append_right _ _)⟩
 attempt {_ _ _ _ _ x} _ _ _ _ h hok herror m hm := by
  have hx:Traced _ m (x m.state):=h m hm
  unfold Traces
  simp only [Bind.bind,EStateM.bind,Check.attempt]
  generalize x m.state = r at hx
  cases hx with
  | ok course => exact .after course (hok _ _ (List.Subset.trans hm course.held_subset))
  | @error f _ course =>
   exact .after course (herror f f _ (List.Subset.trans hm course.held_subset))

lemma specifiers : steps.Specifiers where
 newRecord kind tag _ _ := traces_newRecord kind tag
 newTaggedRecord kind tag _ _ := traces_newTaggedRecord kind tag
 declareEnum tag _ _ :=
  (RunsAt.updateSymbols fun _ h => .declareEnum tag h).silent
 look new hnew h := steps.look new hnew fun c _ _ => h c c (.refl c)
 definedRecord span _ _ := traces_definedRecord? span
 markRecord span _ hid _ hm := .modify (.noteRecord span.start (hm (hid trivial))) fun _ =>
  List.nil_subset _
 completeRecord id _ span h _ hm :=
  (runsAt_completeRecord id (List.Subset.trans (h trivial) hm) span).silent
 isEnumDefined _ _ _ := .ok (.refl _) (List.nil_subset _)
 markEnum span _ _ := .modify (.noteEnum span.start) fun _ => List.nil_subset _

lemma names : steps.Names where
 misread _ _ _ _ := .fail _ _
 markUsed _ _ _ := .modify (.use _) fun _ => List.nil_subset _
 recordCall _ _ _ _ := .modify (.call _) fun _ => List.nil_subset _

def terms : TermLogic .identity where
 __ := steps
 Admits _ := True
 child _ _ := trivial
 known _ := trivial
 identType _ := names.identType (μ := []) trivial
 ident _ := names.ident (μ := []) trivial
 calleeType {_ _ _ y} _ hx span := names.calleeType (μ := []) (y := y) (fun _ _ => trivial) hx span
 namedType _ _ := steps.lookup trivial (fun _ _ => .fail _ _) fun _ _ _ _ _ hm =>
  Traces.ite (.pure (List.Subset.trans (List.subset_append_left _ _) hm)) (.fail _ _)
 referRecord _ := specifiers.referRecord (μ := []) _ _
 defineRecord _ h := specifiers.defineRecord (μ := []) h
 referEnum _ := specifiers.referEnum (μ := []) _
 defineEnum _ h := specifiers.defineEnum (μ := []) h
 declareConstant _ _ _ _ := (Traces.declare (List.nil_subset _)).silent

lemma declares : terms.Declares where
 form _ := trivial
 initializer _ := trivial
 tags := specifiers.toTags
 declareFunction name _ storage ht _ hm :=
  (runsAt_declareFunction name (List.Subset.trans (ht trivial) hm) storage false).silent
 enterVariable d _ ht _ hm :=
  (runsAt_enterVariable d (List.Subset.trans (ht trivial) hm)).silent
 typedef _ _ ht _ hm :=
  (Traces.declare (List.Subset.trans (ht trivial) hm)).silent

def programs : ProgramLogic .identity where
 __ := terms
 expr _ := trivial
 form _ := trivial
 initializer _ := trivial
 declaration d := declares.checkDeclaration d
 jump _ _ _ _ := .fail _ _
 again h := h
 typeName _ _ _ := .ok (.refl _) (List.nil_subset _)
 view h m hm := h _ _ (.refl _) m hm
 reporting h m hm := (RunsAt.reporting (h m hm).runsAt).silent
 inScope h _ hm := (RunsAt.between .enterScope (fun _ => .leaveScope) fun n hn =>
  (h n (List.Subset.trans hm hn.held_subset)).runsAt).silent
 withFlow _ h _ hm := (RunsAt.between (.setFlow _) (fun _ => .setFlow _) fun n hn =>
  (h n (List.Subset.trans hm hn.held_subset)).runsAt).silent
 inSwitch _ ht h _ hm := (RunsAt.between (.enterSwitch (List.Subset.trans (ht trivial) hm))
  (fun _ => .leaveSwitch) fun n hn => (h n (List.Subset.trans hm hn.held_subset)).runsAt).silent
 addCase v _ _ := .modify (.caseLabel v) fun _ => List.nil_subset _
 addDefault _ _ := .modify .defaultLabel fun _ => List.nil_subset _
 warn _ span _ _ := .modify (.warn _ span) fun _ => List.nil_subset _
 returned _ ht _ hm := .modify (.returned (List.Subset.trans (ht trivial) hm)) fun _ =>
  List.nil_subset _
 goto i _ _ := .modify (.goto i) fun _ => List.nil_subset _
 label i _ _ := .modify (.label i) fun _ => List.nil_subset _
 heading name _ storage ht _ hm :=
  (runsAt_declareFunction name (List.Subset.trans (ht trivial) hm) storage true).silent
 param _ _ _ ht _ hm :=
  (Traces.declare (List.Subset.trans (ht trivial) hm)).silent
 enterFunction name _ ht _ hm :=
  .modify (.enterFunction name (List.Subset.trans (ht trivial) hm)) fun _ => List.nil_subset _
 leaveFunction _ ht _ hm :=
  .modify (.leaveFunction (List.Subset.trans (ht trivial) hm)) fun _ => List.nil_subset _

lemma runsAt {m:Moment} {κ:List Nat} {μ:List Mark} {x y:Check α} {f:α → List Nat}
  (h:steps.Holds κ μ x y f) (hm:κ ⊆ m.held) : RunsAt m x := (h m hm).runsAt

lemma course_analyze (m:Moment) (u:ProgramUnit) :
  ∃ held, m.Course ⟨m.state.analyze u,held⟩ := by
 have hrun:Traced _ m (checkExternals u.externals m.state):=
  programs.checkExternals u.externals m (List.nil_subset _)
 unfold Checker.analyze
 generalize checkExternals u.externals m.state = o at hrun
 cases hrun with
 | @ok _ n course _ => exact ⟨n.held,course⟩
 | @error f n course => exact ⟨n.held,course.trans (Step.change (.report f)).course⟩

lemma course_analyses (m:Moment) (us:List ProgramUnit) :
  ∃ held, m.Course ⟨us.foldl Checker.analyze m.state,held⟩ := by
 induction us generalizing m with
 | nil => exact ⟨m.held,.refl m⟩
 | cons u us ih =>
  obtain ⟨held,hfirst⟩:=m.course_analyze u
  obtain ⟨held',hrest⟩:=ih ⟨m.state.analyze u,held⟩
  exact ⟨held',hfirst.trans hrest⟩

end Moment

end CCheck
