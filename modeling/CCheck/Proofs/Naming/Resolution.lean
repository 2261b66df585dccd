import CCheck.Verdict
import CCheck.Proofs.Naming.Agreement
import CCheck.Proofs.Naming.Balance

/-! # Names of types are resolved

Where the parser has read a name as that of a type, the analysis finds a type under it, with two
exceptions: a declaration that takes the name which its own specifiers consist of, and enumerators
inside sizes, values or parameter lists that take the name of a type used there. -/

set_option autoImplicit false

namespace CCheck

open Check Sight

variable {α β:Type} {N:String → Prop} {around:List Kinds} {σ τ υ:Sight}

variable {cause:Cause} {d:VarDecl} {ds:List Declaration} {e:Expr} {init:Option ForInit}
 {value:Option Expr} {x:Check Unit}

/-! ### Declarations -/

lemma Leads.hide {x:Check α} (h:Leads N around σ x τ) (name:String) :
  Leads N around σ x (τ.hide name) :=
 h.weaken (fun _ _ hy => hy.2) (fun _ h => h) (fun _ h => h) id

lemma Leads.hideAll {x:Check α} (h:Leads N around σ x τ) (names:List Ident) :
  Leads N around σ x (names.foldl (fun σ name => σ.hide name.name) τ) := by
 induction names generalizing τ with
 | nil => exact h
 | cons name names ih => exact ih (h.hide name.name)

lemma leads_updateLocal (name:String) {g:Symbol → Symbol} (hname:∀ x, (g x).name = x.name)
  (hkind:∀ x, (g x).kind = x.kind) : Leads N around σ (updateLocal name g) σ :=
 .modify (fun _ => rfl) fun _ h =>
  h.transfer (SymbolTable.views_updateLocal _ name hname hkind) (fun _ => id) fun _ => id

lemma leads_sameEntity (old:Symbol) (kind:SymbolKind) (t:CType) (name:Ident) :
  Leads N around σ (sameEntity old kind t name) σ := by
 unfold sameEntity
 split
 · exact .fail rfl _
 · split
   · exact .fail rfl _
   · exact .pure _

lemma leads_redeclareFunction (old:Symbol) (name:Ident) (t:CType) (hasBody:Bool) :
  Leads N around σ (redeclareFunction old name t hasBody) σ := by
 refine (leads_sameEntity old .func t name).bind fun _ => ?_
 split
 · exact .fail rfl _
 · exact leads_updateLocal _ (fun _ => rfl) fun _ => rfl

lemma leads_declareFunction (name:Ident) (t:CType) (storage:Option StorageClass)
  (hasBody:Bool) :
  Leads N around σ (declareFunction name t storage hasBody) (σ.hide name.name) := by
 refine .get fun c => ?_
 split
 · exact (leads_redeclareFunction _ name t hasBody).hide name.name
 · exact leads_declare _

lemma leads_markInitialized (name:String) : Leads N around σ (markInitialized name) σ :=
 .modify (fun _ => rfl) fun _ h => h.transfer rfl (fun _ => id) fun _ => id

lemma leads_redeclareVariable (old:Symbol) (name:Ident) (t:CType)
  (hasInit isDefined:Bool) :
  Leads N around σ (redeclareVariable old name t hasInit isDefined) σ := by
 refine (leads_sameEntity old .var t name).bind fun _ => .get fun c => ?_
 have hupdate {g:Symbol → Symbol} (hname:∀ x, (g x).name = x.name)
   (hkind:∀ x, (g x).kind = x.kind) : Leads N around σ (updateLocal name.name g) σ :=
  leads_updateLocal _ hname hkind
 split
 · exact .fail rfl _
 · cases hasInit with
   | true => exact (leads_markInitialized _).bind fun _ => hupdate (fun _ => rfl) fun _ => rfl
   | false => exact hupdate (fun _ => rfl) fun _ => rfl

lemma leads_atFileScope : Leads N around σ atFileScope σ :=
 .of_keeps fun _ => .of .atFileScope

lemma leads_enterVariable (d:VarDecl) (t:CType) :
  Leads N around σ (enterVariable d t) (σ.hide d.name.name) := by
 refine leads_atFileScope.bind fun b => ?_
 split
 · refine .get fun c => ?_
   split
   · exact (leads_redeclareVariable _ d.name t _ _).hide d.name.name
   · split
     · exact (leads_markInitialized _).bind fun _ => leads_declare _
     · exact leads_declare _
 · exact leads_declare _

lemma leads_fileScopeStorage (d:VarDecl) : Leads N around σ (fileScopeStorage d) σ := by
 refine leads_atFileScope.bind fun b => ?_
 split
 · split
   · exact .fail rfl _
   · exact .fail rfl _
   · exact .pure _
 · exact .pure _

lemma leads_initializedType (t:CType)
  (h:∀ i ∈ d.init, Allows (Permits N σ) i.mentions) :
  Leads N around σ (initializedType d t) σ := by
 unfold initializedType
 split
 · exact .pure _
 · rename_i i hi
   refine leads_atFileScope.bind fun b => ?_
   split
   · exact .fail rfl _
   · exact .of_keeps fun _ => .checkInitializer t (h i hi)

lemma leads_definable (d:VarDecl) (t:CType) : Leads N around σ (definable d t) σ := by
 refine leads_atFileScope.bind fun b => ?_
 refine Leads.bind (.of_keeps fun _ => .of (.isComplete t)) fun b' => ?_
 split
 · exact Leads.bind (.of_keeps fun _ => .typeName t) fun _ => .fail rfl _
 · exact .pure _

lemma leads_declareObject (t:CType)
  (h:∀ i ∈ d.init, Allows (Permits N σ) i.mentions) :
  Leads N around σ (declareObject d t) (σ.hide d.name.name) := by
 unfold declareObject
 split
 · exact .fail rfl _
 · refine (leads_fileScopeStorage d).bind fun _ => ?_
   refine (leads_initializedType t h).bind fun u => ?_
   exact (leads_definable d u).bind fun _ => leads_enterVariable d u

lemma leads_declareVariable (htype:d.type.Walk σ τ)
  (hinit:∀ i ∈ d.init, τ.Covers i.mentions)
  (hfits:Fits N σ.atFile (Declaration.var d).mentions) :
  Leads N around σ (declareVariable d) (τ.hide d.name.name) := by
 obtain ⟨hfits,hfits'⟩:=fits_append.mp hfits
 rw [← htype.within.atFile] at hfits'
 refine (leads_resolveType htype hfits).bind fun t => ?_
 split
 · split
   · exact .fail rfl _
   · exact leads_declareFunction _ _ _ _
 · refine leads_declareObject t fun i hi => ?_
   rw [Option.mem_def.mp hi] at hfits'
   exact allows_of_toExpr (fits_append.mp hfits').1 (hinit i hi)

lemma leads_declareTypedef (d:TypedefDecl) (t:CType) :
  Leads N around σ (declare (.fresh d.name .type t (some .typedef) true))
   (σ.reveal d.name.name) := by
 intro fresh c hc
 unfold Check.declare Check.updateSymbols
 dsimp only
 cases ht : c.symbols.declare (.fresh d.name .type t (some .typedef) true) with
 | ok t => exact .ok (hc.imp rfl fun h => h.reveal ht rfl)
 | error f => exact .error (hc.stopped (redeclaration_of_declare ht))

lemma leads_declareRecord {spec:RecordSpec} (h:spec.Walk σ τ)
  (hfits:Fits N σ.atFile spec.mentions) : Leads N around σ (declareRecord spec) τ := by
 have hresolve:Leads N around σ (do let _ ← resolveRecord spec) τ:=
  (leads_resolveRecord h hfits).bind fun _ => .pure _
 obtain ⟨kind,tag,members,span⟩:=spec
 cases tag with
 | none => exact hresolve
 | some tag =>
  cases members with
  | some ms => exact hresolve
  | none =>
   refine .get fun c => ?_
   split
   · cases h
     exact Leads.bind (.of_keeps fun _ =>
      .of ((Assertion.specifiers _).newTaggedRecord kind tag)) fun _ => .pure _
   · exact hresolve

lemma leads_checkDeclaration {d:Declaration} (h:d.Walk σ τ)
  (hfits:Fits N σ.atFile d.mentions) : Leads N around σ (checkDeclaration d) τ := by
 cases h with
 | var h types => exact leads_declareVariable h types hfits
 | func h => exact (leads_resolveType h hfits).bind fun t => leads_declareFunction _ _ _ _
 | @typedef _ d h => exact (leads_resolveType h hfits).bind fun t => leads_declareTypedef d t
 | record h => exact leads_declareRecord h hfits
 | enum h => exact leads_resolveEnum h hfits

/-! ### Reports and warnings -/

variable {c c':Checker} {fresh:Bool}

lemma Stopped.report {f:Fault} (h:Stopped fresh f c) : Spoiled (c.report f) := by
 rcases h with ⟨-,hclean,hf⟩ | ⟨g,hfind,hg⟩
 · refine ⟨f,?_,hf⟩
   have hnone:c.diagnostics.find? (·.isError) = none:=
    List.find?_eq_none.mpr fun d hd => by simp only [hclean d hd,Bool.false_eq_true,
     not_false_eq_true]
   simp only [Checker.report,List.find?_append,hnone]
   rfl
 · refine ⟨g,?_,hg⟩
   simp only [Checker.report,List.find?_append,hfind,Option.some_or]

lemma Leads.reporting (h:Leads N around σ x τ) :
  Leads N around σ (reporting x) τ := by
 intro fresh c hc
 have hx:=h fresh c hc
 unfold Check.reporting
 generalize x c = p at hx
 cases hx with
 | ok hc' => exact .ok hc'
 | error hf => exact .ok (Or.inr hf.report)

lemma Clean.warn (h:Clean c) (message:String) (span:Span) :
  Clean (c.warn message span) := by
 intro d hd
 rcases List.mem_append.mp hd with hd | hd
 · exact h d hd
 · rw [List.mem_singleton.mp hd]
   rfl

lemma Spoiled.warn (h:Spoiled c) (message:String) (span:Span) :
  Spoiled (c.warn message span) := by
 obtain ⟨f,hfind,hf⟩:=h
 refine ⟨f,?_,hf⟩
 simp only [Checker.warn,List.find?_append,hfind,Option.some_or]

lemma Leads.ite {p:Prop} [Decidable p] {x y:Check α} (hx:Leads N around σ x τ)
  (hy:Leads N around σ y τ) : Leads N around σ (if p then x else y) τ := by
 split
 · exact hx
 · exact hy

lemma leads_warn (message:String) (span:Span) : Leads N around σ (warn message span) σ := by
 rintro fresh c (⟨hfresh,hclean,h⟩ | h)
 · exact .ok (Or.inl ⟨hfresh,hclean.warn message span,h.transfer rfl (fun _ => id) fun _ => id⟩)
 · exact .ok (Or.inr (h.warn message span))

lemma warnAboutUnused_keeps {P:Checker → Prop}
  (hwarn:∀ c message span, P c → P (c.warn message span)) (xs:List Symbol) (hc:P c) :
  P (c.warnAboutUnused xs) := by
 unfold Checker.warnAboutUnused
 split
 · rename_i hunused
   clear hunused
   induction xs.filter Checker.isUnusedVariable generalizing c with
   | nil => exact hc
   | cons x xs ih => exact ih (hwarn c _ _ hc)
 · exact hc

/-! ### Scopes -/

lemma leaveScope_of_outer {s:Scope} {ss:List Scope} (h:c.symbols.outer = s :: ss) :
  c.leaveScope = ({ c with symbols := ⟨s,ss⟩ }.warnAboutUnused
   c.symbols.current.symbols).keepLocals c.symbols.current.symbols := by
 unfold Checker.leaveScope SymbolTable.exit?
 rw [h]

lemma leaveScope_keeps {P:Checker → Prop}
  (hwarn:∀ c message span, P c → P (c.warn message span))
  (hsymbols:∀ c symbols, P c → P { c with symbols })
  (hlocals:∀ c xs, P c → P (c.keepLocals xs)) (hc:P c) : P c.leaveScope := by
 cases h : c.symbols.outer with
 | nil =>
  unfold Checker.leaveScope SymbolTable.exit?
  rw [h]
  exact hc
 | cons s ss =>
  rw [leaveScope_of_outer h]
  exact hlocals _ _ (warnAboutUnused_keeps hwarn _ (hsymbols c _ hc))

lemma Clean.leaveScope (h:Clean c) : Clean c.leaveScope :=
 leaveScope_keeps (fun _ _ _ h => h.warn _ _) (fun _ _ h => h) (fun _ _ h => h) h

lemma Spoiled.leaveScope (h:Spoiled c) : Spoiled c.leaveScope :=
 leaveScope_keeps (fun _ _ _ h => h.warn _ _) (fun _ _ h => h) (fun _ _ h => h) h

lemma Agrees.leaveScope {N':String → Prop} {K:Kinds} (h:Agrees N' (K :: around) τ c)
  (htypes:∀ y, N y → σ.types y → (K :: around).findSome? (·.lookup y) = some .type)
  (hrecords:σ.records ⊆ τ.records) (henums:σ.enums ⊆ τ.enums)
  (hfile:σ.atFile = true → around = []) : Agrees N around σ c.leaveScope := by
 obtain ⟨s,ss,houter,hs,hss⟩:=List.map_eq_cons_iff.mp h.outer
 rw [leaveScope_of_outer houter]
 refine warnAboutUnused_keeps (P := fun c => Agrees N around σ (c.keepLocals _))
  (fun _ _ _ h => h.transfer rfl (fun _ => id) fun _ => id) _ ⟨fun y hy htype => ?_,hss,
   fun o ho => h.records o (hrecords ho),fun o ho => h.enums o (henums ho),hfile⟩
 rw [SymbolTable.kind?_eq]
 have hviews:SymbolTable.views Symbol.kind ⟨s,ss⟩ = K :: around:=
  congrArg₂ List.cons hs hss
 exact (congrArg _ hviews).trans (htypes y hy htype)

lemma Agrees.enterScope {N':String → Prop} (h:Agrees N around σ c)
  (hN:∀ y, N' y → N y) :
  Agrees N' (c.symbols.current.view Symbol.kind :: around) { σ with atFile := false }
   c.enterScope where
 types y hy htype := h.types y (hN y hy) htype
 outer := congrArg _ h.outer
 records := h.records
 enums := h.enums
 atFile h := nomatch h

lemma leads_inScope {N':String → Prop} {x:Check α} (hN:∀ y, N' y → N y)
  (hx:∀ K, Leads N' (K :: around) { σ with atFile := false } x τ)
  (hrecords:σ.records ⊆ τ.records) (henums:σ.enums ⊆ τ.enums) :
  Leads N around σ (inScope x) σ := by
 rintro fresh c (⟨rfl,hclean,h⟩ | h)
 · have hends:=hx _ true c.enterScope (Or.inl ⟨rfl,hclean,h.enterScope hN⟩)
   unfold Check.inScope
   generalize x c.enterScope = p at hends
   cases hends with
   | ok hc' =>
    rcases hc' with ⟨-,hclean',h'⟩ | h'
    · refine .ok (Or.inl ⟨rfl,hclean'.leaveScope,h'.leaveScope (fun y hy htype => ?_) hrecords
       henums h.atFile⟩)
      rw [← h.types y hy htype,SymbolTable.kind?_eq,SymbolTable.views_cons,h.outer]
    · exact .ok (Or.inr h'.leaveScope)
   | error hf =>
    exact .error (hf.imp (fun hf => ⟨hf.1,hf.2.1.leaveScope,hf.2.2⟩) Spoiled.leaveScope)
 · -- Once spoiled, the scopes need not be followed.
   have hends:=hx [] false c.enterScope (Or.inr h)
   have hspoiled {c':Checker} {σ':Sight} {around':List Kinds}
     (hc':Sound N' around' σ' false c') : Spoiled c' :=
    hc'.resolve_left fun h => nomatch h.1
   unfold Check.inScope
   generalize x c.enterScope = p at hends
   cases hends with
   | ok hc' => exact .ok (Or.inr (hspoiled hc').leaveScope)
   | error hf => exact .error (Or.inr (hf.resolve_left fun h => nomatch h.1).leaveScope)

lemma leads_inBlock {x:Check α} (hx:∀ K, Leads N (K :: around) σ x τ)
  (hfile:σ.atFile = false) (hwithin:σ.Within τ) : Leads N around σ (inScope x) σ := by
 have hσ:{ σ with atFile := false } = σ := by rw [← hfile]
 exact leads_inScope (fun _ h => h) (fun K => hσ.symm ▸ hx K) hwithin.records hwithin.enums

/-! ### Statements -/

lemma leads_checkDeclarations (h:Declaration.WalkAll σ ds τ)
  (hfits:Fits N σ.atFile (ds.flatMap Declaration.mentions)) :
  Leads N around σ (checkDeclarations ds) τ := by
 induction h with
 | nil => exact .pure _
 | cons h _ ih =>
  obtain ⟨hd,hds⟩:=fits_append.mp hfits
  rw [← h.within.atFile] at hds
  exact (leads_checkDeclaration h hd).reporting.bind fun _ => ih hds

lemma leads_forM_checkDeclaration (h:Declaration.WalkAll σ ds τ)
  (hfits:Fits N σ.atFile (ds.flatMap Declaration.mentions)) :
  Leads N around σ (ds.forM checkDeclaration) τ := by
 induction h with
 | nil => exact .pure _
 | cons h _ ih =>
  obtain ⟨hd,hds⟩:=fits_append.mp hfits
  rw [← h.within.atFile] at hds
  exact (leads_checkDeclaration h hd).bind fun _ => ih hds

lemma leads_modify {f:Checker → Checker} (hdiagnostics:∀ c, (f c).diagnostics = c.diagnostics)
  (hsymbols:∀ c, (f c).symbols = c.symbols)
  (hrecords:∀ c, (f c).definedRecords = c.definedRecords)
  (henums:∀ c, (f c).definedEnums = c.definedEnums) : Leads N around σ (modify f) σ := by
 refine .modify hdiagnostics fun c h => h.transfer (by rw [hsymbols]) (fun o ho => ?_) ?_
 · rw [hrecords]
   exact ho
 · rw [henums]
   exact fun _ h => h

lemma Leads.withFlow {x:Check α} (h:Leads N around σ x τ) (change:Flow → Flow) :
  Leads N around σ (withFlow change x) τ := by
 intro fresh c hc
 have hx:=h fresh { c with flow := change c.flow }
  (hc.imp rfl fun h => h.transfer rfl (fun _ => id) fun _ => id)
 unfold Check.withFlow
 generalize x { c with flow := change c.flow } = p at hx
 cases hx with
 | ok hc' => exact .ok (hc'.imp rfl fun h => h.transfer rfl (fun _ => id) fun _ => id)
 | error hf => exact .error hf

lemma Leads.inSwitch {x:Check α} (h:Leads N around σ x τ) (frame:SwitchFrame) :
  Leads N around σ (inSwitch frame x) τ := by
 intro fresh c hc
 have hx:=h fresh { c with switches := frame :: c.switches }
  (hc.imp rfl fun h => h.transfer rfl (fun _ => id) fun _ => id)
 unfold Check.inSwitch
 generalize x { c with switches := frame :: c.switches } = p at hx
 cases hx with
 | ok hc' => exact .ok (hc'.imp rfl fun h => h.transfer rfl (fun _ => id) fun _ => id)
 | error hf => exact .error hf

lemma leads_updateFunction (f:FunctionContext → FunctionContext) :
  Leads N around σ (updateFunction f) σ :=
 leads_modify (fun _ => rfl) (fun _ => rfl) (fun _ => rfl) fun _ => rfl

lemma leads_updateSwitch (f:SwitchFrame → SwitchFrame) :
  Leads N around σ (updateSwitch f) σ :=
 leads_modify (fun _ => rfl) (fun _ => rfl) (fun _ => rfl) fun _ => rfl

lemma leads_checkExpr (h:Allows (Permits N σ) e.mentions) :
  Leads N around σ (do let _ ← checkExpr e) σ :=
 Leads.bind (.of_keeps fun _ => .checkExpr h) fun _ => .pure _

lemma leads_test (h:Allows (Permits N σ) e.mentions) :
  Leads N around σ (test e) σ :=
 .of_keeps fun _ => .test h

lemma leads_switchStatement (h:Allows (Permits N σ) e.mentions)
  (hx:Leads N around σ x τ) : Leads N around σ (switchStatement e x) τ := by
 refine Leads.bind (.of_keeps fun _ => .rvalue h) fun t => ?_
 split
 · exact (hx.withFlow _).inSwitch _
 · exact Leads.bind (.of_keeps fun _ => .typeName t) fun _ => .fail rfl _

lemma leads_caseLabel (h:Allows (Permits N σ) e.mentions) (span:Span) :
  Leads N around σ (caseLabel e span) σ := by
 refine .get fun c => ?_
 split
 · exact .fail rfl _
 · rename_i frame _
   refine Leads.bind (.of_keeps fun _ => .rvalue h) fun t => ?_
   split
   · exact .fail rfl _
   · refine Leads.bind (.of_keeps fun _ => .evalConst h) fun v => ?_
     have hadd:Leads N around σ (if frame.values.contains v then
       fail (.duplicateCase v) span else updateSwitch fun f =>
        { f with values := v :: f.values }) σ :=
      .ite (.fail rfl _) (leads_updateSwitch _)
     refine .ite ?_ hadd
     refine Leads.bind (.of_keeps fun _ => .typeName _) fun _ => ?_
     refine Leads.bind (.of_keeps fun _ => .typeName _) fun _ => ?_
     exact (leads_warn _ _).bind fun _ => hadd

lemma leads_defaultLabel (span:Span) : Leads N around σ (defaultLabel span) σ := by
 refine .get fun c => ?_
 split
 · exact .fail rfl _
 · split
   · exact .fail rfl _
   · exact leads_updateSwitch _

lemma leads_returnedType (f:FunctionContext)
  (h:∀ e ∈ value, Allows (Permits N σ) e.mentions) (span:Span) :
  Leads N around σ (returnedType f value span) σ := by
 cases value with
 | none =>
  unfold returnedType
  dsimp only
  split
  · exact .pure _
  · exact Leads.bind (.of_keeps fun _ => .typeName _) fun _ => .fail rfl _
 | some e =>
  unfold returnedType
  dsimp only
  split
  · exact Leads.bind (.of_keeps fun _ => .checkExpr (h e rfl))
     fun _ => .fail rfl _
  · exact .of_keeps fun _ => .conversion _ (h e rfl)

lemma leads_returnStatement
  (h:∀ e ∈ value, Allows (Permits N σ) e.mentions) (span:Span) :
  Leads N around σ (returnStatement value span) σ := by
 refine .get fun c => ?_
 split
 · exact .pure _
 · exact (leads_returnedType _ h span).bind fun _ => leads_updateFunction _

lemma leads_namedLabel (label:Ident) : Leads N around σ (namedLabel label) σ := by
 unfold namedLabel
 split
 · exact .fail rfl _
 · exact .pure _

lemma leads_defineLabel (label:Ident) : Leads N around σ (defineLabel label) σ := by
 refine (leads_namedLabel label).bind fun _ => .get fun c => ?_
 split
 · exact .pure _
 · split
   · exact .fail rfl _
   · exact leads_updateFunction _

lemma leads_breakAllowed (span:Span) : Leads N around σ (breakAllowed span) σ := by
 refine .get fun c => ?_
 dsimp only
 split
 · exact .pure _
 · exact .fail rfl _

lemma leads_continueAllowed (span:Span) : Leads N around σ (continueAllowed span) σ := by
 refine .get fun c => ?_
 split
 · exact .pure _
 · exact .fail rfl _

lemma allows_inFunction (hfile:σ.atFile = false) (types:σ.Covers e.mentions)
  (hfits:Fits N false (e.mentions.map .toExpr)) : Allows (Permits N σ) e.mentions := by
 rw [← hfile] at hfits
 exact allows_of_toExpr hfits types

lemma leads_forInit (h:ForInit.Walk σ init τ)
  (hfile:σ.atFile = false) (hfits:Fits N false (init.toList.flatMap ForInit.mentions)) :
  Leads N around σ (forInit init) τ := by
 cases h with
 | none => exact .pure _
 | decls h =>
  have hds:=(fits_append.mp hfits).1
  rw [← hfile] at hds
  exact leads_forM_checkDeclaration h hds
 | expr types => exact leads_checkExpr (allows_inFunction hfile types (fits_append.mp hfits).1)

lemma fits_optional {e:Option Expr} (hfile:σ.atFile = false)
  (types:∀ a ∈ e, σ.Covers a.mentions)
  (hfits:Fits N false (e.toList.flatMap fun e => e.mentions.map .toExpr)) :
  ∀ a ∈ e, Allows (Permits N σ) a.mentions := by
 rintro a rfl
 exact allows_inFunction hfile (types a rfl) (fits_append.mp hfits).1

lemma leads_forStatement {test step:Option Expr}
  (hinit:∀ K, Leads N (K :: around) σ (forInit init) τ)
  (htest:∀ e ∈ test, Allows (Permits N τ) e.mentions)
  (hstep:∀ e ∈ step, Allows (Permits N τ) e.mentions)
  (hx:∀ K, Leads N (K :: around) τ x υ) (hfile:σ.atFile = false) (hwithin:σ.Within υ) :
  Leads N around σ (forStatement init test step x) σ := by
 refine leads_inBlock (fun K => (hinit K).bind fun _ => ?_) hfile hwithin
 have hloop:Leads N (K :: around) τ (loopBody x) υ:=(hx K).withFlow _
 cases step with
 | none =>
  cases test with
  | none => exact hloop
  | some e => exact (leads_test (htest e rfl)).bind fun _ => hloop
 | some e' =>
  have hlast:Leads N (K :: around) τ (checkExpr e' >>= fun _ => loopBody x) υ:=
   Leads.bind (.of_keeps fun _ => .checkExpr (hstep e' rfl)) fun _ => hloop
  cases test with
  | none => exact hlast
  | some e => exact (leads_test (htest e rfl)).bind fun _ => hlast

mutual

lemma leads_checkStmt : ∀ {s:Stmt} {σ τ:Sight} (around:List Kinds), s.Walk σ τ →
  σ.atFile = false → Fits N false s.mentions → Leads N around σ (checkStmt s) τ
 | _, _, _, around, .compound h, hfile, hfits =>
  leads_inBlock (fun K => leads_checkStmts (K :: around) h hfile hfits) hfile h.within
 | _, _, _, _, .decls h, hfile, hfits => leads_checkDeclarations h (by rw [hfile]; exact hfits)
 | _, _, _, _, .expr types, hfile, hfits => leads_checkExpr (allows_inFunction hfile types hfits)
 | _, _, _, around, .ifThen types hyes, hfile, hfits => by
  obtain ⟨htest,hfits⟩:=fits_append.mp hfits
  refine (leads_test (allows_inFunction hfile types htest)).bind fun _ => ?_
  exact leads_checkStmt around hyes hfile hfits
 | _, _, _, around, .ifElse types hyes hno, hfile, hfits => by
  obtain ⟨htest,hfits⟩:=fits_append.mp hfits
  obtain ⟨hfits,hfits'⟩:=fits_append.mp hfits
  refine (leads_test (allows_inFunction hfile types htest)).bind fun _ => ?_
  refine (leads_checkStmt around hyes hfile hfits).bind fun _ => ?_
  exact leads_checkStmt around hno (hyes.within.atFile.trans hfile) hfits'
 | _, _, _, around, .whileLoop types h, hfile, hfits => by
  obtain ⟨htest,hfits⟩:=fits_append.mp hfits
  refine (leads_test (allows_inFunction hfile types htest)).bind fun _ => ?_
  exact (leads_checkStmt around h hfile hfits).withFlow _
 | _, _, _, around, .doLoop h types, hfile, hfits => by
  obtain ⟨hfits,htest⟩:=fits_append.mp hfits
  refine ((leads_checkStmt around h hfile hfits).withFlow _).bind fun _ => ?_
  exact leads_test (allows_inFunction (h.within.atFile.trans hfile) types htest)
 | _, _, _, around, .forLoop hinit types types' h, hfile, hfits => by
  obtain ⟨hinits,hfits⟩:=fits_append.mp hfits
  obtain ⟨hclauses,hfits⟩:=fits_append.mp hfits
  rw [List.flatMap_append,fits_append] at hclauses
  have hfile':=hinit.within.atFile.trans hfile
  exact leads_forStatement (fun K => leads_forInit hinit hfile hinits)
   (fits_optional hfile' types hclauses.1) (fits_optional hfile' types' hclauses.2)
   (fun K => leads_checkStmt (K :: around) h hfile' hfits) hfile (hinit.within.trans h.within)
 | _, _, _, around, .switch types h, hfile, hfits => by
  obtain ⟨hvalue,hfits⟩:=fits_append.mp hfits
  exact leads_switchStatement (allows_inFunction hfile types hvalue)
   (leads_checkStmt around h hfile hfits)
 | _, _, _, around, .caseLabel types h, hfile, hfits => by
  obtain ⟨hvalue,hfits⟩:=fits_append.mp hfits
  refine (leads_caseLabel (allows_inFunction hfile types hvalue) _).bind fun _ => ?_
  exact leads_checkStmt around h hfile hfits
 | _, _, _, around, .defaultLabel h, hfile, hfits =>
  (leads_defaultLabel _).bind fun _ => leads_checkStmt around h hfile hfits
 | _, _, _, around, .labeled h, hfile, hfits =>
  (leads_defineLabel _).bind fun _ => leads_checkStmt around h hfile hfits
 | _, _, _, _, .returnJump types, hfile, hfits =>
  leads_returnStatement (fits_optional hfile types hfits) _
 | _, _, _, _, .breakJump, _, _ => leads_breakAllowed _
 | _, _, _, _, .continueJump, _, _ => leads_continueAllowed _
 | _, _, _, _, .gotoJump, _, _ => (leads_namedLabel _).bind fun _ => leads_updateFunction _
 | _, _, _, _, .empty, _, _ => .pure _

lemma leads_checkStmts : ∀ {ss:List Stmt} {σ τ:Sight} (around:List Kinds),
  Stmt.WalkAll σ ss τ → σ.atFile = false → Fits N false (Stmt.mentionsAll ss) →
  Leads N around σ (checkStmts ss) τ
 | _, _, _, _, .nil, _, _ => .pure _
 | _, _, _, around, .cons h rest, hfile, hfits => by
  obtain ⟨hs,hss⟩:=fits_append.mp hfits
  refine (leads_checkStmt around h hfile hs).reporting.bind fun _ => ?_
  exact leads_checkStmts around rest (h.within.atFile.trans hfile) hss

end

lemma leads_paramsNamed (function:String) (ps:List Param) :
  Leads N around σ (paramsNamed function ps) σ := by
 induction ps with
 | nil => exact .pure _
 | cons p ps ih => exact .ite (.fail rfl _) ih

lemma leads_declareParams (ps:List Param) (ts:List CType) :
  Leads N around σ (declareParams ps ts)
   ((ps.filterMap (·.name)).foldl (fun σ name => σ.hide name.name) σ) := by
 induction ps generalizing σ ts with
 | nil =>
  unfold declareParams
  exact .pure _
 | cons p ps ih =>
  obtain ⟨name,type,span⟩:=p
  cases ts with
  | nil => exact (Leads.pure ()).hideAll _
  | cons t ts =>
   cases name with
   | none => exact ih ts
   | some name => exact (leads_declare (.param name t)).bind fun _ => ih ts

lemma leads_definedSignature (head:FunctionDecl) (t:CType) :
  Leads N around σ (definedSignature head t) σ := by
 unfold definedSignature
 split
 · exact .pure _
 · exact Leads.bind (.of_keeps fun _ => .typeName t) fun _ => .fail rfl _

lemma leads_returnsComplete (ret:CType) (span:Span) :
  Leads N around σ (returnsComplete ret span) σ := by
 refine Leads.bind (.of_keeps fun _ => .of (.isComplete ret)) fun b => .ite (.pure _) ?_
 exact Leads.bind (.of_keeps fun _ => .typeName ret) fun _ => .fail rfl _

lemma leads_leaveFunction (t:CType) : Leads N around σ (modify (·.leaveFunction t)) σ := by
 intro fresh c hc
 refine .ok ?_
 unfold Checker.leaveFunction
 dsimp only
 split
 · exact hc
 · rename_i f _
   have hgotos (gs:List Ident) (c:Checker) (hc:Sound N around σ fresh c) :
     Sound N around σ fresh
      (gs.foldl (fun c g => c.report ⟨.undefinedLabel g.name,g.span⟩) c) := by
    induction gs generalizing c with
    | nil => exact hc
    | cons g gs ih => exact ih _ (Or.inr (Stopped.report (hc.stopped rfl)))
   have hreported:=hgotos f.undefinedGotos { c with function := none }
    (hc.imp rfl fun h => h.transfer rfl (fun _ => id) fun _ => id)
   exact hreported.imp rfl fun h => h.transfer rfl (fun _ => id) fun _ => id

/-! ### File scope -/

lemma fits_atFile (hfile:σ.atFile = true) (ms:List Mention) :
  Fits (fun _ => True) σ.atFile ms :=
 fun _ _ => ⟨fun _ => trivial,fun _ => .inl hfile⟩

def UsedAsType (ms:List Mention) (x:String) : Prop := ∃ m ∈ ms, m.use = .type ∧ m.name = x

/-- No enumerator inside a size, a value or a parameter list has the name of a type that is used
with it. -/
def SparesTypes (ms:List Mention) : Prop := ∀ m ∈ ms, m.IsBuried → ¬UsedAsType ms m.name

instance (ms:List Mention) : Decidable (SparesTypes ms) :=
 inferInstanceAs (Decidable (∀ m ∈ ms, m.IsBuried → ¬∃ m' ∈ ms, m'.use = .type ∧ m'.name = m.name))

lemma SparesTypes.fits {ms:List Mention} (h:SparesTypes ms) :
  Fits (UsedAsType ms) false ms :=
 fun m hm => ⟨fun htype => ⟨m,hm,htype,rfl⟩,fun hburied => .inr (h m hm hburied)⟩

lemma leads_checkDefinition {head:FunctionDecl} {body:Block}
  (h:Declaration.Walk σ (.func head) τ)
  (hbody:Stmt.WalkAll (τ.enterFunction head.type.params) body.stmts υ)
  (hfile:σ.atFile = true) (hspares:SparesTypes (Stmt.mentionsAll body.stmts)) :
  Leads (fun _ => True) around σ (checkDefinition head body) τ := by
 obtain ⟨hrecords,henums,hinner⟩:=τ.enterFunction_fields head.type.params
 have hblock (K:Kinds) : Leads (UsedAsType (Stmt.mentionsAll body.stmts)) (K :: around)
   (τ.enterFunction head.type.params) (checkBlock body) (τ.enterFunction head.type.params) :=
  leads_inBlock (fun K' => leads_checkStmts (K' :: K :: around) hbody hinner hspares.fits) hinner
   hbody.within
 cases h with
 | func htype =>
  refine (leads_resolveType htype (fits_atFile hfile _)).bind fun t => ?_
  refine (leads_definedSignature head t).bind fun f => ?_
  refine (leads_paramsNamed _ _).bind fun _ => (leads_returnsComplete _ _).bind fun _ => ?_
  refine (leads_declareFunction _ _ _ _).bind fun _ => ?_
  refine Leads.bind (leads_modify (fun _ => rfl) (fun _ => rfl) (fun _ => rfl) fun _ => rfl)
   fun _ => ?_
  refine Leads.bind (Leads.reporting ?_) fun _ => leads_leaveFunction t
  exact leads_inScope (fun _ _ => trivial)
   (fun K => (leads_declareParams _ _).bind fun _ => hblock K)
   (fun _ ho => hrecords ▸ ho) (fun _ ho => henums ▸ ho)

lemma leads_checkExternals {es:List External} (h:External.WalkAll σ es τ)
  (hfile:σ.atFile = true)
  (hspares:∀ e ∈ es, SparesTypes (Stmt.mentionsAll e.body)) :
  Leads (fun _ => True) around σ (checkExternals es) τ := by
 induction h with
 | nil => exact .pure _
 | @cons σ τ υ e es h _ ih =>
  obtain ⟨hspared,hrest⟩:=List.forall_mem_cons.mp hspares
  cases h with
  | declaration h =>
   refine (leads_checkDeclaration h (fits_atFile hfile _)).reporting.bind fun _ => ?_
   exact ih (h.within.atFile.trans hfile) hrest
  | definition h hbody =>
   refine (leads_checkDefinition h hbody hfile hspared).reporting.bind fun _ => ?_
   exact ih (h.within.atFile.trans hfile) hrest

/-! ### Programs -/

lemma Cause.opening (h:cause.isUnknownType = false) :
  ['u','n','k','n','o','w','n',' ','t'].isPrefixOf cause.message.toList = false := by
 cases cause
 case unknownTypeName => cases h
 all_goals
  -- The equation lemmas of `message` are large; its branches are short.
  delta message
  dsimp only
  try simp only [String.toList_append,List.append_assoc]
  rfl

lemma Cause.message_ne (h:cause.isUnknownType = false) (name:String) :
  cause.message ≠ (unknownTypeName name).message := by
 intro heq
 have hopening:=opening h
 rw [heq] at hopening
 delta message at hopening
 dsimp only at hopening
 simp only [String.toList_append,List.append_assoc] at hopening
 exact absurd hopening (by simp)

lemma Sound.first_error (h:Sound N around σ fresh c) {d:Diagnostic}
  (hd:c.diagnostics.find? (·.isError) = some d) (name:String) :
  d.message ≠ (Cause.unknownTypeName name).message := by
 rcases h with ⟨-,hclean,-⟩ | ⟨f,hfind,hf⟩
 · have herror:=List.find?_some hd
   rw [hclean d (List.mem_of_find?_eq_some hd)] at herror
   cases herror
 · rw [hfind] at hd
   cases hd
   exact Cause.message_ne hf name

def Sight.start : Sight := ⟨fun _ => False,[],[],true⟩

lemma agrees_start (warnUnused:Bool) :
  Agrees (fun _ => True) [] Sight.start (Checker.start warnUnused) where
 types _ _ h := h.elim
 outer := rfl
 records _ h := nomatch h
 enums _ h := nomatch h
 atFile _ := rfl

lemma walk_of_parse {source:String} {u:ProgramUnit} (h:parse source = .ok u)
  (hkeeps:KeepsSpecifiers u.externals) : ∃ τ, External.WalkAll Sight.start u.externals τ := by
 unfold parse at h
 split at h
 · cases h
 · rename_i ts _
   unfold parseTokens at h
   split at h
   · rename_i s' hrun
     cases h
     obtain ⟨added,-,hread⟩:=(declares_unit (.ofTokens ts) rfl).1 u s' hrun
     have hsees:Sight.start.Sees ⟨[[]]⟩:=fun x hx => nomatch hx
     obtain ⟨τ,hwalk,-⟩:=hread.walk Sight.start rfl hsees hkeeps
     exact ⟨τ,hwalk⟩
   · cases h

/-- The first error in a program that was read is never an unknown type name, unless inside a
function a declaration takes the name that its own specifiers consist of, or an enumerator inside
a size, a value or a parameter list has the name of a type used there. -/
theorem type_names_resolved {source:String} {u:ProgramUnit} (h:parse source = .ok u)
  (hkeeps:KeepsSpecifiers u.externals)
  (hspares:∀ e ∈ u.externals, SparesTypes (Stmt.mentionsAll e.body)) (warnUnused:Bool)
  {d:Diagnostic}
  (hd:((Checker.start warnUnused).analyze u).diagnostics.find? (·.isError) = some d)
  (name:String) : d.message ≠ (Cause.unknownTypeName name).message := by
 obtain ⟨τ,hwalk⟩:=walk_of_parse h hkeeps
 have hstart:Sound (fun _ => True) [] Sight.start true (Checker.start warnUnused):=
  Or.inl ⟨rfl,List.forall_mem_nil _,agrees_start warnUnused⟩
 have hends:=leads_checkExternals hwalk rfl hspares true _ hstart
 unfold Checker.analyze at hd
 generalize checkExternals u.externals (Checker.start warnUnused) = p at hends hd
 cases hends with
 | ok hc => exact hc.first_error hd name
 | error hf =>
  have hsound:Sound (fun _ => True) [] τ true _:=Or.inr hf.report
  exact hsound.first_error hd name

/-- A parameter hides the type of its own name, in the body only. -/
def shadowedParameter : String :=
 "typedef int T; enum { A = sizeof(T) }; int f(T T) { return T + y; } T z[A];"

theorem type_names_resolved_shadowed : ∃ u d, parse shadowedParameter = .ok u ∧
  KeepsSpecifiers u.externals ∧
  (∀ e ∈ u.externals, SparesTypes (Stmt.mentionsAll e.body)) ∧
  ((Checker.start true).analyze u).diagnostics.find? (·.isError) = some d ∧
  ∀ name, d.message ≠ (Cause.unknownTypeName name).message := by
 have hrun:(parse shadowedParameter).toOption.any (fun u =>
   decide (∀ e ∈ u.externals, ∀ ds ∈ Stmt.groupsAll e.body, KeepsSpecifier ds) &&
   decide (∀ e ∈ u.externals, SparesTypes (Stmt.mentionsAll e.body)) &&
   (((Checker.start true).analyze u).diagnostics.find? (·.isError)).isSome) = true := by
  decide +kernel
 cases h : parse shadowedParameter with
 | error f =>
  rw [h] at hrun
  cases hrun
 | ok u =>
  rw [h] at hrun
  simp only [Except.toOption,Option.any_some,Bool.and_eq_true,decide_eq_true_eq] at hrun
  obtain ⟨⟨hkeeps,hspares⟩,herror⟩:=hrun
  obtain ⟨d,hd⟩:=Option.isSome_iff_exists.mp herror
  exact ⟨u,d,rfl,hkeeps,hspares,hd,type_names_resolved h hkeeps hspares true hd⟩

/-- Both declarators of `T T, q;` are read with the type `T`, but the second one is checked where
`T` is the variable that the first one has declared. -/
theorem type_name_taken_by_declarator :
  ((check "typedef int T; void f(void) { T T, q; }" "" true).report.diagnostics.find?
   (·.isError)).map (·.message) = some (Cause.unknownTypeName "T").message := by
 decide +kernel

end CCheck
