import CCheck.Proofs.Specifiers.Expressions

/-! # Specifiers in declarations and statements

A declaration meets the specifiers of its types and of its initializer, and a statement those of its
parts, unless an error is reported. -/

set_option autoImplicit false

namespace CCheck

open Check
open Site (topsAll lostAll)

namespace Setting

variable {α β:Type} {Γ:Setting} {ss ss':List Site} {ts pre:List Node}
 {x:Check α} {k:α → Check β} {c d e:Checker}

/-! ### Steps that enter symbols -/

namespace Calms

lemma pure (a:α) : Γ.Calms (pure a) := look (.pure a)

lemma fail (cause:Cause) (span:Span) : Γ.Calms (Check.fail cause span:Check α) :=
 fun _ hc => .refl hc

lemma ite {p:Prop} [Decidable p] {y:Check α} (yes:Γ.Calms x) (no:Γ.Calms y) :
  Γ.Calms (if p then x else y) := by
 split
 · exact yes
 · exact no

lemma modify {f:Checker → Checker} (h:∀ c, Γ.Fits c → Γ.Calm c (f c)) :
  Γ.Calms (modify f) := h

lemma updateLocal (name:String) {g:Symbol → Symbol} (hname:∀ x, (g x).name = x.name)
  (hkind:∀ x, (g x).kind = x.kind) (hspan:∀ x, (g x).span = x.span) :
  Γ.Calms (updateLocal name g) :=
 modify fun c hc => .setSymbols hc (.current (.update c.symbols.current name hname hkind hspan))
  (hc.tags.updateLocal name g)

lemma sameEntity (old:Symbol) (kind:SymbolKind) (t:CType) (name:Ident) :
  Γ.Calms (sameEntity old kind t name) :=
 ite (fail _ _) (ite (fail _ _) (pure _))

lemma declareFunction (name:Ident) (t:CType) (storage:Option StorageClass)
  (hasBody:Bool) : Γ.Calms (declareFunction name t storage hasBody) := by
 refine get fun c => ?_
 split
 · refine (sameEntity _ _ _ _).bind fun _ => ite (fail _ _) ?_
   exact updateLocal _ (fun _ => rfl) (fun _ => rfl) fun _ => rfl
 · exact declare _

lemma markInitialized (name:String) : Γ.Calms (markInitialized name) :=
 modify fun c hc => ⟨{ hc with },{ Checker.Retains.refl c with },rfl,rfl⟩

lemma redeclareVariable (old:Symbol) (name:Ident) (t:CType) (hasInit isDefined:Bool) :
  Γ.Calms (redeclareVariable old name t hasInit isDefined) := by
 refine (sameEntity _ _ _ _).bind fun _ => get fun c => ite (fail _ _) ?_
 refine ite ((markInitialized _).bind fun _ => ?_) ?_
 · exact updateLocal _ (fun _ => rfl) (fun _ => rfl) fun _ => rfl
 · exact updateLocal _ (fun _ => rfl) (fun _ => rfl) fun _ => rfl

lemma enterVariable (d:VarDecl) (t:CType) : Γ.Calms (enterVariable d t) := by
 refine (look (.of .atFileScope)).bind fun b => ite (get fun c => ?_) (declare _)
 split
 · exact redeclareVariable _ _ _ _ _
 · exact ite ((markInitialized _).bind fun _ => declare _) (declare _)

lemma declareParams (ps:List Param) (ts:List CType) : Γ.Calms (declareParams ps ts) := by
 induction ps generalizing ts with
 | nil => exact pure _
 | cons p ps ih =>
  cases ts with
  | nil => exact pure _
  | cons t ts =>
   unfold Check.declareParams
   cases p.name with
   | none => exact ih ts
   | some name => exact (declare _).bind fun _ => ih ts

lemma warn (message:String) (span:Span) : Γ.Calms (warn message span) :=
 modify fun c hc => ⟨{ hc with },.warn c message span,rfl,rfl⟩

lemma updateSwitch (f:SwitchFrame → SwitchFrame) : Γ.Calms (updateSwitch f) :=
 modify fun c hc => ⟨{ hc with },{ Checker.Retains.refl c with },rfl,rfl⟩

lemma updateFunction {g:FunctionContext → FunctionContext}
  (h:∀ f : FunctionContext, f.locals ⊆ (g f).locals) : Γ.Calms (updateFunction g) := by
 refine modify fun c hc => ⟨⟨hc.tags,fun hblock => ?_,hc.file⟩,.setFunction h,rfl,rfl⟩
 rw [Option.isSome_map]
 exact hc.block hblock

lemma defaultLabel (span:Span) : Γ.Calms (defaultLabel span) := by
 refine get fun c => ?_
 split
 · exact fail _ _
 · exact ite (fail _ _) (updateSwitch _)

lemma gotoStatement (label:Ident) : Γ.Calms (gotoStatement label) :=
 (look (.of (.namedLabel label))).bind fun _ => updateFunction fun _ => List.Subset.refl _

lemma defineLabel (label:Ident) : Γ.Calms (defineLabel label) := by
 refine (look (.of (.namedLabel label))).bind fun _ => get fun c => ?_
 split
 · exact pure _
 · exact ite (fail _ _) (updateFunction fun _ => List.Subset.refl _)

end Calms

/-! ### Initializers -/

variable (Γ)

lemma resolves_rvalue (e:Expr) : Γ.Resolves e.sites (rvalue e) := (Γ.resolves_checkExpr e).value

lemma resolves_conversion (t:CType) (e:Expr) : Γ.Resolves e.sites (conversion t e) :=
 (Γ.resolves_checkExpr e).convert t (Γ.evaluates_evalConst e)

lemma resolves_test (e:Expr) : Γ.Resolves e.sites (test e) :=
 (Γ.resolves_checkExpr e).condition e

lemma resolves_plainInitializer (t:CType) (e:Expr) :
  Γ.Resolves e.sites (plainInitializer t e) := by
 unfold Check.plainInitializer
 split
 · split
   · exact .ite (.look (.of (.stringInitializer _ _ _ _ _ False.elim False.elim))) (.fail _ _)
   · exact .fail _ _
 · exact (Γ.resolves_conversion t e).last fun _ => .pure _

variable {Γ}

lemma Resolves.atMost {items limit:Nat} {what:String} {span:Span} {k:Unit → Check α}
  (hk:items ≤ limit → Γ.Resolves ss (k ())) :
  Γ.Resolves ss (atMost items limit what span >>= k) := by
 unfold Check.atMost
 split
 · exact fun _ _ c hc _ => .error (.refl hc)
 · rename_i h
   exact hk (Nat.le_of_not_lt h)

lemma sites_of_bracedString {elem:CType} {items:List Initializer} {p:String × Span}
  (h:bracedString? elem items = some p) : Initializer.sitesAll items = [] := by
 unfold bracedString? at h
 split at h
 · rfl
 · cases h

variable (Γ)

mutual

lemma resolves_checkInitializer (t:CType) :
  ∀ i : Initializer, Γ.Resolves i.sites (checkInitializer t i)
 | .expr e => .ite (.fail _ _) (Γ.resolves_plainInitializer t e)
 | .list items span => by
  unfold checkInitializer
  rw [Initializer.sites]
  refine .ite (.fail _ _) ?_
  split
  · rename_i elem length _ _
    split
    · rename_i hstring
      rw [sites_of_bracedString hstring]
      exact .look (.of (.stringInitializer _ _ _ _ _ False.elim False.elim))
    · have hitems:Γ.Resolves (Initializer.sitesAll items) (do
        checkItems elem items
        return withLength t elem length items.length) :=
       (resolves_checkItems elem items).last fun _ => .pure _
      cases length with
      | none => exact hitems
      | some n => exact .atMost fun _ => hitems
  · refine (Resolves.look (.of (.recordParts t _ span))).first fun p => .atMost fun hle => ?_
    exact (resolves_checkFields p.2 items hle).last fun _ => .pure _
  · cases items with
    | nil => exact .fail _ _
    | cons item rest =>
     cases rest with
     | nil =>
      have hitem:=resolves_checkInitializer t item
      rw [Initializer.sitesAll,Initializer.sitesAll,List.append_nil]
      exact hitem
     | cons _ _ => exact .fail _ _
termination_by structural i => i

lemma resolves_checkItems (elem:CType) :
  ∀ is : List Initializer, Γ.Resolves (Initializer.sitesAll is) (checkItems elem is)
 | [] => .pure _
 | i :: is => (resolves_checkInitializer elem i).bind fun _ => resolves_checkItems elem is

lemma resolves_checkFields (types:List CType) :
  ∀ is : List Initializer, is.length ≤ types.length →
   Γ.Resolves (Initializer.sitesAll is) (checkFields types is)
 | [], _ => .pure _
 | i :: is, hle => by
  cases types with
  | nil => cases hle
  | cons t ts =>
   exact (resolves_checkInitializer t i).bind fun _ =>
    resolves_checkFields ts is (Nat.le_of_succ_le_succ hle)

end

/-! ### Declarations -/

variable {Γ}

lemma Resolves.flatMap_some {γ:Type} {f:γ → List Site} {a:γ} (h:Γ.Resolves (f a) x) :
  Γ.Resolves ((some a).toList.flatMap f) x := by
 rw [Option.toList_some,List.flatMap_singleton]
 exact h

lemma Resolves.get {k:Checker → Check β} (h:∀ c, Γ.Fits c → Γ.Resolves ss (k c)) :
  Γ.Resolves ss (MonadState.get >>= k) :=
 fun pre hlost c hc hpre => h c hc pre hlost c hc hpre

variable (Γ)

lemma resolves_initializedType (d:VarDecl) (t:CType) :
  Γ.Resolves (d.init.toList.flatMap Initializer.sites) (initializedType d t) := by
 unfold Check.initializedType
 cases d.init with
 | none => exact .pure _
 | some i =>
  refine .flatMap_some ((Resolves.look (.of .atFileScope)).first fun b => ?_)
  exact .ite (.fail _ _) (Γ.resolves_checkInitializer t i)

lemma resolves_declareObject (d:VarDecl) (t:CType) :
  Γ.Resolves (d.init.toList.flatMap Initializer.sites) (declareObject d t) := by
 refine .ite (.fail _ _) ((Resolves.look (.fileScopeStorage d)).first fun _ => ?_)
 refine (Γ.resolves_initializedType d t).last fun t => ?_
 exact (Resolves.look (.definable d t)).first fun _ => .calm (.enterVariable d t)

lemma resolves_declareVariable (d:VarDecl) :
  Γ.Resolves (Declaration.var d).sites (declareVariable d) := by
 refine (Γ.resolves_resolveType d.type).bind fun t => .ite ?_ (Γ.resolves_declareObject d t)
 cases d.init with
 | none => exact .calm (.declareFunction _ _ _ _)
 | some i => exact .fail _ _

lemma resolves_declareRecord (spec:RecordSpec) :
  Γ.Resolves spec.sites (declareRecord spec) := by
 have hspec:=(Γ.resolves_resolveRecord spec).last fun _ => .pure ()
 obtain ⟨kind,tag,members,span⟩:=spec
 cases tag with
 | none => exact hspec
 | some tag =>
  cases members with
  | some members => exact hspec
  | none =>
   refine .get fun c _ => .ite ?_ hspec
   exact (Resolves.calm (.newTaggedRecord kind tag)).first fun _ => .pure _

lemma resolves_checkDeclaration (d:Declaration) : Γ.Resolves d.sites (checkDeclaration d) := by
 cases d with
 | var d => exact Γ.resolves_declareVariable d
 | func d => exact (Γ.resolves_resolveType d.type).last fun t => .calm (.declareFunction _ _ _ _)
 | record spec => exact Γ.resolves_declareRecord spec
 | enum spec => exact Γ.resolves_resolveEnum spec
 | typedef d => exact (Γ.resolves_resolveType d.type).last fun t => .calm (.declare _)

/-! ### Surroundings -/

variable {Γ}

lemma Calm.report (hc:Γ.Fits c) (f:Fault) : Γ.Calm c (c.report f) :=
 ⟨{ hc with },.report c f,rfl,rfl⟩

lemma Calm.setFlow (hc:Γ.Fits c) (flow:Flow) (switches:List SwitchFrame) :
  Γ.Calm c { c with flow,switches } :=
 ⟨{ hc with },{ Checker.Retains.refl c with },rfl,rfl⟩

lemma Calm.enterScope (hblock:Γ.inBlock = true) (hc:Γ.Fits c) : Γ.Calm c c.enterScope := by
 refine ⟨⟨hc.tags.enterScope,hc.block,fun hfile => ?_⟩,.enterScope c,rfl,rfl⟩
 exact absurd (hfile.symm.trans hblock) Bool.false_ne_true

lemma Calm.leaveScope (hblock:Γ.inBlock = true) (hc:Γ.Fits c) : Γ.Calm c c.leaveScope := by
 obtain ⟨f,hf⟩:=Option.isSome_iff_exists.mp (hc.block hblock)
 refine ⟨⟨hc.tags.leaveScope,fun _ => ?_,fun hfile => ?_⟩,.leaveScope hf,
  (Ledger.same_leaveScope c).definedRecords,(Ledger.same_leaveScope c).definedEnums⟩
 · cases houter : c.symbols.outer with
   | nil =>
    rw [leaveScope_of_global houter]
    exact hc.block hblock
   | cons s ss =>
    rw [leaveScope_of_outer houter]
    refine warnAboutUnused_keeps (P := fun d => (d.keepLocals _).function.isSome = true)
     (fun _ _ _ hd => hd) _ ?_
    exact Option.isSome_map.trans (hc.block hblock)
 · exact absurd (hfile.symm.trans hblock) Bool.false_ne_true

lemma Does.enter {inSize:Bool} {c₁:Checker} (hx:Γ.Does inSize pre ss ts x)
  (hlost:lostAll Γ.inBlock inSize ss ⊆ Γ.lost)
  (hpre:c.errorCount = 0 → c.Covers Γ.lost pre) (hcalm:Γ.Calm c c₁) :
  Γ.Ends ss ts c (x c₁) := by
 have hnone:Γ.Reaches [] c c₁:=hcalm.reaches
 refine Ends.after hnone (fun _ => hcalm.quiet.completes_nil)
  (hx hlost c₁ hcalm.fits fun herrors => hcalm.retains.covers (hpre ?_))
 exact Nat.le_zero.mp (herrors ▸ hcalm.retains.errors)

namespace Resolves

lemma reporting {x:Check Unit} (hx:Γ.Resolves ss x) : Γ.Resolves ss (reporting x) := by
 intro pre hlost c hc hpre
 have hrun:=hx pre hlost c hc hpre
 unfold Check.reporting
 generalize x c = o at hrun
 cases hrun with
 | ok reaches completes => exact .ok reaches completes
 | error reaches =>
  refine .ok (reaches.calm (.report reaches.fits _)) fun herrors => ?_
  exact absurd herrors (Nat.succ_ne_zero _)

lemma between {enter:Checker → Checker} {leave:Checker → Checker → Checker}
  (henter:∀ {c}, Γ.Fits c → Γ.Calm c (enter c))
  (hleave:∀ {c d}, Γ.Fits d → Γ.Calm d (leave c d)) (hx:Γ.Resolves ss x) :
  Γ.Resolves ss (between enter leave x) := by
 intro pre hlost c hc hpre
 have hrun:=(hx pre).enter hlost hpre (henter hc)
 unfold Check.between
 generalize x (enter c) = o at hrun
 cases hrun with
 | error reaches => exact .error (reaches.calm (hleave reaches.fits))
 | ok reaches completes =>
  have hcalm:=hleave (c := c) reaches.fits
  refine .ok (reaches.calm hcalm) fun herrors =>
   hcalm.quiet.last reaches.retains (completes ?_)
  exact Nat.le_zero.mp (herrors ▸ hcalm.retains.errors)

lemma inScope (hblock:Γ.inBlock = true) (hx:Γ.Resolves ss x) : Γ.Resolves ss (inScope x) :=
 between (.enterScope hblock) (.leaveScope hblock) hx

lemma withFlow (change:Flow → Flow) (hx:Γ.Resolves ss x) :
  Γ.Resolves ss (withFlow change x) :=
 between (.setFlow · _ _) (.setFlow · _ _) hx

lemma inSwitch (frame:SwitchFrame) (hx:Γ.Resolves ss x) :
  Γ.Resolves ss (inSwitch frame x) :=
 between (.setFlow · _ _) (.setFlow · _ _) hx

end Resolves

/-! ### Statements -/

lemma Resolves.switchStatement (e:Expr) {x:Check Unit} (hx:Γ.Resolves ss x) :
  Γ.Resolves (e.sites ++ ss) (switchStatement e x) := by
 refine (Γ.resolves_rvalue e).bind fun t => .ite ((hx.withFlow _).inSwitch _) ?_
 exact fun _ => (Does.look (.typeName t)).first fun _ => .fail _ _

variable (Γ)

lemma resolves_caseLabel (e:Expr) (span:Span) : Γ.Resolves e.sites (caseLabel e span) := by
 refine .get fun c _ => ?_
 split
 · exact .fail _ _
 · rename_i frame _
   have hadd:∀ v, Γ.Calms (if frame.values.contains v then Check.fail (.duplicateCase v) span
     else Check.updateSwitch fun f => { f with values := v :: f.values }) :=
    fun v => .ite (.fail _ _) (.updateSwitch _)
   refine .of_subset (e.sites ++ e.sites) (fun pre => ?_) (by simp)
   rw [← List.append_nil (topsAll e.sites)]
   refine (Γ.resolves_rvalue e pre).bind fun t => .ite (.fail _ _) ?_
   have hvalue:=(Γ.evaluates_evalConst e false (pre ++ topsAll e.sites)).constants
   refine (hvalue.mono (List.Subset.refl _) (List.nil_subset _)).last fun v => Calms.does ?_
   refine .ite ?_ (hadd v)
   refine (Calms.look (.typeName t)).bind fun _ => ?_
   refine (Calms.look (.typeName frame.type)).bind fun _ => ?_
   exact (Calms.warn _ _).bind fun _ => hadd v

lemma resolves_returnedType (f:FunctionContext) (e:Option Expr) (span:Span) :
  Γ.Resolves (e.toList.flatMap Expr.sites) (returnedType f e span) := by
 cases e with
 | some e =>
  refine .flatMap_some (.ite ?_ (Γ.resolves_conversion f.ret e))
  exact (Γ.resolves_checkExpr e).last fun _ => .fail _ _
 | none => exact .ite (.pure _) (.look (.failNaming _ (fun _ => rfl) _))

lemma resolves_forInit (init:Option ForInit) :
  Γ.Resolves (init.toList.flatMap ForInit.sites) (forInit init) := by
 cases init with
 | none => exact .pure _
 | some init =>
  refine .flatMap_some ?_
  cases init with
  | decls ds =>
   rw [ForInit.sites]
   induction ds with
   | nil => exact .pure _
   | cons d ds ih => exact (Γ.resolves_checkDeclaration d).bind fun _ => ih
  | expr e => exact (Γ.resolves_checkExpr e).last fun _ => .pure _

lemma resolves_checkDeclarations (ds:List Declaration) :
  Γ.Resolves (ds.flatMap Declaration.sites) (checkDeclarations ds) := by
 induction ds with
 | nil => exact .pure _
 | cons d ds ih => exact (Γ.resolves_checkDeclaration d).reporting.bind fun _ => ih

lemma resolves_returnStatement (hblock:Γ.inBlock = true) (e:Option Expr) (span:Span) :
  Γ.Resolves (e.toList.flatMap Expr.sites) (returnStatement e span) := by
 refine .get fun c hc => ?_
 split
 · rename_i hnone
   cases hnone ▸ hc.block hblock
 · refine (Γ.resolves_returnedType _ e span).last fun t => ?_
   exact .calm (.updateFunction fun _ => List.Subset.refl _)

lemma resolves_forStatement (hblock:Γ.inBlock = true) (init:Option ForInit)
  (test step:Option Expr) {x:Check Unit} (hx:Γ.Resolves ss x) :
  Γ.Resolves (init.toList.flatMap ForInit.sites ++
   (test.toList.flatMap Expr.sites ++ (step.toList.flatMap Expr.sites ++ ss)))
   (forStatement init test step x) := by
 have hbody:Γ.Resolves ss (loopBody x):=hx.withFlow _
 refine .inScope hblock ((Γ.resolves_forInit init).bind fun _ => ?_)
 cases step with
 | none =>
  cases test with
  | none => exact hbody
  | some c => exact (Γ.resolves_test c).flatMap_some.bind fun _ => hbody
 | some e =>
  have hstep:=(Γ.resolves_checkExpr e).flatMap_some.bind fun _ => hbody
  cases test with
  | none => exact hstep
  | some c => exact (Γ.resolves_test c).flatMap_some.bind fun _ => hstep

mutual

lemma resolves_checkStmt (hblock:Γ.inBlock = true) :
  ∀ s : Stmt, Γ.Resolves s.sites (checkStmt s)
 | .compound ss _ => (resolves_checkStmts hblock ss).inScope hblock
 | .decls ds _ => Γ.resolves_checkDeclarations ds
 | .expr e _ => (Γ.resolves_checkExpr e).last fun _ => .pure _
 | .ifElse test yes none _ => (Γ.resolves_test test).bind fun _ => resolves_checkStmt hblock yes
 | .ifElse test yes (some no) _ => (Γ.resolves_test test).bind fun _ =>
  (resolves_checkStmt hblock yes).bind fun _ => resolves_checkStmt hblock no
 | .whileLoop test body _ =>
  (Γ.resolves_test test).bind fun _ => (resolves_checkStmt hblock body).withFlow _
 | .doLoop body test _ =>
  ((resolves_checkStmt hblock body).withFlow _).bind fun _ => Γ.resolves_test test
 | .forLoop init test step body _ =>
  Γ.resolves_forStatement hblock init test step (resolves_checkStmt hblock body)
 | .switch value body _ => (resolves_checkStmt hblock body).switchStatement value
 | .caseLabel value body span =>
  (Γ.resolves_caseLabel value span).bind fun _ => resolves_checkStmt hblock body
 | .defaultLabel body span =>
  (Resolves.calm (.defaultLabel span)).first fun _ => resolves_checkStmt hblock body
 | .breakJump span => .look (refuses_undisturbing.breakAllowed span)
 | .continueJump span => .look (refuses_undisturbing.continueAllowed span)
 | .returnJump value span => Γ.resolves_returnStatement hblock value span
 | .gotoJump label _ => .calm (.gotoStatement label)
 | .labeled label body _ =>
  (Resolves.calm (.defineLabel label)).first fun _ => resolves_checkStmt hblock body
 | .empty _ => .pure _
termination_by structural s => s

lemma resolves_checkStmts (hblock:Γ.inBlock = true) :
  ∀ ss : List Stmt, Γ.Resolves (Stmt.sitesAll ss) (checkStmts ss)
 | [] => .pure _
 | s :: ss => (resolves_checkStmt hblock s).reporting.bind fun _ => resolves_checkStmts hblock ss

end

end Setting

end CCheck
