import CCheck.Proofs.Checking.ScopeTraces
import CCheck.Proofs.Parsing.LabelPlaces

/-! # The symbols of a function

Every scope of a function hands its symbols to the function when it ends, whether or not there are
faults in it. -/

set_option autoImplicit false

namespace CCheck

open Check

variable {α β:Type} {c d e:Checker}

variable {dcl:Declaration} {h:CType × Signature} {hasBody:Bool} {head:FunctionDecl}
 {locals:List Symbol} {name:Ident} {s t:SymbolTable}

/-! ### Steps within one scope -/

def Checker.Adds (c d:Checker) : Prop := ∃ own : List Symbol, c.Collects (own.map .symbol) [] d

lemma Checker.Adds.refl (c:Checker) : c.Adds c := ⟨[],.refl c⟩

lemma Checker.Adds.trans (h:c.Adds d) (h':d.Adds e) : c.Adds e := by
 obtain ⟨xs,hxs⟩:=h
 obtain ⟨ys,hys⟩:=h'
 refine ⟨xs ++ ys,?_⟩
 rw [List.map_append]
 exact hxs.trans hys

lemma Checker.Undisturbed.adds (h:c.Undisturbed d) : c.Adds d := by
 obtain ⟨own,hown,hgains⟩:=h.symbols
 exact ⟨own,.of_symbols own (fun x hx => (hown x hx).1) h.context
  (hgains.mono fun _ _ hxy => hxy.renewed) h.unique⟩

lemma Checker.adds_declare {x:Symbol} (h:c.symbols.declare x = .ok s) :
  c.Adds { c with symbols := s } :=
 ⟨[_],.declare h⟩

lemma Symbol.renewed_restated {x:Symbol} (h:x.kind = .func) (t:CType) :
  x.Renewed (x.restated t false) := by
 refine ⟨(x.restated t false).type,.inr h,Or.inl ?_⟩
 unfold Symbol.restated
 rw [Bool.or_false]

lemma SymbolTable.EntersFunction.adds
  (h:c.symbols.EntersFunction name false s) (hc:c.symbols.Unique) :
  c.Adds { c with symbols := s } := by
 cases h with
 | fresh declared => exact Checker.adds_declare declared
 | again type known kind once =>
  have hrenewed:c.symbols.Gains Symbol.Renewed []
    (c.symbols.updateLocal name.name (.restated type false)) := by
   refine .updateLocal Symbol.becoming_renewed fun x hx hname => ?_
   rw [Scope.eq_of_find? (hc _ List.mem_cons_self) known hx hname]
   exact Symbol.renewed_restated kind type
  exact ⟨[],.of_symbols [] (List.forall_mem_nil _) rfl hrenewed
   fun hc => hc.updateLocal fun _ => rfl⟩

lemma Checker.Admits.adds (h:c.Admits dcl d) (hc:c.InBody) :
  c.Adds d := by
 have hinner:∀ v, c.initializedWith v = c.initialized:=fun v => by
  rw [initializedWith,beq_false_of_ne (Nat.pos_iff_ne_zero.mp hc.level)]
  rfl
 cases h with
 | tags => exact .refl c
 | function _ _ entered => exact entered.adds hc.unique
 | typedef declared => exact adds_declare declared
 | object declared =>
  rw [hinner]
  exact adds_declare declared
 | objectAgain level => exact absurd level (Nat.pos_iff_ne_zero.mp hc.level)

def Check.Flat (x:Check α) : Prop := Check.Follows (fun c d => c.InBody → c.Adds d) x

namespace Check.Flat

variable {x:Check α} {k:α → Check β}

lemma bind (hx:Flat x) (hk:∀ a, Flat (k a)) : Flat (x >>= k) := by
 refine Follows.bind (fun hcd hde hc => ?_) hx hk
 obtain ⟨xs,hxs⟩:=hcd hc
 exact Checker.Adds.trans ⟨xs,hxs⟩ (hde (hxs.inBody hc))

lemma reporting {x:Check Unit} (hx:Flat x) : Flat (reporting x) := by
 refine Follows.reporting (fun hcd f hc => ?_) hx
 obtain ⟨xs,hxs⟩:=hcd hc
 exact ⟨xs,hxs.report f⟩

lemma of_meets {ms:List Mark} (hx:undisturbing.Meets ms x) : Flat x := by
 intro c _
 have hc:=hx c
 unfold Check.after
 generalize x c = r at hc
 cases hc with
 | ok state => exact state.adds
 | error state => exact state.adds

lemma of_looks (hx:undisturbing.Looks [] x) : Flat x := of_meets hx.meets

lemma pure (a:α) : Flat (pure a) := of_looks (.pure a)

lemma fail {cause:Cause} (span:Span) : Flat (fail cause span:Check α) :=
 fun c _ => (Checker.Undisturbed.refl c).adds

lemma get {k:Checker → Check β} (h:∀ c, Flat (k c)) : Flat (MonadState.get >>= k) :=
 fun c => h c c

lemma modify {f:Checker → Checker} (h:∀ c : Checker, c.Adds (f c)) : Flat (modify f) :=
 fun c _ => h c

lemma ite {p:Prop} [Decidable p] {x y:Check α} (yes:Flat x) (no:Flat y) :
  Flat (if p then x else y) := by
 split
 · exact yes
 · exact no

lemma declare (x:Symbol) : Flat (declare x) := by
 intro c _
 unfold Check.after Check.declare Check.updateSymbols
 cases hs : c.symbols.declare x with
 | ok s =>
  simp only [hs]
  exact Checker.adds_declare hs
 | error f =>
  simp only [hs]
  exact .refl c

lemma checkDeclaration (dcl:Declaration) : Flat (checkDeclaration dcl) := by
 intro c hc
 have hends:=ends_declares dcl c
 unfold Check.after
 generalize CCheck.checkDeclaration dcl c = r at hends
 cases hends with
 | error undisturbed => exact undisturbed.adds
 | ok answer =>
  obtain ⟨c₁,hc₁,hadmits⟩:=answer
  obtain ⟨xs,hxs⟩:=hc₁.adds
  exact Checker.Adds.trans ⟨xs,hxs⟩ (hadmits.adds (hxs.inBody hc))

lemma checkDeclarations (ds:List Declaration) : Flat (checkDeclarations ds) := by
 induction ds with
 | nil => exact pure _
 | cons d ds ih => exact (checkDeclaration d).reporting.bind fun _ => ih

lemma forInit (init:Option ForInit) : Flat (forInit init) := by
 cases init with
 | none => exact pure _
 | some init =>
  cases init with
  | expr e => exact (of_meets (undisturbing.checkExpr e)).bind fun _ => pure _
  | decls ds =>
   unfold Check.forInit
   induction ds with
   | nil => exact pure _
   | cons d ds ih => exact (checkDeclaration d).bind fun _ => ih

lemma declareParams (ps:List Param) (ts:List CType) : Flat (declareParams ps ts) := by
 induction ps generalizing ts with
 | nil => exact pure _
 | cons p ps ih =>
  cases ts with
  | nil => exact pure _
  | cons t ts =>
   obtain ⟨name,type,span⟩:=p
   cases name with
   | none => exact ih ts
   | some name =>
    exact (declare _).bind fun _ => ih ts

lemma updateSwitch (f:SwitchFrame → SwitchFrame) : Flat (updateSwitch f) :=
 modify fun c => ⟨[],(Checker.Collects.refl c).flow c.flow _⟩

lemma caseLabel (e:Expr) (span:Span) : Flat (caseLabel e span) := by
 refine get fun c => ?_
 split
 · exact fail _
 · rename_i frame _
   refine (of_meets (undisturbing.rvalue e)).bind fun t => ite (fail _) ?_
   refine (of_meets (undisturbing.evalConst e)).bind fun v => ?_
   have hadd:Flat (if frame.values.contains v then Check.fail (.duplicateCase v) span
     else Check.updateSwitch fun f => { f with values := v :: f.values }) :=
    ite (fail _) (updateSwitch _)
   refine ite ?_ hadd
   refine (of_looks (.typeName t)).bind fun _ => (of_looks (.typeName frame.type)).bind fun _ => ?_
   refine bind (modify fun c => ⟨[],?_⟩) fun _ => hadd
   exact (Checker.Collects.refl c).warnCase ⟨_,_,rfl⟩ _

lemma defaultLabel (span:Span) : Flat (defaultLabel span) := by
 refine get fun c => ?_
 split
 · exact fail _
 · exact ite (fail _) (updateSwitch _)

lemma updateFunction {g:FunctionContext → FunctionContext}
  (hg:∀ f, (g f).name = f.name ∧ (g f).locals = f.locals ∧ (g f).labels = f.labels) :
  Flat (updateFunction g) := by
 refine modify fun c => ⟨[],.note [] (fun f => ?_) (List.forall_mem_nil _)⟩
 rw [List.append_nil]
 exact hg f

lemma returnStatement (e:Option Expr) (span:Span) : Flat (returnStatement e span) := by
 refine get fun c => ?_
 split
 · exact pure _
 · exact (of_meets (undisturbing.returnedType _ e span)).bind fun t =>
    updateFunction fun _ => ⟨rfl,rfl,rfl⟩

lemma gotoStatement (label:Ident) : Flat (gotoStatement label) :=
 (of_looks (.of (.namedLabel label))).bind fun _ => updateFunction fun _ => ⟨rfl,rfl,rfl⟩

end Check.Flat

lemma Check.Flat.forClauses (init:Option ForInit) (condition step:Option Expr) :
  Flat (forClauses init condition step) := by
 have value (e:Expr) : Flat (checkExpr e):=of_meets (undisturbing.checkExpr e)
 have test (e:Expr) : Flat (test e):=of_meets (undisturbing.test e)
 refine (forInit init).bind fun _ => ?_
 cases condition with
 | none =>
  cases step with
  | none => exact .pure _
  | some e => exact (value e).bind fun _ => .pure _
 | some t =>
  cases step with
  | none => exact (test t).bind fun _ => .pure _
  | some e => exact (test t).bind fun _ => (value e).bind fun _ => .pure _

/-! ### What a step declares -/

abbrev Items := Checker → List ScopeItem

def Check.added (x:Check α) : Items := fun c =>
 ((x.after c).symbols.current.symbols.drop c.symbols.current.symbols.length).map .symbol

def Checker.labels (c:Checker) : List Symbol := (c.function.map (·.labels)).getD []

def Check.newLabels (x:Check α) : Items := fun c =>
 ((x.after c).labels.drop c.labels.length).map .label

namespace Items

def andThen (items:Items) (x:Check α) (rest:α → Items) : Items := fun c =>
 items c ++
  match x c with
  | .ok a d => rest a d
  | .error _ _ => []

def inScope (items:Items) : Items := fun c => [.block (items c.enterScope)]

def withFlow (change:Flow → Flow) (items:Items) : Items := fun c =>
 items { c with flow := change c.flow }

def inSwitch (frame:SwitchFrame) (items:Items) : Items := fun c =>
 items { c with switches := frame :: c.switches }

def loopBody (items:Items) : Items := items.withFlow ({ · with inLoop := true })

def switchStatement (e:Expr) (items:Items) : Items :=
 (rvalue e).added.andThen (rvalue e) fun t =>
  if t.isInteger then
   inSwitch ⟨t.promote,false,[]⟩ (items.withFlow ({ · with inSwitch := true }))
  else fun _ => []

end Items

mutual

/-- What is declared in a statement up to its first fault. -/
def Stmt.items : Stmt → Items
 | .compound ss _ => Items.inScope (Stmt.itemsAll ss)
 | .decls ds _ => (checkDeclarations ds).added
 | .expr e _ => Check.added do let _ ← checkExpr e
 | .ifElse c yes none _ => (test c).added.andThen (test c) fun _ => yes.items
 | .ifElse c yes (some no) _ =>
  (test c).added.andThen (test c) fun _ => yes.items.andThen (checkStmt yes) fun _ => no.items
 | .whileLoop c body _ => (test c).added.andThen (test c) fun _ => body.items.loopBody
 | .doLoop body c _ =>
  body.items.loopBody.andThen (loopBody (checkStmt body)) fun _ => (test c).added
 | .forLoop init c step body _ =>
  Items.inScope <| (forClauses init c step).added.andThen (forClauses init c step) fun _ =>
   body.items.loopBody
 | .switch e body _ => body.items.switchStatement e
 | .caseLabel e body span =>
  (Check.caseLabel e span).added.andThen (Check.caseLabel e span) fun _ => body.items
 | .defaultLabel body span =>
  (Check.defaultLabel span).added.andThen (Check.defaultLabel span) fun _ => body.items
 | .breakJump span => (breakAllowed span).added
 | .continueJump span => (continueAllowed span).added
 | .returnJump e span => (returnStatement e span).added
 | .gotoJump label _ => (gotoStatement label).added
 | .labeled label body _ =>
  (defineLabel label).newLabels.andThen (defineLabel label) fun _ => body.items
 | .empty _ => fun _ => []
termination_by structural s => s

def Stmt.itemsAll : List Stmt → Items
 | [] => fun _ => []
 | s :: ss => s.items.andThen (reporting (checkStmt s)) fun _ => Stmt.itemsAll ss

end

/-! ### Records of declarations -/

lemma Checker.Collects.reporting {items:List ScopeItem} {x:Check Unit}
  (h:c.Collects items locals (x.after c)) :
  c.Collects items locals ((reporting x).after c) := by
 unfold Check.after Check.reporting at *
 cases hx : x c with
 | ok a d =>
  rw [hx] at h
  exact h
 | error f d =>
  rw [hx] at h
  exact h.report f

def Check.Records (x:Check α) (items:Items) : Prop :=
 ∀ c : Checker, c.InBody → ∃ locals, c.Collects (items c) locals (x.after c)

namespace Check.Records

variable {x:Check α} {k:α → Check β} {items:Items} {rest:α → Items}

lemma of_flat (h:Flat x) : Records x x.added := by
 intro c hc
 obtain ⟨own,hown⟩:=h c hc
 exact ⟨[],hown.reread⟩

lemma pure (a:α) : Records (pure a) fun _ => [] := fun c _ => ⟨[],.refl c⟩

lemma bind (hx:Records x items) (hk:∀ a, Records (k a) (rest a)) :
  Records (x >>= k) (items.andThen x rest) := by
 intro c hc
 obtain ⟨locals,hcollects⟩:=hx c hc
 unfold Check.after Items.andThen at *
 simp only [Bind.bind,EStateM.bind]
 cases h : x c with
 | ok a d =>
  rw [h] at hcollects
  obtain ⟨locals',hcollects'⟩:=hk a d (hcollects.inBody hc)
  exact ⟨_,hcollects.trans hcollects'⟩
 | error f d =>
  rw [h] at hcollects
  rw [List.append_nil]
  exact ⟨locals,hcollects⟩

lemma reporting {x:Check Unit} (hx:Records x items) : Records (reporting x) items := by
 intro c hc
 obtain ⟨locals,hcollects⟩:=hx c hc
 exact ⟨locals,hcollects.reporting⟩

lemma block (hx:Records x items) (hc:c.enterScope.InBody) :
  ∃ locals, c.Collects (items.inScope c) locals ((inScope x).after c) := by
 obtain ⟨locals,hcollects⟩:=hx c.enterScope hc
 refine ⟨locals ++ (x.after c.enterScope).symbols.current.symbols,?_⟩
 rw [inScope_eq,after_between]
 exact hcollects.block

lemma inScope (hx:Records x items) : Records (inScope x) items.inScope := fun _ hc =>
 hx.block ⟨hc.function,Nat.succ_pos _,hc.unique.enter⟩

lemma withFlow (change:Flow → Flow) (hx:Records x items) :
  Records (withFlow change x) (items.withFlow change) := by
 intro c hc
 obtain ⟨locals,hcollects⟩:=
  hx { c with flow := change c.flow } ⟨hc.function,hc.level,hc.unique⟩
 refine ⟨locals,?_⟩
 rw [withFlow_eq,after_between]
 exact hcollects.of_flow.flow _ _

lemma inSwitch (frame:SwitchFrame) (hx:Records x items) :
  Records (inSwitch frame x) (items.inSwitch frame) := by
 intro c hc
 obtain ⟨locals,hcollects⟩:=
  hx { c with switches := frame :: c.switches } ⟨hc.function,hc.level,hc.unique⟩
 refine ⟨locals,?_⟩
 rw [inSwitch_eq,after_between]
 exact hcollects.of_flow.flow _ _

lemma loopBody (hx:Records x items) : Records (loopBody x) items.loopBody := hx.withFlow _

lemma switchStatement (e:Expr) {x:Check Unit} (hx:Records x items) :
  Records (switchStatement e x) (items.switchStatement e) := by
 refine bind (of_flat (.of_meets (undisturbing.rvalue e))) fun t => ?_
 by_cases ht : t.isInteger = true
 · rw [if_pos ht,if_pos ht]
   exact (hx.withFlow _).inSwitch _
 · rw [if_neg ht,if_neg ht]
   intro c _
   exact ⟨[],.refl c⟩

lemma after_defineLabel (label:Ident) (c:Checker) :
  (defineLabel label).after c = c ∨
   (defineLabel label).after c = { c with
    function := c.function.map fun f =>
     { f with labels := f.labels ++ [.fresh label .label .void none true] } } := by
 by_cases hname : label.name.isEmpty = true
 · have hfails:namedLabel label c = .error ⟨.emptyLabel,label.span⟩ c := by
    rw [namedLabel,if_pos hname]
    rfl
   refine .inl ?_
   simp only [Check.after,Check.defineLabel,Bind.bind,EStateM.bind,hfails]
 · have hnamed:namedLabel label c = .ok () c := by
    rw [namedLabel,if_neg hname]
    rfl
   have hget:(MonadState.get : Check Checker) c = .ok c c:=rfl
   rw [Check.after,Check.defineLabel,bind_ok hnamed,bind_ok hget]
   cases hf : c.function with
   | none => exact .inl rfl
   | some f =>
    dsimp only
    by_cases hlabel : (f.labels.any (·.name == label.name)) = true
    · rw [if_pos hlabel]
      exact .inl rfl
    · rw [if_neg hlabel]
      refine .inr ?_
      change { c with function := c.function.map _ } = _
      rw [hf]

lemma defineLabel (label:Ident) :
  Records (defineLabel label) (defineLabel label).newLabels := by
 intro c hc
 obtain ⟨f,hf⟩:=hc.function
 unfold Check.newLabels
 obtain hsame | hnoted:=after_defineLabel label c
 · rw [hsame,List.drop_length]
   exact ⟨[],.refl c⟩
 · have hlabels:((Check.defineLabel label).after c).labels =
     c.labels ++ [.fresh label .label .void none true] := by
    rw [hnoted,Checker.labels,Checker.labels,hf]
    rfl
   rw [hlabels,List.drop_left,hnoted]
   exact ⟨[],.note [_] (fun _ => ⟨rfl,rfl,rfl⟩) (List.forall_mem_singleton.mpr rfl)⟩

lemma test (e:Expr) : Records (test e) (test e).added :=
 of_flat (.of_meets (undisturbing.test e))

mutual

lemma checkStmt : ∀ s : Stmt, Records (checkStmt s) s.items
 | .compound ss _ => (checkStmts ss).inScope
 | .decls ds _ => of_flat (.checkDeclarations ds)
 | .expr e _ => of_flat ((Flat.of_meets (undisturbing.checkExpr e)).bind fun _ => .pure _)
 | .ifElse c yes none _ => (test c).bind fun _ => checkStmt yes
 | .ifElse c yes (some no) _ =>
  (test c).bind fun _ => (checkStmt yes).bind fun _ => checkStmt no
 | .whileLoop c body _ => (test c).bind fun _ => (checkStmt body).loopBody
 | .doLoop body c _ => (checkStmt body).loopBody.bind fun _ => test c
 | .forLoop init c step body _ => by
  rw [CCheck.checkStmt,forStatement_eq]
  exact inScope ((of_flat (.forClauses init c step)).bind fun _ => (checkStmt body).loopBody)
 | .switch e body _ => (checkStmt body).switchStatement e
 | .caseLabel e body span => (of_flat (.caseLabel e span)).bind fun _ => checkStmt body
 | .defaultLabel body span => (of_flat (.defaultLabel span)).bind fun _ => checkStmt body
 | .breakJump span => of_flat (.of_looks (refuses_undisturbing.breakAllowed span))
 | .continueJump span => of_flat (.of_looks (refuses_undisturbing.continueAllowed span))
 | .returnJump e span => of_flat (.returnStatement e span)
 | .gotoJump label _ => of_flat (.gotoStatement label)
 | .labeled label body _ => (defineLabel label).bind fun _ => checkStmt body
 | .empty _ => .pure _
termination_by structural s => s

lemma checkStmts : ∀ ss : List Stmt, Records (checkStmts ss) (Stmt.itemsAll ss)
 | [] => .pure _
 | s :: ss => (checkStmt s).reporting.bind fun _ => checkStmts ss

end

end Check.Records

lemma foldl_report (gs:List Ident) (c:Checker) :
  ∃ errors last, gs.foldl (fun c g => c.report ⟨.undefinedLabel g.name,g.span⟩) c =
   { c with
     errorCount := errors
     lastMessage := last
     diagnostics := c.diagnostics ++
      gs.map fun g => .ofFault ⟨.undefinedLabel g.name,g.span⟩ } := by
 induction gs generalizing c with
 | nil => exact ⟨c.errorCount,c.lastMessage,by rw [List.map_nil,List.append_nil]; rfl⟩
 | cons g gs ih =>
  obtain ⟨errors,last,heq⟩:=ih (c.report ⟨.undefinedLabel g.name,g.span⟩)
  refine ⟨errors,last,?_⟩
  rw [List.foldl_cons,heq,List.map_cons]
  simp only [Checker.report,List.append_assoc,List.singleton_append]

lemma leaveFunction_eq {f:FunctionContext} (hf:c.function = some f) (t:CType) :
  ∃ errors last, c.leaveFunction t =
   { c with
     function := none
     functions := c.functions ++ [f.info t]
     errorCount := errors
     lastMessage := last
     diagnostics := c.diagnostics ++
      f.undefinedGotos.map fun g => .ofFault ⟨.undefinedLabel g.name,g.span⟩ } := by
 obtain ⟨errors,last,heq⟩:=foldl_report f.undefinedGotos { c with function := none }
 refine ⟨errors,last,?_⟩
 unfold Checker.leaveFunction
 rw [hf]
 dsimp only
 rw [heq]

/-- The symbols of a function are those of its scopes, in the order in which the scopes end, and
then its labels in the order of the text, which are marked where a jump goes to them. -/
def FunctionInfo.Lists (info:FunctionInfo) (depth:Nat) (items:List ScopeItem) : Prop :=
 ∃ locals labels, info.locals = locals ++ labels ∧
  List.Forall₂ Symbol.Renewed (ScopeItem.ended depth items) locals ∧
  (∃ jumped : String → Bool, labels.Perm
   ((ScopeItem.labels items).map fun x => { x with isUsed := jumped x.name })) ∧
  (∀ x ∈ labels, x.kind = .label) ∧ labels.Pairwise fun x y => x.span.start ≤ y.span.start

lemma FunctionContext.pairwise_usedLabels (f:FunctionContext) :
  f.usedLabels.Pairwise fun x y => x.span.start ≤ y.span.start := by
 refine List.Pairwise.imp (fun hxy => of_decide_eq_true hxy) (List.pairwise_mergeSort ?_ ?_ _)
 · exact fun x y z hxy hyz =>
    decide_eq_true (Nat.le_trans (of_decide_eq_true hxy) (of_decide_eq_true hyz))
 · intro x y
   rw [Bool.or_eq_true,decide_eq_true_iff,decide_eq_true_iff]
   exact Nat.le_total _ _

lemma unusedWarnings_labels (warnUnused:Bool) {xs:List Symbol}
  (h:∀ x ∈ xs, x.kind = .label) : Checker.unusedWarnings warnUnused xs = [] := by
 have hfilter:xs.filter Checker.isUnusedVariable = [] := by
  refine List.filter_eq_nil_iff.mpr fun x hx => ?_
  rw [Checker.isUnusedVariable,h x hx]
  exact Bool.false_ne_true
 rw [Checker.unusedWarnings,hfilter]
 split <;> rfl

/-! ### Definitions -/

structure Checker.Defines (items:List ScopeItem) (info:FunctionInfo) (c d:Checker) :
  Prop where
 symbols : c.symbols.Gains Symbol.Renewed [] d.symbols
 unique : c.symbols.Unique → d.symbols.Unique
 functions : d.functions = c.functions ++ [info]
 lists : info.Lists c.symbols.level items
 distinct : c.symbols.Unique → ScopeItem.Distinct c.symbols.level items
 diagnostics : ∃ new, d.diagnostics = c.diagnostics ++ new ∧
  new.filter (·.tellsUnused) = unusedWarnings c.warnUnused info.locals
 initialized : d.initialized = c.initialized
 warnUnused : d.warnUnused = c.warnUnused

lemma Checker.Collects.leaveFunction {items:List ScopeItem}
  {name:String} {ret:CType}
  (h:(c.enterFunction name ret).Collects [.block items] locals d) (t:CType) :
  ∃ info, info.name = name ∧ c.Defines [.block items] info (d.leaveFunction t) := by
 obtain ⟨g,hg,hname,hlocals,hlabels⟩:=h.function _ rfl
 obtain ⟨errors,last,heq⟩:=leaveFunction_eq hg t
 obtain ⟨new,hnew,hunused⟩:=h.diagnostics
 have hused:∀ x ∈ g.usedLabels, x.kind = .label := by
  intro x hx
  obtain ⟨y,hy,rfl⟩:=List.mem_map.mp (List.mem_mergeSort.mp hx)
  rw [hlabels] at hy
  exact h.labels y hy
 refine ⟨g.info t,hname,?_⟩
 rw [heq]
 refine ⟨h.symbols,h.unique,congrArg (· ++ _) h.functions,?_,h.distinct,?_,h.initialized,
  h.warnUnused⟩
 · refine ⟨locals,g.usedLabels,congrArg (· ++ _) hlocals,h.ended,?_,hused,
    g.pairwise_usedLabels⟩
   refine ⟨fun label => g.gotos.any (·.name == label),?_⟩
   have hperm:g.usedLabels.Perm _:=List.mergeSort_perm _ _
   rw [hlabels] at hperm
   exact hperm
 · refine ⟨new ++ _,(congrArg (· ++ _) hnew).trans (List.append_assoc ..),?_⟩
   have hreports:(g.undefinedGotos.map fun g =>
     Diagnostic.ofFault ⟨.undefinedLabel g.name,g.span⟩).filter (·.tellsUnused) = [] :=
    List.filter_eq_nil_iff.mpr (List.forall_mem_map.mpr fun _ _ => Bool.false_ne_true)
   have hinfo:(g.info t).locals = locals ++ g.usedLabels:=congrArg (· ++ _) hlocals
   rw [List.filter_append,hunused,hreports,hinfo,unusedWarnings_append,
    unusedWarnings_labels _ hused]
   rfl

def bodyItems (head:FunctionDecl) (body:Block) (f:Signature) : Items :=
 Items.inScope <| (declareParams head.type.params f.params).added.andThen
  (declareParams head.type.params f.params) fun _ => Items.inScope (Stmt.itemsAll body.stmts)

lemma defines_checkBody (head:FunctionDecl) (body:Block) (t:CType) (f:Signature)
  (hc:c.symbols.Unique) :
  ∃ info d, checkBody head body t f c = .ok () d ∧ info.name = head.name.name ∧
   c.Defines (bodyItems head body f (c.enterFunction head.name.name f.ret)) info d := by
 have hrecords:=(Records.of_flat (.declareParams head.type.params f.params)).bind
  fun _ => (Records.checkStmts body.stmts).inScope
 obtain ⟨locals,hcollects⟩:=hrecords.block
  (c := c.enterFunction head.name.name f.ret) ⟨⟨_,rfl⟩,Nat.succ_pos _,hc.enter⟩
 obtain ⟨info,hname,hdefines⟩:=hcollects.reporting.leaveFunction t
 exact ⟨info,_,checkBody_eq head body t f c,hname,hdefines⟩

def definitionItems (head:FunctionDecl) (body:Block) : Items := fun c =>
 match checkHeading head c with
 | .ok h d => bodyItems head body h.2 (d.enterFunction head.name.name h.2.ret)
 | .error _ _ => []

/-! ### Labels -/

/-- What is declared has some of the labels, in their order. -/
def Items.LabelsIn (items:Items) (labels:List Ident) : Prop :=
 ∀ c, ((ScopeItem.labels (items c)).map (·.span.start)).Sublist (labels.map (·.span.start))

namespace Items.LabelsIn

variable {x:Check α} {items:Items} {rest:α → Items} {labels labels':List Ident}

lemma added (x:Check α) (labels:List Ident) : LabelsIn x.added labels := by
 intro c
 rw [Check.added,ScopeItem.labels_symbols]
 exact List.nil_sublist _

lemma andThen (h:items.LabelsIn labels) (hrest:∀ a, (rest a).LabelsIn labels') :
  (items.andThen x rest).LabelsIn (labels ++ labels') := by
 intro c
 rw [Items.andThen,ScopeItem.labels_append,List.map_append,List.map_append]
 refine (h c).append ?_
 cases x c with
 | ok a d => exact hrest a d
 | error f d => exact List.nil_sublist _

lemma inScope (h:items.LabelsIn labels) : items.inScope.LabelsIn labels := by
 intro c
 rw [Items.inScope,ScopeItem.labels,ScopeItem.labelsIn,ScopeItem.labels,List.append_nil]
 exact h c.enterScope

lemma defineLabel (label:Ident) : (Check.defineLabel label).newLabels.LabelsIn [label] := by
 intro c
 rw [Check.newLabels,ScopeItem.labels_labels]
 obtain hsame | hnoted:=Check.Records.after_defineLabel label c
 · rw [hsame,List.drop_length]
   exact List.nil_sublist _
 · rw [hnoted,Checker.labels,Checker.labels]
   cases c.function with
   | none => exact List.nil_sublist _
   | some f =>
    change ((List.drop f.labels.length (f.labels ++ [_])).map _).Sublist _
    rw [List.drop_left]
    exact .refl _

end Items.LabelsIn

mutual

lemma labelsIn_items : ∀ s : Stmt, s.items.LabelsIn s.labels
 | .compound ss _ => (labelsIn_itemsAll ss).inScope
 | .decls ds _ => .added _ _
 | .expr e _ => .added _ _
 | .ifElse c yes none _ => (Items.LabelsIn.added _ []).andThen fun _ => labelsIn_items yes
 | .ifElse c yes (some no) _ => (Items.LabelsIn.added _ []).andThen fun _ =>
  (labelsIn_items yes).andThen fun _ => labelsIn_items no
 | .whileLoop c body _ => (Items.LabelsIn.added _ []).andThen fun _ c => labelsIn_items body _
 | .doLoop body c _ => by
  have hall:=Items.LabelsIn.andThen (x := loopBody (checkStmt body))
   (fun c => labelsIn_items body _ : body.items.loopBody.LabelsIn body.labels)
   fun _ => .added (test c) []
  rwa [List.append_nil] at hall
 | .forLoop init c step body _ => Items.LabelsIn.inScope <|
  (Items.LabelsIn.added _ []).andThen fun _ c => labelsIn_items body _
 | .switch e body _ => (Items.LabelsIn.added _ []).andThen fun t c => by
  split
  · exact labelsIn_items body _
  · exact List.nil_sublist _
 | .caseLabel e body span => (Items.LabelsIn.added _ []).andThen fun _ => labelsIn_items body
 | .defaultLabel body span => (Items.LabelsIn.added _ []).andThen fun _ => labelsIn_items body
 | .breakJump span => .added _ _
 | .continueJump span => .added _ _
 | .returnJump e span => .added _ _
 | .gotoJump label _ => .added _ _
 | .labeled label body _ => (Items.LabelsIn.defineLabel label).andThen fun _ => labelsIn_items body
 | .empty _ => fun _ => List.nil_sublist _
termination_by structural s => s

lemma labelsIn_itemsAll : ∀ ss : List Stmt, (Stmt.itemsAll ss).LabelsIn (Stmt.labelsAll ss)
 | [] => fun _ => List.nil_sublist _
 | s :: ss => (labelsIn_items s).andThen fun _ => labelsIn_itemsAll ss

end

lemma labelsIn_definitionItems (head:FunctionDecl) (body:Block) :
  (definitionItems head body).LabelsIn (Stmt.labelsAll body.stmts) := by
 intro c
 unfold definitionItems
 cases checkHeading head c with
 | ok h d => exact (Items.LabelsIn.inScope ((Items.LabelsIn.added _ []).andThen fun _ =>
   (labelsIn_itemsAll body.stmts).inScope)) _
 | error f d => exact List.nil_sublist _

lemma nodup_definitionItems {source:String} {u:ProgramUnit} (hu:parse source = .ok u)
  {head:FunctionDecl} {body:Block} (hbody:.definition head body ∈ u.externals) (c:Checker) :
  ((ScopeItem.labels (definitionItems head body c)).map (·.span.start)).Nodup := by
 have hnodup:=nodup_labels_of_parse hu
 refine hnodup.sublist ((labelsIn_definitionItems head body c).trans (List.Sublist.map _ ?_))
 exact List.sublist_flatten_of_mem (List.mem_map_of_mem hbody)

/-- Labels that start in places of their own are listed in one order, however they have been kept. -/
lemma FunctionContext.usedLabels_perm {f g:FunctionContext}
  (hf:(f.labels.map (·.span.start)).Nodup) (hlabels:g.labels.Perm f.labels)
  (hgotos:g.gotos = f.gotos) : g.usedLabels = f.usedLabels := by
 have hperm:g.usedLabels.Perm f.usedLabels := by
  unfold usedLabels
  rw [hgotos]
  exact (List.mergeSort_perm _ _).trans ((hlabels.map _).trans (List.mergeSort_perm _ _).symm)
 refine hperm.eq_of_pairwise (fun x y hx hy hxy hyx => ?_) g.pairwise_usedLabels
  f.pairwise_usedLabels
 obtain ⟨x',hx',rfl⟩:=List.mem_map.mp (List.mem_mergeSort.mp (hperm.mem_iff.mp hx))
 obtain ⟨y',hy',rfl⟩:=List.mem_map.mp (List.mem_mergeSort.mp hy)
 rw [List.inj_on_of_nodup_map hf hx' hy' (Nat.le_antisymm hxy hyx)]

lemma own_definitionItems (depth:Nat) (head:FunctionDecl) (body:Block) (c:Checker) :
  ScopeItem.own depth (definitionItems head body c) = [] := by
 unfold definitionItems
 cases checkHeading head c <;> rfl

lemma length_of_checkHeading
  (hh:checkHeading head c = .ok h d) :
  head.type.params = [] ∨ h.2.params.length = head.type.params.length := by
 obtain ⟨t,c₁,ht,hrest⟩:=bind_eq_ok hh
 obtain ⟨f,c₂,hf,hrest⟩:=bind_eq_ok hrest
 obtain ⟨_,_,_,hrest⟩:=bind_eq_ok hrest
 obtain ⟨_,_,_,hrest⟩:=bind_eq_ok hrest
 obtain ⟨_,_,_,hpure⟩:=bind_eq_ok hrest
 cases hpure
 refine (resolveParams_of_head ht (signature_of_definedSignature hf)).imp_right fun hparams => ?_
 obtain ⟨_,_,hparams⟩:=hparams
 exact length_resolveParams hparams

def Param.names (ps:List Param) : List String := ps.filterMap fun p => p.name.map (·.name)

lemma names_declare {x:Symbol} (h:declare x c = .ok () d) :
  d.symbols.current.names = c.symbols.current.names ++ [x.name] := by
 unfold Check.declare Check.updateSymbols at h
 cases hs : c.symbols.declare x with
 | ok s =>
  simp only [hs] at h
  cases h
  have hgains:=SymbolTable.Gains.declare Symbol.becoming_renewed hs
  exact (hgains.map_current fun _ _ hxy => hxy.name).trans List.map_append
 | error f =>
  simp only [hs] at h
  cases h

lemma names_declareParams {ps:List Param} {ts:List CType} (hlength:ts.length = ps.length)
  (h:declareParams ps ts c = .ok () d) :
  d.symbols.current.names = c.symbols.current.names ++ Param.names ps := by
 induction ps generalizing ts c with
 | nil =>
  cases h
  exact (List.append_nil _).symm
 | cons p ps ih =>
  cases ts with
  | nil => cases hlength
  | cons t ts =>
   have hrest:ts.length = ps.length:=Nat.succ.inj hlength
   obtain ⟨name,type,span⟩:=p
   cases name with
   | none => exact ih hrest h
   | some name =>
    obtain ⟨_,c₁,hdeclare,h⟩:=bind_eq_ok h
    rw [ih hrest h,names_declare hdeclare,List.append_assoc]
    rfl

lemma names_headParams {e₁:Checker}
  (hh:checkHeading head c = .ok h e₁)
  (hparams:declareParams head.type.params h.2.params d = .ok () e) :
  e.symbols.current.names = d.symbols.current.names ++ Param.names head.type.params := by
 obtain hnone | hlength:=length_of_checkHeading hh
 · rw [hnone] at hparams ⊢
   cases hparams
   exact (List.append_nil _).symm
 · exact names_declareParams hlength hparams

/-! ### External declarations -/

inductive Checker.Processes (c:Checker) : External → Checker → Prop
 | declaration {dcl:Declaration} {d:Checker} (declares:c.Declares dcl d) :
   Processes c (.declaration dcl) d
 | definition {head:FunctionDecl} {body:Block} {c₁ d:Checker} {s:SymbolTable}
   {info:FunctionInfo} (undisturbed:c.Undisturbed c₁)
   (entered:c₁.symbols.EntersFunction head.name true s) (name:info.name = head.name.name)
   (defines:{ c₁ with symbols := s }.Defines (definitionItems head body c) info d) :
   Processes c (.definition head body) d

lemma SymbolTable.EntersFunction.unique
  (h:t.EntersFunction name hasBody s) (ht:t.Unique) : s.Unique := by
 cases h with
 | fresh declared => exact ht.declare declared
 | again => exact ht.updateLocal fun _ => rfl

lemma SymbolTable.EntersFunction.level_eq
  (h:t.EntersFunction name hasBody s) : s.level = t.level := by
 cases h with
 | fresh declared => exact (Gains.declare Symbol.becoming_keptAs declared).level_eq
 | again => rfl

lemma ends_processes (x:External) (hc:c.symbols.Unique) :
  c.Ends (fun _ d => c.Processes x d) (checkExternal x c) := by
 cases x with
 | declaration dcl => exact (ends_declares dcl c).mono fun _ _ hd => .declaration hd
 | definition head body =>
  rw [checkExternal,checkDefinition_eq]
  have hheads:=ends_heads head c
  refine .bind (fun hf => hheads.of_error hf) fun {h d} hh => ?_
  obtain ⟨c₁,s,hc₁,hentered,rfl⟩:=hheads.of_ok hh
  obtain ⟨info,d,hd,hname,hdefines⟩:=
   defines_checkBody (c := { c₁ with symbols := s }) head body h.1 h.2
    (hentered.unique (hc₁.unique hc))
  rw [hd]
  refine .ok (.definition hc₁ hentered hname ?_)
  rw [definitionItems,hh]
  exact hdefines

structure Checker.AtFileScope (warnUnused:Bool) (c:Checker) : Prop where
 level : c.symbols.level = 0
 unique : c.symbols.Unique
 warnUnused : c.warnUnused = warnUnused

namespace Checker.AtFileScope

variable {warnUnused:Bool}

lemma start (warnUnused:Bool) : AtFileScope warnUnused (.start warnUnused) :=
 ⟨rfl,.start,rfl⟩

lemma undisturbed (hc:c.AtFileScope warnUnused) (h:c.Undisturbed d) :
  d.AtFileScope warnUnused :=
 ⟨h.level_eq.trans hc.level,h.unique hc.unique,by rw [h.context]; exact hc.warnUnused⟩

lemma admits (hc:c.AtFileScope warnUnused) (h:c.Admits dcl d) :
  d.AtFileScope warnUnused := by
 have hdeclared:∀ {x s}, c.symbols.declare x = .ok s → s.level = 0 ∧ s.Unique:=fun hs =>
  ⟨(SymbolTable.Gains.declare Symbol.becoming_keptAs hs).level_eq.trans hc.level,
   hc.unique.declare hs⟩
 cases h with
 | tags => exact hc
 | function _ _ entered =>
  exact ⟨entered.level_eq.trans hc.level,entered.unique hc.unique,hc.warnUnused⟩
 | typedef declared => exact ⟨(hdeclared declared).1,(hdeclared declared).2,hc.warnUnused⟩
 | object declared => exact ⟨(hdeclared declared).1,(hdeclared declared).2,hc.warnUnused⟩
 | objectAgain level known kind completes once =>
  exact ⟨hc.level,hc.unique.updateLocal fun x => by rw [(completes x).eq],hc.warnUnused⟩

lemma processes {x:External} (hc:c.AtFileScope warnUnused) (h:c.Processes x d) :
  d.AtFileScope warnUnused := by
 cases h with
 | declaration declares =>
  obtain ⟨c₁,hc₁,hadmits⟩:=declares
  exact (hc.undisturbed hc₁).admits hadmits
 | definition undisturbed entered name defines =>
  have hc₁:=hc.undisturbed undisturbed
  exact ⟨defines.symbols.level_eq.trans (entered.level_eq.trans hc₁.level),
   defines.unique (entered.unique hc₁.unique),defines.warnUnused.trans hc₁.warnUnused⟩

lemma reporting (x:External) (hc:c.AtFileScope warnUnused) :
  ((reporting (checkExternal x)).after c).AtFileScope warnUnused := by
 have hends:=ends_processes x hc.unique
 unfold Check.after Check.reporting
 generalize checkExternal x c = r at hends
 cases hends with
 | ok processed => exact hc.processes processed
 | error undisturbed => exact { hc.undisturbed undisturbed with }

lemma reached (warnUnused:Bool) (us:List ProgramUnit) (es:List External) :
  ((checkExternals es).after (us.foldl Checker.analyze (.start warnUnused))).AtFileScope
   warnUnused := by
 rw [foldl_analyze]
 refine after_checkExternals_keeps (fun x _ hc => hc.reporting x) ?_ es
 exact after_checkExternals_keeps (fun x _ hc => hc.reporting x) (.start warnUnused) _

end Checker.AtFileScope

/-- Whenever an analysis accepts the definition of a function, whatever the faults in its body, it
records a function with all symbols that have been declared in its scopes, each one once and with
the depth of its scope, and with its labels. The warnings about unused variables are those for the
unused variables that are recorded, in their order. No scope has two symbols of one name: the
parameters have put their names into their scope, and so has every declaration that is accepted. In a
program that was parsed the labels start in places of their own, so that they are listed in one order
whatever order they have been kept in. -/
theorem locals_recorded (warnUnused:Bool) (us:List ProgramUnit) (es:List External)
  {head:FunctionDecl} {body:Block}
  (hc:c = (checkExternals es).after (us.foldl Checker.analyze (.start warnUnused)))
  (h:checkDefinition head body c = .ok () d) :
  (∃ info new, d.functions = c.functions ++ [info] ∧ info.name = head.name.name ∧
    info.Lists 0 (definitionItems head body c) ∧ d.diagnostics = c.diagnostics ++ new ∧
    new.filter (·.tellsUnused) = Checker.unusedWarnings warnUnused info.locals) ∧
   (ScopeItem.ended 0 (definitionItems head body c)).Perm
    (ScopeItem.declared 0 (definitionItems head body c)) ∧
   ScopeItem.Distinct 0 (definitionItems head body c) ∧
   (∀ t f c₁ e e', checkHeading head c = .ok (t,f) c₁ →
    declareParams head.type.params f.params e = .ok () e' →
    e'.symbols.current.names = e.symbols.current.names ++ Param.names head.type.params) ∧
   (∀ dcl e e' name isType, checkDeclaration dcl e = .ok () e' →
    dcl.declared? = some (name,isType) → (e'.symbols.lookupLocal? name).isSome = true) ∧
   ∀ source u, parse source = .ok u → .definition head body ∈ u.externals →
    ∀ f g : FunctionContext, f.labels = ScopeItem.labels (definitionItems head body c) →
     g.labels.Perm f.labels → g.gotos = f.gotos → g.usedLabels = f.usedLabels := by
 have hfile:=hc ▸ Checker.AtFileScope.reached warnUnused us es
 have hprocesses:=(ends_processes (.definition head body) hfile.unique).of_ok h
 refine ⟨?_,?_,?_,fun t f c₁ e e' => names_headParams,
  fun dcl e e' name isType hdcl hname => ?_,
  fun source u hu hbody f g hf => FunctionContext.usedLabels_perm ?_⟩
 · cases hprocesses with
   | @definition _ _ c₁ _ s info undisturbed entered name defines =>
    have hc₁:=hfile.undisturbed undisturbed
    obtain ⟨new,hnew,hunused⟩:=defines.diagnostics
    refine ⟨info,new,?_,name,?_,?_,?_⟩
    · rw [defines.functions]
      exact congrArg (· ++ _) (by rw [undisturbed.context])
    · have hlists:=defines.lists
      rwa [entered.level_eq.trans hc₁.level] at hlists
    · rw [hnew]
      exact congrArg (· ++ _) (by rw [undisturbed.context])
    · rw [hunused]
      exact congrArg (Checker.unusedWarnings · _) hc₁.warnUnused
 · have hperm:=ScopeItem.perm_declared 0 (definitionItems head body c)
   rwa [own_definitionItems,List.append_nil] at hperm
 · cases hprocesses with
   | definition undisturbed entered name defines =>
    have hc₁:=hfile.undisturbed undisturbed
    have hdistinct:=defines.distinct (entered.unique hc₁.unique)
    rwa [entered.level_eq.trans hc₁.level] at hdistinct
 · obtain ⟨_,_,hadmits⟩:=(ends_declares dcl e).of_ok hdcl
   exact hadmits.names hname
 · rw [hf]
   exact nodup_definitionItems hu hbody c

def Check.success? {α:Type} (x:Check α) (c:Checker) : Option Checker :=
 match x c with
 | .ok _ d => some d
 | .error _ _ => none

lemma Check.eq_ok_of_success? {x:Check Unit} (h:x.success? c = some d) : x c = .ok () d := by
 unfold success? at h
 cases hx : x c with
 | ok a d' =>
  rw [hx] at h
  cases h
  rfl
 | error f d' =>
  rw [hx] at h
  cases h

def ProgramUnit.firstDefinition? (u:ProgramUnit) : Option (FunctionDecl × Block) :=
 u.externals.findSome? fun
  | .definition head body => some (head,body)
  | .declaration _ => none

/-- A function with a fault in its body. Its scopes end from the inside out, and the label comes
last. -/
theorem locals_recorded_nested :
  ∃ u head body d info, parse
    "int f(int a) { { int y; y; double x; } int x, x; L: for (int i; i; ) { int k; } goto L; }"
    = .ok u ∧
   u.firstDefinition? = some (head,body) ∧
   checkDefinition head body (.start true) = .ok () d ∧ d.errorCount = 1 ∧
   d.functions = [info] ∧ info.Lists 0 (definitionItems head body (.start true)) ∧
   d.diagnostics.filter (·.tellsUnused) = Checker.unusedWarnings true info.locals ∧
   info.locals.map (fun x => (x.name,x.level,x.isUsed)) =
    [("y",3,true),("x",3,false),("k",4,false),("i",3,true),("x",2,false),
     ("a",1,false),("L",0,true)] := by
 have h:(parse
   "int f(int a) { { int y; y; double x; } int x, x; L: for (int i; i; ) { int k; } goto L; }"
   ).toOption.bind (fun u => u.firstDefinition?.bind fun p =>
    ((checkDefinition p.1 p.2).success? (.start true)).map fun d => (d.errorCount,
     d.functions.map fun info => info.locals.map fun x => (x.name,x.level,x.isUsed))) =
   some (1,[[("y",3,true),("x",3,false),("k",4,false),("i",3,true),("x",2,false),
    ("a",1,false),("L",0,true)]]) := by
  decide +kernel
 obtain ⟨u,hu,hfirst⟩:=exists_unit h
 obtain ⟨⟨head,body⟩,hdefinition,hrun⟩:=Option.bind_eq_some_iff.mp hfirst
 obtain ⟨d,hd,hvalues⟩:=Option.map_eq_some_iff.mp hrun
 have hok:=Check.eq_ok_of_success? hd
 obtain ⟨⟨info,new,hfunctions,-,hlists,hnew,hunused⟩,-⟩:=
  locals_recorded true [] [] rfl hok
 have hinfo:d.functions = [info]:=hfunctions
 have hdiagnostics:d.diagnostics = new:=hnew
 have hlocals:=congrArg Prod.snd hvalues
 rw [hinfo] at hlocals
 refine ⟨u,head,body,d,info,hu,hdefinition,hok,congrArg Prod.fst hvalues,hinfo,hlists,
  ?_,List.singleton_inj.mp hlocals⟩
 rw [hdiagnostics]
 exact hunused

end CCheck
