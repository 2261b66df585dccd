import CCheck.Proofs.Checking.Accounts
import CCheck.Proofs.Checking.ProgramLogic
import CCheck.Proofs.Types.Compatibility

/-! # Accounts of programs

An account that declarations, scopes and reports are in keeping with, as well as the steps of
checking expressions, is kept by whole programs: by every statement, and by the analysis of a
unit. -/

set_option autoImplicit false

namespace CCheck

open Check

variable {α β:Type}

variable {hasInit:Bool} {k:Unit → Check Unit} {ps:List Param} {span:Span} {ts:List CType} {u:CType}

def VarDecl.isDefinition (d:VarDecl) : Bool := d.init.isSome || d.storage ≠ some .external

/-- What another declaration changes of a variable: it tells the length of an array that has none,
and it may define the variable. -/
structure Symbol.Completes (t:CType) (isDefined:Bool) (x y:Symbol) : Prop where
 eq : y = { x with type := y.type,isDefined := x.isDefined || isDefined }
 type : y.type = x.type ∧ (x.type.isArray = true → x.type.kind.isStated = true) ∨
  y.type = t ∧ x.type.isArray = true ∧ x.type.kind.isStated = false

def Symbol.restated (t:CType) (hasBody:Bool) (x:Symbol) : Symbol :=
 { x with
   type := if t.signature?.any (·.prototyped) then t else x.type
   isDefined := x.isDefined || hasBody }

def Checker.initializedWith (c:Checker) (d:VarDecl) : List String :=
 if c.symbols.level == 0 && d.init.isSome then d.name.name :: c.initialized else c.initialized

lemma declare_eq_error {t:SymbolTable} {x:Symbol} {f:Fault} (h:t.declare x = .error f) :
  f.cause.isOrdinary = true ∧ (t.lookupLocal? x.name).isSome = true := by
 rw [SymbolTable.declare] at h
 split at h
 · rename_i hlookup
   cases h
   exact ⟨rfl,by rw [hlookup]; rfl⟩
 · cases h

/-! ### Outcomes of declarations

A declaration is refused and leaves the state, or it enters a symbol, or it changes the one that
the scope has. What holds of each of these outcomes holds of the declaration. -/

section

variable {E:EStateM.Result Fault Checker Unit → Prop} {c:Checker}

lemma outcome_get {k:Checker → Check Unit} (h:E (k c c)) :
  E ((MonadState.get >>= k) c) := h

lemma outcome_atFileScope {k:Bool → Check Unit} (h:E (k (c.symbols.level == 0) c)) :
  E ((atFileScope >>= k) c) := h

lemma outcome_markInitialized {name:String}
  (h:E (k ()
   { c with initialized := if hasInit then name :: c.initialized else c.initialized })) :
  E ((if hasInit then markInitialized name >>= k else k ()) c) := by
 cases hasInit with
 | true => exact h
 | false => exact h

variable (refused:∀ {f:Fault}, f.cause.isOrdinary = true → E (.error f c))
include refused

lemma outcome_declare {x:Symbol}
  (fresh:∀ {s}, c.symbols.declare x = .ok s → E (.ok () { c with symbols := s })) :
  E (declare x c) := by
 unfold Check.declare Check.updateSymbols
 cases hs : c.symbols.declare x with
 | ok s =>
  simp only [hs]
  exact fresh hs
 | error f =>
  simp only [hs]
  exact refused (declare_eq_error hs).1

lemma outcome_sameEntity {old:Symbol} {kind:SymbolKind} {t:CType} {name:Ident}
  (same:old.kind = kind → old.type.compatible t = true → E (k () c)) :
  E ((sameEntity old kind t name >>= k) c) := by
 unfold sameEntity
 by_cases hkind : old.kind = kind
 · rw [if_neg (not_not.mpr hkind)]
   cases hcompatible : old.type.compatible t with
   | true => exact same hkind hcompatible
   | false => exact refused rfl
 · rw [if_pos hkind]
   exact refused rfl

lemma outcome_declareFunction (name:Ident) (t:CType) (storage:Option StorageClass)
  (hasBody:Bool)
  (fresh:∀ {s}, c.symbols.declare (.fresh name .func t storage hasBody) = .ok s →
   E (.ok () { c with symbols := s }))
  (again:∀ {old}, c.symbols.lookupLocal? name.name = some old → old.kind = .func →
   old.type.compatible t = true → (old.isDefined && hasBody) = false →
   E (.ok () { c with symbols := c.symbols.updateLocal name.name (.restated t hasBody) })) :
  E (declareFunction name t storage hasBody c) := by
 refine outcome_get ?_
 cases hold : c.symbols.lookupLocal? name.name with
 | none => exact outcome_declare refused fresh
 | some old =>
  refine outcome_sameEntity refused fun hkind hcompatible => ?_
  by_cases hdefined : (old.isDefined && hasBody) = true
  · rw [if_pos hdefined]
    exact refused rfl
  · rw [if_neg hdefined]
    exact again hold hkind hcompatible ((Bool.not_eq_true _).mp hdefined)

lemma outcome_redeclareVariable {old:Symbol} {name:Ident} {t:CType}
  {isDefined:Bool}
  (again:∀ {g:Symbol → Symbol}, old.kind = .var → old.type.compatible t = true →
   (∀ x : Symbol, x.Completes t isDefined (g x)) →
   (hasInit = true → name.name ∉ c.initialized) → E (.ok ()
    { c with
      initialized := if hasInit then name.name :: c.initialized else c.initialized
      symbols := c.symbols.updateLocal name.name g })) :
  E (redeclareVariable old name t hasInit isDefined c) := by
 refine outcome_sameEntity refused fun hkind hcompatible => outcome_get ?_
 by_cases hinitialized : (hasInit && c.initialized.contains name.name) = true
 · rw [if_pos hinitialized]
   exact refused rfl
 · rw [if_neg hinitialized]
   refine outcome_markInitialized (again hkind hcompatible (fun x => ⟨rfl,?_⟩) fun hinit => ?_)
   · unfold CType.isArray
     cases hk : x.type.kind with
     | array elem length vla =>
      cases length with
      | none => exact .inr ⟨rfl,rfl,rfl⟩
      | some n => exact .inl ⟨rfl,fun _ => rfl⟩
     | _ => exact .inl ⟨rfl,fun h => by cases h⟩
   · rwa [hinit,Bool.true_and,List.contains_iff_mem] at hinitialized

lemma outcome_enterVariable (d:VarDecl) (t:CType)
  (fresh:∀ {s}, c.symbols.declare (.fresh d.name .var t d.storage d.isDefinition) = .ok s →
   E (.ok () { c with initialized := c.initializedWith d,symbols := s }))
  (again:∀ {old} {g:Symbol → Symbol}, c.symbols.level = 0 →
   c.symbols.lookupLocal? d.name.name = some old → old.kind = .var →
   old.type.compatible t = true → (∀ x : Symbol, x.Completes t d.isDefinition (g x)) →
   (d.init.isSome = true → d.name.name ∉ c.initialized) → E (.ok ()
    { c with
      initialized := c.initializedWith d
      symbols := c.symbols.updateLocal d.name.name g })) :
  E (enterVariable d t c) := by
 refine outcome_atFileScope ?_
 unfold Checker.initializedWith at fresh again
 cases hfile : c.symbols.level == 0 with
 | false =>
  rw [hfile] at fresh
  exact outcome_declare refused fresh
 | true =>
  rw [hfile,Bool.true_and] at fresh again
  refine outcome_get ?_
  cases hold : c.symbols.lookupLocal? d.name.name with
  | some old => exact outcome_redeclareVariable refused (again (eq_of_beq hfile) hold)
  | none =>
   refine outcome_markInitialized ?_
   change E (Check.declare (.fresh d.name .var t d.storage d.isDefinition)
    { c with
      initialized := if d.init.isSome then d.name.name :: c.initialized else c.initialized })
   unfold Check.declare Check.updateSymbols
   cases hs : c.symbols.declare (.fresh d.name .var t d.storage d.isDefinition) with
   | ok s =>
    simp only [hs]
    exact fresh hs
   -- The file scope has no such name, so that nothing is refused here.
   | error f =>
    have hknown:(c.symbols.lookupLocal? d.name.name).isSome = true:=(declare_eq_error hs).2
    rw [hold] at hknown
    cases hknown

end

structure Account.EntersFunctions (A:Account) : Prop where
 function : ∀ {c x t}, x.kind = .func → c.symbols.declare x = .ok t →
  A.rel [] c none { c with symbols := t }
 again : ∀ {c old name} {g:Symbol → Symbol}, c.symbols.lookupLocal? name = some old →
  old.kind = .func → (∀ x, (g x).name = x.name) → (∀ x, (g x).kind = x.kind) →
  A.rel [] c none { c with symbols := c.symbols.updateLocal name g }

structure Account.Enters (A:Account) : Prop where
 declare : ∀ {c x t}, x.kind = .var ∨ x.kind = .func → c.symbols.declare x = .ok t →
  A.rel [] c none { c with symbols := t }
 typedef : ∀ {c t} {d:TypedefDecl} {u:CType},
  c.symbols.declare (.fresh d.name .type u (some .typedef) true) = .ok t →
  A.rel [.typedef d] c none { c with symbols := t }
 redeclare : ∀ c name {g:Symbol → Symbol},
  (∀ x, (g x).name = x.name) → (∀ x, (g x).kind = x.kind) →
  A.rel [] c none { c with symbols := c.symbols.updateLocal name g }
 initialized : ∀ c names, A.rel [] c none { c with initialized := names }

namespace Account

variable {A:Account} {ms:List Mark}

lemma Ends.refused {c:Checker} {f:Fault} (h:f.cause.isOrdinary = true) :
  A.Ends ms c (.error f c : EStateM.Result Fault Checker Unit) :=
 .error (A.mono (A.refuse c h) (List.nil_sublist _))

lemma Meets.declare {x:Symbol}
  (h:∀ {c t}, c.symbols.declare x = .ok t → A.rel ms c none { c with symbols := t }) :
  A.Meets ms (declare x) :=
 fun _ => outcome_declare .refused fun hs => .ok (h hs)

lemma Looks.fileScopeStorage (d:VarDecl) : A.Looks ms (fileScopeStorage d) :=
 .of (.fileScopeStorage d)

lemma Looks.definable (d:VarDecl) (t:CType) : A.Looks ms (definable d t) :=
 .of (.definable d t)

def Refuses (A:Account) : Prop := ∀ c {f:Fault}, f.cause.ofJump = true → A.rel [] c (some f) c

lemma Refuses.fail (h:A.Refuses) {cause:Cause} (hcause:cause.ofJump = true) (span:Span) :
  A.Looks ms (Check.fail cause span:Check α) :=
 fun c => .error (A.mono (h c hcause) (List.nil_sublist ms))

lemma Refuses.breakAllowed (h:A.Refuses) (span:Span) : A.Looks ms (breakAllowed span) :=
 .get fun _ => .ite (.pure _) (h.fail rfl _)

lemma Refuses.continueAllowed (h:A.Refuses) (span:Span) :
  A.Looks ms (continueAllowed span) :=
 .get fun _ => .ite (.pure _) (h.fail rfl _)

lemma returnedType (A:Account) (f:FunctionContext) (e:Option Expr) (span:Span) :
  A.Meets (e.toList.flatMap fun e => e.marks ++ Mark.reread e.mayBeNull e.evaluated)
   (returnedType f e span) :=
 A.logic.returnedType (κ := []) (fun _ => trivial) f e span

lemma initializedType (A:Account) (d:VarDecl) (t:CType) :
  A.Meets (d.init.toList.flatMap Initializer.marks) (initializedType d t) :=
 A.logic.initializedType (κ := []) (fun _ => trivial) d t False.elim

lemma declareRecord (A:Account) (spec:RecordSpec) :
  A.Meets spec.marks (declareRecord spec) :=
 A.logic.declareRecord (κ := []) A.tags trivial

lemma EntersFunctions.declareFunction (h:A.EntersFunctions) (name:Ident) (t:CType)
  (storage:Option StorageClass) (hasBody:Bool) :
  A.Meets [] (declareFunction name t storage hasBody) := by
 intro c
 refine outcome_declareFunction .refused name t storage hasBody ?_ ?_
 · exact fun hs => .ok (h.function rfl hs)
 · exact fun hold hkind _ _ => .ok (h.again hold hkind (fun _ => rfl) fun _ => rfl)

namespace Enters

variable (h:A.Enters)
include h

lemma functions : A.EntersFunctions where
 function hx := h.declare (.inr hx)
 again _ _ := h.redeclare _ _

lemma declareFunction (name:Ident) (t:CType) (storage:Option StorageClass)
  (hasBody:Bool) : A.Meets [] (declareFunction name t storage hasBody) :=
 h.functions.declareFunction name t storage hasBody

lemma enterVariable (d:VarDecl) (t:CType) : A.Meets [] (enterVariable d t) := by
 intro c
 refine outcome_enterVariable .refused d t (fun hs => ?_) fun _ _ _ _ hg _ => ?_
 · exact .ok (A.trans (h.initialized c (c.initializedWith d)) (h.declare (.inl rfl) hs))
 · exact .ok (A.trans (h.initialized c (c.initializedWith d))
    (h.redeclare _ _ (fun x => by rw [(hg x).eq]) fun x => by rw [(hg x).eq]))

lemma declares : A.logic.Declares where
 form _ := trivial
 initializer _ := trivial
 tags := A.tags
 declareFunction name t storage _ := h.declareFunction name t storage false
 enterVariable d t _ := h.enterVariable d t
 typedef _ _ _ := .declare h.typedef

lemma checkDeclaration (d:Declaration) : A.Meets d.marks (checkDeclaration d) :=
 h.declares.checkDeclaration (κ := []) d

end Enters

end Account

lemma Account.Meets.reporting {A:Account} {ms:List Mark} {x:Check Unit}
  (hreport:∀ {ms c f d}, A.rel ms c (some f) d → A.rel ms c none (d.report f))
  (h:A.Meets ms x) : A.Meets ms (reporting x) := by
 intro c
 have hc:=h c
 unfold Check.reporting
 generalize x c = r at hc
 cases hc with
 | ok state => exact .ok state
 | error state => exact .ok (hreport state)

/-! ### Accounts -/

/-- What the checker knows of the function it is in, as long as it is in it. -/
def FunctionContext.head (f:FunctionContext) : String × CType := (f.name,f.ret)

structure FunctionContext.Notes (f g:FunctionContext) : Prop where
 head : g.head = f.head
 locals : g.locals = f.locals
 labels : ∀ x ∈ g.labels, x ∈ f.labels ∨ x.kind = .label

structure SwitchFrame.Grows (f g:SwitchFrame) : Prop where
 type : g.type = f.type
 hasDefault : f.hasDefault = true → g.hasDefault = true
 values : f.values <:+ g.values

structure StatementAccount extends Account where
 declaration : ∀ d : Declaration, toAccount.Meets d.marks (checkDeclaration d)
 jump : toAccount.Refuses
 flow : ∀ {ms c o d} flow, rel ms { c with flow } o d → rel ms c o { d with flow := c.flow }
 switch : ∀ {ms c o d} frame, rel ms { c with switches := frame :: c.switches } o d →
  rel ms c o { d with switches := d.switches.tail }
 label : ∀ c {g:SwitchFrame → SwitchFrame}, (∀ f : SwitchFrame, f.Grows (g f)) →
  rel [] c none { c with switches := c.switches.modifyHead g }
 note : ∀ c {g:FunctionContext → FunctionContext}, (∀ f : FunctionContext, f.Notes (g f)) →
  rel [] c none { c with function := c.function.map g }
 scope : ∀ {ms c o d}, rel ms c.enterScope o d → rel ms c o d.leaveScope
 report : ∀ {ms c f d}, rel ms c (some f) d → rel ms c none (d.report f)
 warn : ∀ c message span, rel [] c none (c.warn message span)

inductive Checker.Adjusted (c:Checker) : Checker → Prop
 | flow (flow:Flow) (switches:List SwitchFrame) : Adjusted c { c with flow,switches }
 | function {g:FunctionContext → FunctionContext} (h:∀ f : FunctionContext, f.Notes (g f)) :
   Adjusted c { c with function := c.function.map g }

structure ProgramAccount extends Account where
 declaration : ∀ d : Declaration, toAccount.Meets d.marks (checkDeclaration d)
 heading : ∀ name t storage, toAccount.Meets [] (declareFunction name t storage true)
 param : ∀ {c name t s}, t.IsParameter → c.symbols.declare (.param name t) = .ok s →
  rel [] c none { c with symbols := s }
 jump : toAccount.Refuses
 adjust : ∀ {ms c o d e}, rel ms c o d → d.Adjusted e → rel ms c o e
 scope : ∀ {ms c o d}, rel ms c.enterScope o d → rel ms c o d.leaveScope
 report : ∀ {ms c f d}, rel ms c (some f) d → rel ms c none (d.report f)
 warn : ∀ c message span, rel [] c none (c.warn message span)
 enterFunction : ∀ c name ret, rel [] c none
  { c with function := some (.start name ret),flow := .outside,switches := [] }
 leaveFunction : ∀ c t, rel [] c none (c.leaveFunction t)

lemma ProgramAccount.rel_adjust {A:ProgramAccount} {c d:Checker} (h:c.Adjusted d) :
  A.rel [] c none d :=
 A.adjust (A.refl c) h

lemma ProgramAccount.after_adjust {A:ProgramAccount} {ms:List Mark} {c d e:Checker}
  {o:Option Fault} (h:c.Adjusted d) (h':A.rel ms d o e) : A.rel ms c o e := by
 have hrel:=A.trans (rel_adjust h) h'
 exact hrel

def ProgramAccount.statements (A:ProgramAccount) : StatementAccount where
 __ := A
 flow _ h := A.adjust (after_adjust (.flow _ _) h) (.flow _ _)
 switch _ h := A.adjust (after_adjust (.flow _ _) h) (.flow _ _)
 label _ _ _ := rel_adjust (.flow _ _)
 note _ _ h := rel_adjust (.function h)

namespace StatementAccount

variable {A:StatementAccount} {ms ms':List Mark} {x:Check α}

lemma meets_reporting {x:Check Unit} (h:A.Meets ms x) : A.Meets ms (reporting x) :=
 h.reporting A.report

lemma meets_between {enter:Checker → Checker} {leave:Checker → Checker → Checker}
  (hrel:∀ {c o d}, A.rel ms (enter c) o d → A.rel ms c o (leave c d)) (h:A.Meets ms x) :
  A.Meets ms (between enter leave x) := by
 intro c
 have hc:=h (enter c)
 unfold Check.between
 generalize x (enter c) = r at hc
 cases hc with
 | ok state => exact .ok (hrel state)
 | error state => exact .error (hrel state)

lemma meets_inScope (h:A.Meets ms x) : A.Meets ms (inScope x) := meets_between A.scope h

lemma meets_withFlow (change:Flow → Flow) (h:A.Meets ms x) :
  A.Meets ms (withFlow change x) :=
 meets_between (fun h => A.flow _ h) h

lemma meets_inSwitch (frame:SwitchFrame) (h:A.Meets ms x) :
  A.Meets ms (inSwitch frame x) :=
 meets_between (fun h => A.switch _ h) h

lemma meets_updateSwitch {g:SwitchFrame → SwitchFrame}
  (h:∀ f : SwitchFrame, f.Grows (g f)) : A.Meets [] (updateSwitch g) :=
 .modify fun c => A.label c h

lemma meets_updateFunction {g:FunctionContext → FunctionContext}
  (h:∀ f : FunctionContext, f.Notes (g f)) : A.Meets [] (updateFunction g) :=
 .modify fun c => A.note c h

def logic (A:StatementAccount) : StatementLogic .identity where
 __ := A.toAccount.logic
 expr _ := trivial
 form _ := trivial
 initializer _ := trivial
 declaration := A.declaration
 jump h span := (A.jump.fail h span).meets
 again h := h.again
 typeName _ c := .ok (Account.rel_refl _ c)
 view h c := h c c (.refl c) c
 reporting := meets_reporting
 inScope := meets_inScope
 withFlow change := meets_withFlow change
 inSwitch frame _ := meets_inSwitch frame
 addCase v := meets_updateSwitch fun f => ⟨rfl,id,List.suffix_cons v f.values⟩
 addDefault := meets_updateSwitch fun _ => ⟨rfl,fun _ => rfl,List.suffix_refl _⟩
 warn _ span := .modify fun c => A.warn c _ span
 returned _ _ := meets_updateFunction fun _ => ⟨rfl,rfl,fun _ => .inl⟩
 goto _ := meets_updateFunction fun _ => ⟨rfl,rfl,fun _ => .inl⟩
 label _ := meets_updateFunction fun _ => ⟨rfl,rfl,fun _ hx =>
  (List.mem_append.mp hx).imp_right fun hx => congrArg Symbol.kind (List.mem_singleton.mp hx)⟩

variable (A)

lemma checkStmt (s:Stmt) : A.Meets s.marks (checkStmt s) := A.logic.checkStmt (κ := []) s

lemma checkStmts (ss:List Stmt) : A.Meets (Stmt.marksAll ss) (checkStmts ss) :=
 A.logic.checkStmts (κ := []) ss

end StatementAccount

/-! ### Functions and units -/

lemma Account.declareParams {A:Account} {P:CType → Prop}
  (hparam:∀ {c name t s}, P t → c.symbols.declare (.param name t) = .ok s →
   A.rel [] c none { c with symbols := s })
  (ps:List Param) (h:∀ t ∈ ts, P t) : A.Meets [] (declareParams ps ts) := by
 induction ps generalizing ts with
 | nil => exact .pure _
 | cons p ps ih =>
  cases ts with
  | nil => exact .pure _
  | cons t ts =>
   obtain ⟨ht,hts⟩:=List.forall_mem_cons.mp h
   obtain ⟨name,type,span⟩:=p
   cases name with
   | none => exact ih hts
   | some name => exact Meets.first (.declare (hparam ht)) fun _ => ih hts

namespace ProgramAccount

open StatementAccount (meets_reporting meets_inScope)

def logic (A:ProgramAccount) : ProgramLogic .identity where
 __ := A.statements.logic
 heading name t storage _ := A.heading name t storage
 param _ _ h _ := .declare (A.param h)
 enterFunction _ _ _ := .modify fun c => A.enterFunction c _ _
 leaveFunction t _ := .modify fun c => A.leaveFunction c t

variable (A:ProgramAccount)

lemma checkStmts (ss:List Stmt) : A.Meets (Stmt.marksAll ss) (checkStmts ss) :=
 A.statements.checkStmts ss

lemma functionBody {head:FunctionDecl} {t:CType} {f:Signature} {c d:Checker}
  (ht:CCheck.resolveType head.type c = .ok t d) (hf:t.signature? = some f) (body:Block) :
  A.Meets (Stmt.marksAll body.stmts) (do
   CCheck.Check.declareParams head.type.params f.params
   checkBlock body) := by
 refine Account.Meets.first ?_ fun _ =>
  meets_inScope (A := A.statements) (A.checkStmts body.stmts)
 obtain hnil | hparams:=isParameter_of_head ht hf
 · rw [hnil]
   exact .pure _
 · exact Account.declareParams A.param _ hparams

lemma checkExternal (e:External) : A.Meets e.marks (checkExternal e) :=
 A.logic.checkExternal (κ := []) e

lemma checkExternals (es:List External) :
  A.Meets (es.flatMap External.marks) (checkExternals es) :=
 A.logic.checkExternals (κ := []) es

lemma analyze (c:Checker) (u:ProgramUnit) : A.rel u.marks c none (c.analyze u) := by
 have h:=A.checkExternals u.externals c
 unfold Checker.analyze
 generalize CCheck.checkExternals u.externals c = r at h
 cases h with
 | ok state => exact state
 | error state => exact A.report state

end ProgramAccount

end CCheck
