import CCheck.Proofs.Checking.ProgramAccounts
import CCheck.Proofs.Parsing.Inventory
import CCheck.Proofs.Scoping.Additions
import CCheck.Proofs.Scoping.AllSymbols

/-! # Declarations that are rejected

The types and the initializer of a declaration are checked before its name is entered, which is one
step that fails without a trace. -/

set_option autoImplicit false

namespace CCheck

open Check

variable {c d e:Checker}

/-! ### States that differ by types and expressions only -/

/-- The states differ by symbols, types and calls at most: all that is known of functions,
initialized variables and faults is the same. -/
def Checker.SameContext (c d:Checker) : Prop :=
 d = { c with
  symbols := d.symbols
  records := d.records
  calls := d.calls
  definedRecords := d.definedRecords
  definedEnums := d.definedEnums }

/-- No more has been checked than types and expressions. All symbols are in their places, perhaps
used, and nothing is new in the current scope but enumerators, which have names of their own. -/
structure Checker.Undisturbed (c d:Checker) : Prop where
 context : c.SameContext d
 symbols : ∃ enumerators : List Symbol,
  (∀ x ∈ enumerators, x.level = c.symbols.level ∧ ∃ v, x.kind = .constant v) ∧
   c.symbols.Gains Symbol.KeptAs enumerators d.symbols
 unique : c.symbols.Unique → d.symbols.Unique

namespace Checker.Undisturbed

lemma of_symbols (context:c.SameContext d) (h:d.symbols = c.symbols) : c.Undisturbed d :=
 ⟨context,⟨[],List.forall_mem_nil _,h ▸ .refl Symbol.becoming_keptAs _⟩,fun hc => h ▸ hc⟩

lemma refl (c:Checker) : c.Undisturbed c := of_symbols rfl rfl

lemma trans (h:c.Undisturbed d) (h':d.Undisturbed e) : c.Undisturbed e := by
 obtain ⟨xs,hxs,hgains⟩:=h.symbols
 obtain ⟨ys,hys,hgains'⟩:=h'.symbols
 rw [hgains.level_eq] at hys
 have hcontext:c.SameContext e:=h'.context.trans (by rw [h.context])
 exact ⟨hcontext,⟨xs ++ ys,List.forall_mem_append.mpr ⟨hxs,hys⟩,
  hgains.trans Symbol.becoming_keptAs hgains'⟩,fun hc => h'.unique (h.unique hc)⟩

lemma level_eq (h:c.Undisturbed d) : d.symbols.level = c.symbols.level := by
 obtain ⟨_,_,hgains⟩:=h.symbols
 exact hgains.level_eq

end Checker.Undisturbed

def undisturbing : Account where
 rel _ c _ d := c.Undisturbed d
 refl := .refl
 trans h h' := h.trans h'
 mono h _ := h
 recover h := h
 refuse c _ _ := .refl c
 typeRead _ _ := .refl _
 use c i := ⟨rfl,⟨[],List.forall_mem_nil _,.markUsed Symbol.becoming_keptAs c.symbols i.name⟩,
  fun hc => hc.markUsed i.name⟩
 callee h _ := h
 call _ _ _ := .of_symbols rfl rfl
 again h := h
 enumerator h := by
  refine ⟨rfl,⟨_,?_,.declare Symbol.becoming_keptAs h⟩,fun hc => hc.declare h⟩
  exact List.forall_mem_singleton.mpr ⟨rfl,_,rfl⟩
 tag h := ⟨rfl,⟨[],List.forall_mem_nil _,.declareTag Symbol.becoming_keptAs h⟩,
  fun hc => hc.declareTag h⟩
 record _ _ _ := .of_symbols rfl rfl
 complete _ := .of_symbols rfl rfl
 defineRecord _ h := ⟨h.context,h.symbols,h.unique⟩
 defineEnum _ h := ⟨h.context,h.symbols,h.unique⟩

lemma refuses_undisturbing : undisturbing.Refuses := fun c _ _ => .refl c

/-! ### Outcomes -/

inductive Checker.Ends {α:Type} (c:Checker) (Q:α → Checker → Prop) :
  EStateM.Result Fault Checker α → Prop
 | ok {a:α} {d:Checker} (answer:Q a d) : Ends c Q (.ok a d)
 | error {f:Fault} {d:Checker} (undisturbed:c.Undisturbed d) : Ends c Q (.error f d)

namespace Checker.Ends

variable {α β:Type} {x:Check α} {k:α → Check β} {P:α → Checker → Prop}
 {Q:β → Checker → Prop}

lemma bind (hx:∀ {f d}, x c = .error f d → e.Undisturbed d)
  (hk:∀ {a d}, x c = .ok a d → e.Ends Q (k a d)) : e.Ends Q ((x >>= k) c) := by
 simp only [Bind.bind,EStateM.bind]
 cases h : x c with
 | ok a d => exact hk h
 | error f d => exact .error (hx h)

lemma look (hx:undisturbing.Looks [] x) (hc:e.Undisturbed c)
  (hk:∀ {a}, x c = .ok a c → e.Ends Q (k a c)) : e.Ends Q ((x >>= k) c) :=
 bind (fun hf => hx.eq_of_error hf ▸ hc) fun ha => hx.eq_of_ok ha ▸ hk (hx.eq_of_ok ha ▸ ha)

lemma elaborate {ms:List Mark} (hx:undisturbing.Meets ms x) (hc:e.Undisturbed c)
  (hk:∀ {a d}, x c = .ok a d → e.Undisturbed d → e.Ends Q (k a d)) :
  e.Ends Q ((x >>= k) c) :=
 bind (fun hf => hc.trans (hx.rel_of_error hf)) fun ha => hk ha (hc.trans (hx.rel_of_ok ha))

lemma first (hx:e.Ends P (x c)) (hk:∀ {a d}, P a d → e.Ends Q (k a d)) :
  e.Ends Q ((x >>= k) c) := by
 simp only [Bind.bind,EStateM.bind]
 generalize x c = r at hx
 cases hx with
 | ok answer => exact hk answer
 | error undisturbed => exact .error undisturbed

lemma of_meets {ms:List Mark} (hx:undisturbing.Meets ms x) :
  c.Ends (fun _ d => c.Undisturbed d) (x c) := by
 have hc:=hx c
 generalize x c = r at hc
 cases hc with
 | ok state => exact .ok state
 | error state => exact .error state

lemma mono {P':α → Checker → Prop} {r:EStateM.Result Fault Checker α} (h:c.Ends P r)
  (hP:∀ a d, P a d → P' a d) : c.Ends P' r := by
 cases h with
 | ok answer => exact .ok (hP _ _ answer)
 | error undisturbed => exact .error undisturbed

lemma of_ok {a:α} (h:c.Ends P (x c)) (hx:x c = .ok a d) : P a d := by
 rw [hx] at h
 cases h with
 | ok answer => exact answer

lemma of_error {f:Fault} (h:c.Ends P (x c)) (hx:x c = .error f d) : c.Undisturbed d := by
 rw [hx] at h
 cases h with
 | error undisturbed => exact undisturbed

end Checker.Ends

/-! ### Declarations that are accepted -/

inductive SymbolTable.EntersFunction (name:Ident) (hasBody:Bool) (s:SymbolTable) :
  SymbolTable → Prop
 | fresh {type:CType} {storage:Option StorageClass} {t:SymbolTable}
   (declared:s.declare (.fresh name .func type storage hasBody) = .ok t) :
   EntersFunction name hasBody s t
 | again {old:Symbol} (type:CType) (known:s.lookupLocal? name.name = some old)
   (kind:old.kind = .func) (once:(old.isDefined && hasBody) = false) :
   EntersFunction name hasBody s (s.updateLocal name.name (.restated type hasBody))

def Declaration.initialized? : Declaration → Option String
 | .var v => if v.init.isSome then some v.name.name else none
 | _ => none

inductive Checker.Admits (c:Checker) : Declaration → Checker → Prop
 | tags {dcl:Declaration} (named:dcl.declared? = none) (init:dcl.initialized? = none) :
   Admits c dcl c
 | function {dcl:Declaration} {name:Ident} {s:SymbolTable}
   (named:dcl.declared? = some (name.name,false)) (init:dcl.initialized? = none)
   (entered:c.symbols.EntersFunction name false s) : Admits c dcl { c with symbols := s }
 | typedef {v:TypedefDecl} {type:CType} {s:SymbolTable}
   (declared:c.symbols.declare (.fresh v.name .type type (some .typedef) true) = .ok s) :
   Admits c (.typedef v) { c with symbols := s }
 | object {v:VarDecl} {type:CType} {s:SymbolTable}
   (declared:c.symbols.declare (.fresh v.name .var type v.storage v.isDefinition) = .ok s) :
   Admits c (.var v) { c with initialized := c.initializedWith v,symbols := s }
 | objectAgain {v:VarDecl} {type:CType} {old:Symbol} {g:Symbol → Symbol}
   (level:c.symbols.level = 0) (known:c.symbols.lookupLocal? v.name.name = some old)
   (kind:old.kind = .var) (completes:∀ x : Symbol, x.Completes type v.isDefinition (g x))
   (once:v.init.isSome = true → v.name.name ∉ c.initialized) :
   Admits c (.var v)
    { c with
      initialized := c.initializedWith v
      symbols := c.symbols.updateLocal v.name.name g }

lemma ends_entersFunction (name:Ident) (t:CType) (storage:Option StorageClass)
  (hasBody:Bool) (hc:e.Undisturbed c) :
  e.Ends (fun _ d => ∃ s, c.symbols.EntersFunction name hasBody s ∧ d = { c with symbols := s })
   (declareFunction name t storage hasBody c) := by
 refine outcome_declareFunction (fun _ => .error hc) name t storage hasBody ?_ ?_
 · exact fun hs => .ok ⟨_,.fresh hs,rfl⟩
 · exact fun hold hkind _ hdefined => .ok ⟨_,.again t hold hkind hdefined,rfl⟩

lemma ends_admitsObject (v:VarDecl) (t:CType) (hc:e.Undisturbed c) :
  e.Ends (fun _ d => c.Admits (.var v) d) (enterVariable v t c) := by
 refine outcome_enterVariable (fun _ => .error hc) v t ?_ ?_
 · exact fun hs => .ok (.object hs)
 · exact fun hlevel hold hkind _ hcompletes honce =>
    .ok (.objectAgain hlevel hold hkind hcompletes honce)

def Checker.Declares (c:Checker) (dcl:Declaration) (d:Checker) : Prop :=
 ∃ e, c.Undisturbed e ∧ e.Admits dcl d

lemma ends_declaresVariable (v:VarDecl) (c:Checker) :
  c.Ends (fun _ d => c.Declares (.var v) d) (declareVariable v c) := by
 refine .elaborate (undisturbing.resolveType v.type) (.refl c) fun {t c₁} _ hc₁ => ?_
 by_cases hfunction : t.isFunction = true
 · rw [if_pos hfunction]
   by_cases hinit : v.init.isSome = true
   · rw [if_pos hinit]
     exact .error hc₁
   · rw [if_neg hinit]
     have hnone:Declaration.initialized? (.var v) = none:=if_neg hinit
     refine (ends_entersFunction v.name t v.storage false hc₁).mono fun _ d hd => ?_
     obtain ⟨s,hs,rfl⟩:=hd
     exact ⟨c₁,hc₁,.function rfl hnone hs⟩
 · rw [if_neg hfunction,declareObject]
   by_cases hvoid : t.isVoid = true
   · rw [if_pos hvoid]
     exact .error hc₁
   · rw [if_neg hvoid]
     refine .look (.fileScopeStorage v) hc₁ fun _ => ?_
     refine .elaborate (undisturbing.initializedType v t) hc₁ fun {u c₂} _ hc₂ => ?_
     refine .look (.definable v u) hc₂ fun _ => ?_
     exact (ends_admitsObject v u hc₂).mono fun _ d hd => ⟨c₂,hc₂,hd⟩

lemma ends_declares (dcl:Declaration) (c:Checker) :
  c.Ends (fun _ d => c.Declares dcl d) (checkDeclaration dcl c) := by
 cases dcl with
 | var v => exact ends_declaresVariable v c
 | func v =>
  refine .elaborate (undisturbing.resolveType v.type) (.refl c) fun {t c₁} _ hc₁ => ?_
  refine (ends_entersFunction v.name t v.storage false hc₁).mono fun _ d hd => ?_
  obtain ⟨s,hs,rfl⟩:=hd
  exact ⟨c₁,hc₁,.function rfl rfl hs⟩
 | typedef v =>
  refine .elaborate (undisturbing.resolveType v.type) (.refl c) fun {t c₁} _ hc₁ => ?_
  exact outcome_declare (fun _ => .error hc₁) fun hs => .ok ⟨c₁,hc₁,.typedef hs⟩
 | record spec =>
  exact (Checker.Ends.of_meets (undisturbing.declareRecord spec)).mono
   fun _ d hd => ⟨d,hd,.tags rfl rfl⟩
 | enum spec =>
  exact (Checker.Ends.of_meets (undisturbing.resolveEnum spec)).mono
   fun _ d hd => ⟨d,hd,.tags rfl rfl⟩

lemma Checker.Admits.names {dcl:Declaration} {name:String} {isType:Bool}
  (h:c.Admits dcl d) (hname:dcl.declared? = some (name,isType)) :
  (d.symbols.lookupLocal? name).isSome = true := by
 cases h with
 | tags named => cases named.symm.trans hname
 | function named _ entered =>
  cases named.symm.trans hname
  cases entered with
  | fresh declared => exact SymbolTable.isSome_lookupLocal?_declare declared
  | again type known => exact SymbolTable.isSome_lookupLocal?_updateLocal known fun _ => rfl
 | typedef declared =>
  cases hname
  exact SymbolTable.isSome_lookupLocal?_declare declared
 | object declared =>
  cases hname
  exact SymbolTable.isSome_lookupLocal?_declare declared
 | objectAgain _ known _ completes =>
  cases hname
  exact SymbolTable.isSome_lookupLocal?_updateLocal known fun x => by rw [(completes x).eq]

/-! ### Definitions of functions -/

def checkHeading (head:FunctionDecl) : Check (CType × Signature) := do
 let t ← resolveType head.type
 let f ← definedSignature head t
 paramsNamed head.name.name head.type.params
 returnsComplete f.ret head.type.span
 declareFunction head.name t head.storage true
 return (t,f)

def checkBody (head:FunctionDecl) (body:Block) (t:CType) (f:Signature) : Check Unit := do
 enterFunction head.name.name f.ret
 reporting (inScope do
  declareParams head.type.params f.params
  checkBlock body)
 modify (·.leaveFunction t)

lemma checkDefinition_eq (head:FunctionDecl) (body:Block) :
  checkDefinition head body = checkHeading head >>= fun h => checkBody head body h.1 h.2 := by
 simp only [checkDefinition,checkHeading,checkBody,bind_assoc,pure_bind]

def Checker.enterFunction (c:Checker) (name:String) (ret:CType) : Checker :=
 { c with function := some (.start name ret),flow := .outside,switches := [] }

lemma checkBody_eq (head:FunctionDecl) (body:Block) (t:CType) (f:Signature)
  (c:Checker) :
  checkBody head body t f c = .ok () (((reporting (inScope do
   declareParams head.type.params f.params
   checkBlock body)).after (c.enterFunction head.name.name f.ret)).leaveFunction t) := by
 have henter:Check.enterFunction head.name.name f.ret c =
   .ok () (c.enterFunction head.name.name f.ret) := rfl
 rw [checkBody,bind_ok henter,bind_ok (reporting_eq_ok _ _)]
 rfl

lemma ends_heads (head:FunctionDecl) (c:Checker) :
  c.Ends (fun _ d => ∃ c₁ s, c.Undisturbed c₁ ∧ c₁.symbols.EntersFunction head.name true s ∧
   d = { c₁ with symbols := s }) (checkHeading head c) := by
 refine .elaborate (undisturbing.resolveType head.type) (.refl c) fun {t c₁} _ hc₁ => ?_
 refine .look (.of (.definedSignature head t False.elim)) hc₁ fun {f} _ => ?_
 refine .look (.of (.paramsNamed _ _)) hc₁ fun _ => ?_
 refine .look (.of (.returnsComplete _ _)) hc₁ fun _ => ?_
 refine .first (ends_entersFunction head.name t head.storage true hc₁) fun {_ d} hd => ?_
 obtain ⟨s,hs,rfl⟩:=hd
 exact .ok ⟨c₁,s,hc₁,hs,rfl⟩

/-- A declaration or a definition that is rejected, in whatever state, adds no symbols but
enumerators, changes those that there are by uses at most, records no function and initializes no
variable. -/
theorem rejected_undisturbed {x:External} {f:Fault} (h:checkExternal x c = .error f d) :
  c.Undisturbed d := by
 cases x with
 | declaration dcl => exact (ends_declares dcl c).of_error h
 | definition head body =>
  rw [checkExternal,checkDefinition_eq] at h
  have hheads:=ends_heads head c
  cases hrun : checkHeading head c with
  | error f' d' =>
   simp only [Bind.bind,EStateM.bind,hrun] at h
   cases h
   exact hheads.of_error hrun
  | ok t d' =>
   rw [bind_ok hrun,checkBody_eq] at h
   cases h

def Check.failure? {α:Type} (x:Check α) (c:Checker) : Option (Fault × Checker) :=
 match x c with
 | .ok _ _ => none
 | .error f d => some (f,d)

lemma Check.eq_error_of_failure? {α:Type} {x:Check α} {f:Fault}
  (h:x.failure? c = some (f,d)) : x c = .error f d := by
 unfold failure? at h
 cases hx : x c with
 | ok a d' =>
  rw [hx] at h
  cases h
 | error f' d' =>
  rw [hx] at h
  cases h
  rfl

/-- The second declaration is rejected when its initializer has been checked, which uses the
variable and declares an enumerator. -/
theorem rejected_undisturbed_conflicting :
  ∃ u x f d, parse "int x; double x = sizeof(enum { A }) + x;" = .ok u ∧
   u.externals[1]? = some x ∧
   checkExternal x ((checkExternals (u.externals.take 1)).after (.start false)) = .error f d ∧
   f.cause = .conflictingTypes "x" ∧
   d.symbols.globals.map (fun y => (y.name,y.type,y.isUsed)) =
    [("x",.int,true),("A",.int,false)] ∧
   ((checkExternals (u.externals.take 1)).after (.start false)).Undisturbed d := by
 have h : (parse "int x; double x = sizeof(enum { A }) + x;").toOption.bind (fun u =>
   u.externals[1]?.bind fun x =>
    let c:=(checkExternals (u.externals.take 1)).after (.start false)
    ((checkExternal x).failure? c).map fun r =>
     (r.1.cause,r.2.symbols.globals.map fun y => (y.name,y.type,y.isUsed))) =
   some (.conflictingTypes "x",[("x",.int,true),("A",.int,false)]) := by decide +kernel
 obtain ⟨u,hu,hx⟩:=exists_unit h
 obtain ⟨x,hx,hfails⟩:=Option.bind_eq_some_iff.mp hx
 obtain ⟨⟨f,d⟩,hfails,hr⟩:=Option.map_eq_some_iff.mp hfails
 have herror:=Check.eq_error_of_failure? hfails
 exact ⟨u,x,f,d,hu,hx,herror,congrArg Prod.fst hr,congrArg Prod.snd hr,
  rejected_undisturbed herror⟩

end CCheck
