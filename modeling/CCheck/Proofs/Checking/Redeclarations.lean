import CCheck.Proofs.Checking.Rejections
import CCheck.Proofs.Constants.Runs
import CCheck.Proofs.Records.References
import CCheck.Proofs.Types.Declared

/-! # Declarations of one entity

Each declaration of a function, or of a variable of the file scope, is compared with the one type
that is known at the time, which is kept or replaced. -/

set_option autoImplicit false

namespace CCheck

open Check

variable {c d e:Checker} {name:String}

variable {g:Symbol → Symbol} {kind:SymbolKind} {m t:CType} {old x:Symbol}

/-! ### What a scope knows of its names -/

def Checker.known (c:Checker) (name:String) : Option (SymbolKind × CType) :=
 (c.symbols.lookupLocal? name).map Symbol.entity

lemma Checker.known_eq_lookup (c:Checker) (name:String) :
  c.known name = (c.symbols.current.view Symbol.entity).lookup name :=
 (Scope.lookup_view _ _ _).symm

lemma SymbolTable.view_markUsed (t:SymbolTable) (name:String) :
  (t.markUsed name).current.view Symbol.entity = t.current.view Symbol.entity ∧
   (t.markUsed name).outer.map (·.view Symbol.entity) = t.outer.map (·.view Symbol.entity) :=
 List.cons.inj (t.views_markUsed name fun _ => rfl)

lemma SymbolTable.view_declareTag {t t':SymbolTable} {tag:Tag} {span:Span}
  (h:t.declareTag name tag span = .ok t') :
  t'.current.view Symbol.entity = t.current.view Symbol.entity ∧
   t'.outer.map (·.view Symbol.entity) = t.outer.map (·.view Symbol.entity) :=
 List.cons.inj (SymbolTable.views_declareTag h)

/-- A name is known as before, or it is new and an enumerator. -/
def Checker.Keeps (name:String) (c d:Checker) : Prop :=
 d.known name = c.known name ∨ c.known name = none ∧ ∃ v t, d.known name = some (.constant v,t)

lemma Checker.Keeps.trans (h:c.Keeps name d) (h':d.Keeps name e) : c.Keeps name e := by
 rcases h with h | ⟨hnone,v,t,hd⟩
 · rcases h' with h' | ⟨hnone',hconstant⟩
   · exact Or.inl (h'.trans h)
   · exact Or.inr ⟨h.symm.trans hnone',hconstant⟩
 · rcases h' with h' | ⟨hnone',_⟩
   · exact Or.inr ⟨hnone,v,t,h'.trans hd⟩
   · exact nomatch hd.symm.trans hnone'

structure Checker.Elaborated (c d:Checker) : Prop where
 current : ∃ xs,
  d.symbols.current.view Symbol.entity = c.symbols.current.view Symbol.entity ++ xs ∧
  ∀ x ∈ xs, ∃ v, x.2.1 = .constant v
 outer : d.symbols.outer.map (·.view Symbol.entity) = c.symbols.outer.map (·.view Symbol.entity)

namespace Checker.Elaborated

lemma of_views (h:d.symbols.current.view Symbol.entity = c.symbols.current.view Symbol.entity ∧
  d.symbols.outer.map (·.view Symbol.entity) = c.symbols.outer.map (·.view Symbol.entity)) :
  c.Elaborated d :=
 ⟨⟨[],by rw [h.1,List.append_nil],fun _ h => nomatch h⟩,h.2⟩

lemma of_symbols (h:d.symbols = c.symbols) : c.Elaborated d := by
 refine of_views ?_
 rw [h]
 exact ⟨rfl,rfl⟩

lemma refl (c:Checker) : c.Elaborated c := of_symbols rfl

lemma trans (h:c.Elaborated d) (h':d.Elaborated e) : c.Elaborated e := by
 obtain ⟨xs,hxs,hconstants⟩:=h.current
 obtain ⟨ys,hys,hconstants'⟩:=h'.current
 refine ⟨⟨xs ++ ys,by rw [hys,hxs,List.append_assoc],?_⟩,h'.outer.trans h.outer⟩
 exact List.forall_mem_append.mpr ⟨hconstants,hconstants'⟩

lemma keeps (h:c.Elaborated d) (name:String) : c.Keeps name d := by
 obtain ⟨xs,hxs,hconstants⟩:=h.current
 unfold Keeps
 rw [known_eq_lookup,known_eq_lookup,hxs,List.lookup_append]
 cases hc : (c.symbols.current.view Symbol.entity).lookup name with
 | some x => exact .inl rfl
 | none =>
  cases hx : xs.lookup name with
  | none => exact .inl rfl
  | some x =>
   obtain ⟨kind,t⟩:=x
   obtain ⟨v,rfl⟩:=hconstants _ (mem_of_lookup hx)
   exact .inr ⟨rfl,v,t,rfl⟩

end Checker.Elaborated

lemma Checker.Undisturbed.elaborated (h:c.Undisturbed d) : c.Elaborated d := by
 obtain ⟨xs,hxs,hgains⟩:=h.symbols
 have hentity:∀ x y : Symbol, x.KeptAs y → (y.name,y.entity) = (x.name,x.entity) := by
  rintro x y (rfl | rfl) <;> rfl
 refine ⟨⟨xs.map fun x => (x.name,x.entity),?_,?_⟩,?_⟩
 · exact (hgains.map_current hentity).trans List.map_append
 · intro x hx
   obtain ⟨y,hy,rfl⟩:=List.mem_map.mp hx
   exact (hxs y hy).2
 · exact hgains.map_outer hentity

/-! ### What a declaration makes of a name -/

structure Entry where
 kind : SymbolKind
 name : String
 type : CType
deriving DecidableEq

/-- What is known of a name before and after a declaration: the name is new, or the type agrees
with the known one. One of the two types is kept, which leaves no more to other declarations than
the other one. -/
inductive Joins (kind:SymbolKind) (t:CType) :
  Option (SymbolKind × CType) → Option (SymbolKind × CType) → Prop
 | fresh : Joins kind t none (some (kind,t))
 | kept {m:CType} (compatible:m.compatible t = true)
   (stated:t.kind.isStated = true → m.kind.isStated = true) :
   Joins kind t (some (kind,m)) (some (kind,m))
 | replaced {m:CType} (compatible:m.compatible t = true)
   (stated:m.kind.isStated = true → t.kind.isStated = true) :
   Joins kind t (some (kind,m)) (some (kind,t))

lemma Joins.of_known {kind':SymbolKind} {new:Option (SymbolKind × CType)}
  (h:Joins kind t (some (kind',m)) new) :
  kind' = kind ∧ m.compatible t = true ∧ (new = some (kind',m) ∨
   new = some (kind',t) ∧ (m.kind.isStated = true → t.kind.isStated = true)) := by
 cases h with
 | kept compatible stated => exact ⟨rfl,compatible,.inl rfl⟩
 | replaced compatible stated => exact ⟨rfl,compatible,.inr ⟨rfl,stated⟩⟩

structure Checker.Takes (a:Entry) (c d:Checker) : Prop where
 kind : ∀ v, a.kind ≠ .constant v
 self : Joins a.kind a.type (c.known a.name) (d.known a.name)
 others : ∀ other, other ≠ a.name → c.Keeps other d

lemma known_declare {t:SymbolTable} (h:c.symbols.declare x = .ok t) :
  c.known x.name = none ∧ ∀ other, { c with symbols := t }.known other =
   if other = x.name then some x.entity else c.known other := by
 obtain ⟨hnone,_,hview⟩:=SymbolTable.declare_eq_ok (f := Symbol.entity) h
 have hself:c.known x.name = none:=congrArg (Option.map Symbol.entity) hnone
 refine ⟨hself,fun other => ?_⟩
 rw [Checker.known_eq_lookup] at hself
 rw [Checker.known_eq_lookup,Checker.known_eq_lookup,hview,List.lookup_append]
 by_cases hother : other = x.name
 · rw [if_pos hother,hother,hself]
   simp only [List.lookup_cons,beq_self_eq_true,Option.none_or]
   rfl
 · rw [if_neg hother]
   simp only [List.lookup_cons,beq_false_of_ne hother,List.lookup_nil,Option.or_none]

lemma takes_declare {t:SymbolTable} (hkind:∀ v, x.kind ≠ .constant v)
  (h:c.symbols.declare x = .ok t) :
  c.Takes ⟨x.kind,x.name,x.type⟩ { c with symbols := t } := by
 obtain ⟨hself,hother⟩:=known_declare h
 refine ⟨hkind,?_,fun other hne => Or.inl (by rw [hother,if_neg hne])⟩
 rw [hself,hother,if_pos rfl]
 exact .fresh

lemma known_updateLocal
  (h:c.symbols.lookupLocal? name = some old) (hname:∀ x, (g x).name = x.name)
  (other:String) :
  { c with symbols := c.symbols.updateLocal name g }.known other =
    if other = name then some (g old).entity else c.known other := by
 have hupdate:{ c with symbols := c.symbols.updateLocal name g }.known other =
   ((c.symbols.lookupLocal? other).map fun x => if x.name == name then g x else x).map
    Symbol.entity :=
  congrArg (Option.map Symbol.entity) (c.symbols.current.find?_update name other hname)
 rw [hupdate]
 by_cases hother : other = name
 · rw [if_pos hother,hother,h,Option.map_some,Option.map_some,
    Scope.name_of_find? h,beq_self_eq_true,if_pos rfl]
 · rw [if_neg hother]
   unfold Checker.known
   cases hx : c.symbols.lookupLocal? other with
   | none => rfl
   | some x =>
    have hne:(x.name == name) = false := by
     rw [Scope.name_of_find? hx]
     exact beq_false_of_ne hother
    rw [Option.map_some,hne]
    rfl

lemma takes_updateLocal
  (hkind:∀ v, old.kind ≠ .constant v) (h:c.symbols.lookupLocal? name = some old)
  (hname:∀ x, (g x).name = x.name)
  (hjoins:Joins old.kind t (some old.entity) (some (g old).entity)) :
  c.Takes ⟨old.kind,name,t⟩ { c with symbols := c.symbols.updateLocal name g } := by
 refine ⟨hkind,?_,fun other hne => Or.inl (by rw [known_updateLocal h hname,if_neg hne])⟩
 rw [known_updateLocal h hname,if_pos rfl,show c.known name = some old.entity from
  congrArg (Option.map Symbol.entity) h]
 exact hjoins

lemma known_of_symbols (h:d.symbols = c.symbols) (name:String) :
  d.known name = c.known name := by
 unfold Checker.known
 rw [h]

lemma Checker.Takes.after {a:Entry} (h:c.Elaborated d) (h':d.Takes a e) : c.Takes a e := by
 refine ⟨h'.kind,?_,fun other hne => (h.keeps other).trans (h'.others other hne)⟩
 have hself:=h'.self
 rcases h.keeps a.name with hd | ⟨hnone,v,u,hd⟩
 · exact hd ▸ hself
 · rw [hd] at hself
   generalize e.known a.name = after at hself
   have hkind:=h'.kind
   obtain ⟨kind,name,t⟩:=a
   cases hself with
   | kept => exact absurd rfl (hkind v)
   | replaced => exact absurd rfl (hkind v)

lemma Checker.Takes.before {a:Entry} (h:c.Takes a d)
  (hknown:∀ other, e.known other = d.known other) : c.Takes a e :=
 ⟨h.kind,hknown a.name ▸ h.self,
  fun other hne => (h.others other hne).trans (Or.inl (hknown other))⟩

lemma Symbol.Completes.joins {y:Symbol} {isDefined:Bool}
  (h:x.Completes t isDefined y) (compatible:x.type.compatible t = true)
  (ht:t.isFunction = false) : Joins x.kind t (some x.entity) (some y.entity) := by
 have hentity:y.entity = (x.kind,y.type) := by rw [h.eq,Symbol.entity]
 rw [hentity]
 obtain ⟨htype,hstated⟩ | ⟨htype,_,hopen⟩:=h.type
 · rw [htype]
   refine .kept compatible fun _ => ?_
   have hfunction:=(CType.isFunction_of_compatible compatible).trans ht
   unfold CType.isFunction at hfunction
   unfold CType.isArray at hstated
   cases hk : x.type.kind with
   | array elem length vla => exact hk ▸ hstated (by rw [hk])
   | function f =>
    rw [hk] at hfunction
    cases hfunction
   | _ => rfl
 · rw [htype]
   exact .replaced compatible fun hstated => absurd (hopen.symm.trans hstated) Bool.false_ne_true

lemma Symbol.joins_restated (hasBody:Bool)
  (compatible:x.type.compatible t = true) (ht:t.isFunction = true) :
  Joins x.kind t (some x.entity) (some (x.restated t hasBody).entity) := by
 obtain ⟨k,q⟩:=t
 cases k with
 | function f =>
  unfold Symbol.restated
  cases hprototyped : (CType.signature? ⟨.function f,q⟩).any (·.prototyped) with
  | true => exact .replaced compatible fun _ => hprototyped
  | false =>
   exact .kept compatible fun hstated =>
    absurd (hprototyped.symm.trans hstated) Bool.false_ne_true
 | _ => cases ht

lemma ends_declare (hc:e.Undisturbed c) (hkind:∀ v, x.kind ≠ .constant v) :
  e.Ends (fun _ d => e.Takes ⟨x.kind,x.name,x.type⟩ d) (Check.declare x c) :=
 outcome_declare (fun _ => .error hc) fun hs => .ok (.after hc.elaborated (takes_declare hkind hs))

lemma ends_declareFunction (x:Ident) (storage:Option StorageClass)
  (hasBody:Bool) (hc:e.Undisturbed c) (ht:t.isFunction = true) :
  e.Ends (fun _ d => e.Takes ⟨.func,x.name,t⟩ d) (declareFunction x t storage hasBody c) := by
 refine outcome_declareFunction (fun _ => .error hc) x t storage hasBody
  (fun hs => .ok (.after hc.elaborated ?_))
  fun hold hkind hcompatible _ => .ok (.after hc.elaborated ?_)
 · exact takes_declare (x := .fresh x .func t storage hasBody) (fun _ => nofun) hs
 · rw [← hkind]
   exact takes_updateLocal (fun v => hkind ▸ nofun) hold (fun _ => rfl)
    (Symbol.joins_restated hasBody hcompatible ht)

lemma ends_enterVariable (dcl:VarDecl) (hc:e.Undisturbed c)
  (ht:t.isFunction = false) :
  e.Ends (fun _ d => e.Takes ⟨.var,dcl.name.name,t⟩ d) (enterVariable dcl t c) := by
 refine outcome_enterVariable (fun _ => .error hc) dcl t (fun hs => .ok (.after hc.elaborated ?_))
  fun {old g} _ hold hkind hcompatible hg _ => .ok (.after hc.elaborated ?_)
 · have htakes:=takes_declare (x := .fresh dcl.name .var t dcl.storage dcl.isDefinition)
    (fun _ => nofun) hs
   exact htakes.before (known_of_symbols rfl)
 · have htakes:=takes_updateLocal (fun v => hkind ▸ nofun) hold
    (fun x => by rw [(hg x).eq]) ((hg old).joins hcompatible ht)
   rw [hkind] at htakes
   exact htakes.before (known_of_symbols rfl)

/-! ### Scopes inside of the current one -/

def Checker.around (c:Checker) : List (List (String × (SymbolKind × CType))) :=
 c.symbols.outer.map (·.view Symbol.entity)

lemma symbols_leaveFunction (c:Checker) (t:CType) :
  (c.leaveFunction t).symbols = c.symbols :=
 leaveFunction_keeps (P := fun d => d.symbols = c.symbols) (fun _ _ _ h => h) (fun _ h => h)
  (fun _ _ h => h) t rfl

lemma view_leaveScope (h:d.around = c.enterScope.around) :
  d.leaveScope.symbols.current.view Symbol.entity = c.symbols.current.view Symbol.entity ∧
   d.leaveScope.around = c.around := by
 cases houter : d.symbols.outer with
 | nil =>
  rw [Checker.around,houter] at h
  cases h
 | cons s ss =>
  rw [Checker.around,houter] at h
  rw [Checker.around,symbols_leaveScope houter]
  exact List.cons.inj h

lemma around_declare {t:SymbolTable} (h:c.symbols.declare x = .ok t) :
  { c with symbols := t }.around = c.around := by
 obtain ⟨_,houter,_⟩:=SymbolTable.declare_eq_ok (f := Symbol.entity) h
 unfold Checker.around
 rw [houter]

def surroundings : Account where
 rel _ c _ d := d.around = c.around
 refl _ := rfl
 trans h h' := h'.trans h
 mono h _ := h
 recover h := h
 refuse _ _ _ := rfl
 typeRead _ _ := rfl
 use c i := (c.symbols.view_markUsed i.name).2
 callee h _ := h
 call _ _ _ := rfl
 again h := h
 enumerator h := around_declare h
 tag h := (SymbolTable.view_declareTag h).2
 record _ _ _ := rfl
 complete _ := rfl
 defineRecord _ h := h
 defineEnum _ h := h

lemma enters_surroundings : surroundings.Enters where
 declare _ h := around_declare h
 typedef h := around_declare h
 redeclare _ _ _ _ _ := rfl
 initialized _ _ := rfl

def programSurroundings : ProgramAccount where
 toAccount := surroundings
 declaration := enters_surroundings.checkDeclaration
 heading name t storage := enters_surroundings.declareFunction name t storage true
 param _ h := around_declare h
 jump _ _ _ := rfl
 adjust h hadjusted := by
  cases hadjusted with
  | flow flow switches => exact h
  | function hnotes => exact h
 scope h := (view_leaveScope h).2
 report h := h
 warn _ _ _ := rfl
 enterFunction _ _ _ := rfl
 leaveFunction c t := by
  change (c.leaveFunction t).around = c.around
  unfold Checker.around
  rw [symbols_leaveFunction]

lemma reporting_inScope {x:Check Unit} {ms:List Mark} (hx:surroundings.Meets ms x)
  (c:Checker) :
  ∃ d, reporting (inScope x) c = .ok () d ∧ ∀ name, d.known name = c.known name := by
 have hknown:∀ {d:Checker}, d.around = c.enterScope.around →
   ∀ name, d.leaveScope.known name = c.known name := by
  intro d hd name
  rw [Checker.known_eq_lookup,Checker.known_eq_lookup,(view_leaveScope hd).1]
 have hends:=hx c.enterScope
 unfold Check.reporting Check.inScope
 generalize x c.enterScope = r at hends
 cases hends with
 | @ok a d state => exact ⟨d.leaveScope,rfl,hknown state⟩
 | @error f d state => exact ⟨d.leaveScope.report f,rfl,hknown state⟩

/-! ### Declarations at file scope -/

/-- What a declaration says about the name that it declares. A length that is left out is taken
from the initializer. -/
def Declaration.entry? : Declaration → Check (Option Entry)
 | .var d => do
  let t ← resolveType d.type
  if t.isFunction then return some ⟨.func,d.name.name,t⟩
  else return some ⟨.var,d.name.name,← initializedType d t⟩
 | .func d => do return some ⟨.func,d.name.name,← resolveType d.type⟩
 | .typedef d => do return some ⟨.type,d.name.name,← resolveType d.type⟩
 | .record _ | .enum _ => return none

def External.entry? : External → Check (Option Entry)
 | .declaration d => d.entry?
 | .definition head _ => do return some ⟨.func,head.name.name,← resolveType head.type⟩

inductive Checker.TakesEntry (c d:Checker) : Option Entry → Prop
 | none (h:c.Elaborated d) : TakesEntry c d none
 | some {a:Entry} (h:c.Takes a d) : TakesEntry c d (some a)

def Checker.Accepts (c:Checker) (x:Check (Option Entry)) (d:Checker) : Prop :=
 ∃ a c', x c = .ok a c' ∧ c.TakesEntry d a

lemma isFunction_resolveType {t:TypeExpr} {u:CType} (ht:t.isFunction = true)
  (h:resolveType t c = .ok u d) : u.isFunction = true := by
 obtain ⟨form,quals,span⟩:=t
 cases form with
 | function ret params variadic prototyped =>
  obtain ⟨f,_,_,hsignature,_⟩:=resolveType_function_eq_ok h
  exact CType.isFunction_of_signature hsignature
 | _ => cases ht

lemma ends_declareVariable (dcl:VarDecl) :
  c.Ends (fun _ d => c.Accepts (Declaration.entry? (.var dcl)) d) (declareVariable dcl c) := by
 refine .elaborate (undisturbing.resolveType dcl.type) (.refl c) fun {t c₁} ht hc₁ => ?_
 by_cases hfunction : t.isFunction = true
 · rw [if_pos hfunction]
   by_cases hinit : dcl.init.isSome = true
   · rw [if_pos hinit]
     exact .error hc₁
   · rw [if_neg hinit]
     refine (ends_declareFunction _ _ _ hc₁ hfunction).mono fun _ d hd => ⟨_,c₁,?_,.some hd⟩
     rw [Declaration.entry?,bind_ok ht,if_pos hfunction]
     rfl
 · rw [if_neg hfunction]
   by_cases hvoid : t.isVoid = true
   · rw [declareObject,if_pos hvoid]
     exact .error hc₁
   · rw [declareObject,if_neg hvoid]
     refine .look (.fileScopeStorage dcl) hc₁ fun _ => ?_
     refine .elaborate (undisturbing.initializedType dcl t) hc₁ fun {u c₂} hu hc₂ => ?_
     refine .look (.definable dcl u) hc₂ fun _ => ?_
     have hobject:u.isFunction = false := by
      rcases initializedAs_initializedType dcl t c₁ u c₂ hu with rfl | ⟨i,_,hi⟩
      · exact Bool.not_eq_true _ ▸ hfunction
      · exact hi.isFunction.trans (Bool.not_eq_true _ ▸ hfunction)
     refine (ends_enterVariable dcl hc₂ hobject).mono fun _ d hd => ⟨_,c₂,?_,.some hd⟩
     rw [Declaration.entry?,bind_ok ht,if_neg hfunction,bind_ok hu]
     rfl

lemma ends_checkDeclaration {dcl:Declaration} (headed:dcl.Headed) :
  c.Ends (fun _ d => c.Accepts dcl.entry? d) (checkDeclaration dcl c) := by
 cases dcl with
 | var dcl => exact ends_declareVariable dcl
 | func dcl =>
  refine .elaborate (undisturbing.resolveType dcl.type) (.refl c) fun {t c₁} ht hc₁ => ?_
  refine (ends_declareFunction _ _ _ hc₁ (isFunction_resolveType headed ht)).mono
   fun _ d hd => ⟨_,c₁,?_,.some hd⟩
  rw [Declaration.entry?,bind_ok ht]
  rfl
 | typedef dcl =>
  refine .elaborate (undisturbing.resolveType dcl.type) (.refl c) fun {t c₁} ht hc₁ => ?_
  refine (ends_declare (x := .fresh dcl.name .type t (some .typedef) true) hc₁
   fun _ => nofun).mono fun _ d hd => ⟨_,c₁,?_,.some hd⟩
  rw [Declaration.entry?,bind_ok ht]
  rfl
 | record spec =>
  exact (Checker.Ends.of_meets (undisturbing.declareRecord spec)).mono
   fun _ d hd => ⟨none,c,rfl,.none hd.elaborated⟩
 | enum spec =>
  exact (Checker.Ends.of_meets (undisturbing.resolveEnum spec)).mono
   fun _ d hd => ⟨none,c,rfl,.none hd.elaborated⟩

lemma ends_checkDefinition (head:FunctionDecl) (body:Block) :
  c.Ends (fun _ d => c.Accepts (External.entry? (.definition head body)) d)
   (checkDefinition head body c) := by
 refine .elaborate (undisturbing.resolveType head.type) (.refl c) fun {t c₁} ht hc₁ => ?_
 refine .look (.of (.definedSignature head t False.elim)) hc₁ fun {f} hf => ?_
 have hsignature:=signature_of_definedSignature hf
 refine .look (.of (.paramsNamed _ _)) hc₁ fun _ => ?_
 refine .look (.of (.returnsComplete _ _)) hc₁ fun _ => ?_
 have hfunction:t.isFunction = true:=CType.isFunction_of_signature hsignature
 have hentry:External.entry? (.definition head body) c =
   .ok (some ⟨.func,head.name.name,t⟩) c₁ := by
  rw [External.entry?,bind_ok ht]
  rfl
 refine .first (ends_declareFunction head.name head.storage true hc₁ hfunction) fun {_ d} hd => ?_
 obtain ⟨d',hrun,hknown⟩:=reporting_inScope
  (programSurroundings.functionBody ht hsignature body)
  { d with function := some (.start head.name.name f.ret),flow := .outside,switches := [] }
 have hleave:∀ name, (d'.leaveFunction t).known name = d.known name:=fun name =>
  (known_of_symbols (symbols_leaveFunction d' t) name).trans (hknown name)
 refine .bind (fun hf => by cases hf) fun henter => ?_
 cases henter
 refine .bind (fun hf => by cases hrun.symm.trans hf) fun hok => ?_
 cases hrun.symm.trans hok
 exact .ok ⟨_,c₁,hentry,.some (hd.before hleave)⟩

lemma ends_checkExternal {x:External} (headed:x.Headed) :
  c.Ends (fun _ d => c.Accepts x.entry? d) (checkExternal x c) := by
 cases x with
 | declaration dcl => exact ends_checkDeclaration headed
 | definition head body => exact ends_checkDefinition head body

/-! ### Units -/

/-- The entry of what is accepted: it is checked without a fault of its own. -/
def External.accepted? (x:External) (c:Checker) : Option Entry :=
 match checkExternal x c, x.entry? c with
 | .ok _ _, .ok a _ => a
 | _, _ => none

lemma takesEntry_reporting {x:External} (headed:x.Headed) :
  c.TakesEntry ((reporting (checkExternal x)).after c) (x.accepted? c) := by
 have hends:=ends_checkExternal headed (c := c)
 unfold Check.after Check.reporting External.accepted?
 generalize checkExternal x c = r at hends
 cases hends with
 | error undisturbed => exact .none (undisturbed.elaborated.trans (.of_symbols rfl))
 | ok answer =>
  obtain ⟨a,c',hentry,htakes⟩:=answer
  rw [hentry]
  exact htakes

namespace ProgramUnit

def before (u:ProgramUnit) (warnUnused:Bool) (k:Nat) : Checker :=
 (checkExternals (u.externals.take k)).after (.start warnUnused)

def accepted? (u:ProgramUnit) (warnUnused:Bool) (k:Nat) : Option Entry :=
 u.externals[k]?.bind (·.accepted? (u.before warnUnused k))

variable {u:ProgramUnit} {warnUnused:Bool} {i j k:Nat} {a b:Entry}

lemma before_succ (u:ProgramUnit) (warnUnused:Bool) {k:Nat} {x:External}
  (hx:u.externals[k]? = some x) :
  u.before warnUnused (k + 1) =
   (reporting (checkExternal x)).after (u.before warnUnused k) := by
 unfold before
 rw [List.take_add_one,hx,Option.toList_some,after_checkExternals_append,
  after_checkExternals_cons]
 rfl

lemma takesEntry_before (headed:∀ x ∈ u.externals, x.Headed) (warnUnused:Bool) (k:Nat) :
  (u.before warnUnused k).TakesEntry (u.before warnUnused (k + 1))
   (u.accepted? warnUnused k) := by
 unfold accepted?
 cases hx : u.externals[k]? with
 | none =>
  have hend:u.before warnUnused (k + 1) = u.before warnUnused k := by
   unfold before
   rw [List.take_add_one,hx,Option.toList_none,List.append_nil]
  rw [hend]
  exact .none (.refl _)
 | some x =>
  rw [u.before_succ warnUnused hx]
  exact takesEntry_reporting (headed x (List.mem_of_getElem? hx))

lemma exists_accepted_of_known (headed:∀ x ∈ u.externals, x.Headed) {name:String}
   (hkind:∀ v, kind ≠ .constant v)
  (h:(u.before warnUnused k).known name = some (kind,m)) :
  ∃ i < k, u.accepted? warnUnused i = some ⟨kind,name,m⟩ := by
 induction k with
 | zero => cases h
 | succ k ih =>
  have hearlier:(u.before warnUnused k).known name = some (kind,m) →
    ∃ i < k + 1, u.accepted? warnUnused i = some ⟨kind,name,m⟩ := fun hk => by
   obtain ⟨i,hi,hentry⟩:=ih hk
   exact ⟨i,Nat.lt_succ_of_lt hi,hentry⟩
  -- A step that does not declare the name can make it an enumerator only.
  have hkeeps:(u.before warnUnused k).Keeps name (u.before warnUnused (k + 1)) →
    ∃ i < k + 1, u.accepted? warnUnused i = some ⟨kind,name,m⟩ := by
   rintro (hsame | ⟨_,v,t,hconstant⟩)
   · exact hearlier (hsame ▸ h)
   · cases hconstant.symm.trans h
     exact absurd rfl (hkind v)
  have hstep:=takesEntry_before headed warnUnused k
  generalize haccepted : u.accepted? warnUnused k = entry at hstep
  cases hstep with
  | none helaborated => exact hkeeps (helaborated.keeps name)
  | @some a htakes =>
   by_cases hname : name = a.name
   · have hself:=htakes.self
     rw [← hname,h] at hself
     generalize (u.before warnUnused k).known name = before at hself hearlier
     obtain ⟨kind',name',t⟩:=a
     cases hname
     cases hself with
     | fresh => exact ⟨k,Nat.lt_succ_self k,haccepted⟩
     | kept => exact hearlier rfl
     | replaced => exact ⟨k,Nat.lt_succ_self k,haccepted⟩
   · exact hkeeps (htakes.others name hname)

def SettledBut (u:ProgramUnit) (warnUnused:Bool) (i k:Nat) (a:Entry) : Prop :=
 ∀ h < k, h ≠ i → ∀ b, u.accepted? warnUnused h = some b → b.name = a.name →
  b.type.kind.settled = true

lemma SettledBut.mono {l:Nat} (h:u.SettledBut warnUnused i k a) (hkl:l ≤ k) :
  u.SettledBut warnUnused i l a :=
 fun x hx => h x (Nat.lt_of_lt_of_le hx hkl)

/-- What is known of a name stands for an accepted declaration of it: a third type that agrees with
the one agrees with the other. -/
structure Represents (m t:CType) : Prop where
 covers : m.Covers t
 sound : m = t ∨ m.kind.settled = true

lemma Represents.compatible {v:CType} (h:Represents m t) (hv:m.compatible v = true) :
  t.compatible v = true := by
 rcases h.sound with rfl | hsettled
 · exact hv
 · exact h.covers.trans_settled hsettled hv

lemma represents_after (headed:∀ x ∈ u.externals, x.Headed)
  (ha:u.accepted? warnUnused i = some a) :
  ∃ m, (u.before warnUnused (i + 1)).known a.name = some (a.kind,m) ∧
   (u.SettledBut warnUnused i (i + 1) a → Represents m a.type) := by
 have hstep:=takesEntry_before headed warnUnused i
 rw [ha] at hstep
 cases hstep with
 | some htakes =>
  have hself:=htakes.self
  generalize hold : (u.before warnUnused i).known a.name = old at hself
  generalize (u.before warnUnused (i + 1)).known a.name = new at hself
  cases hself with
  | fresh => exact ⟨_,rfl,fun _ => ⟨.refl _,.inl rfl⟩⟩
  | replaced => exact ⟨_,rfl,fun _ => ⟨.refl _,.inl rfl⟩⟩
  -- The type that is kept is the one of a declaration before this one, and so it is settled.
  | @kept m hcompatible hstated =>
   refine ⟨m,rfl,fun hsettled => ⟨⟨?_,hstated⟩,.inr ?_⟩⟩
   · rw [CType.compatible_comm]
     exact hcompatible
   · obtain ⟨h,hi,hm⟩:=exists_accepted_of_known headed htakes.kind hold
     exact hsettled h (Nat.lt_succ_of_lt hi) (Nat.ne_of_lt hi) _ hm rfl

lemma represents_succ (headed:∀ x ∈ u.externals, x.Headed) (hik:i ≠ k)
  (hm:(u.before warnUnused k).known a.name = some (a.kind,m)) :
  ∃ m', (u.before warnUnused (k + 1)).known a.name = some (a.kind,m') ∧
   (u.SettledBut warnUnused i (k + 1) a → Represents m a.type → Represents m' a.type) := by
 have hstep:=takesEntry_before headed warnUnused k
 have hkeeps:(u.before warnUnused k).Keeps a.name (u.before warnUnused (k + 1)) →
   (u.before warnUnused (k + 1)).known a.name = some (a.kind,m) := by
  rintro (hsame | ⟨hnone,_⟩)
  · exact hsame.trans hm
  · cases hm.symm.trans hnone
 generalize haccepted : u.accepted? warnUnused k = entry at hstep
 cases hstep with
 | none helaborated => exact ⟨m,hkeeps (helaborated.keeps a.name),fun _ h => h⟩
 | @some b htakes =>
  by_cases hname : b.name = a.name
  · have hself:=htakes.self
    rw [hname,hm] at hself
    obtain ⟨hkind,hcompatible,hkept | ⟨hreplaced,hstated⟩⟩:=hself.of_known
    · exact ⟨m,hkept,fun _ h => h⟩
    -- What replaces the known type agrees with it, and therefore with what it stands for.
    · refine ⟨b.type,hreplaced,fun hsettled h => ⟨⟨h.compatible hcompatible,?_⟩,.inr ?_⟩⟩
      · exact fun ht => hstated (h.covers.stated ht)
      · exact hsettled k (Nat.lt_succ_self k) (Ne.symm hik) b haccepted hname
  · exact ⟨m,hkeeps (htakes.others a.name (Ne.symm hname)),fun _ h => h⟩

lemma represents_before (headed:∀ x ∈ u.externals, x.Headed)
  (ha:u.accepted? warnUnused i = some a) (hik:i < k) :
  ∃ m, (u.before warnUnused k).known a.name = some (a.kind,m) ∧
   (u.SettledBut warnUnused i k a → Represents m a.type) := by
 induction k, hik using Nat.le_induction with
 | base => exact represents_after headed ha
 | succ k hik ih =>
  obtain ⟨m,hm,hrepresents⟩:=ih
  obtain ⟨m',hm',hnext⟩:=represents_succ headed (Nat.ne_of_lt hik) hm
  exact ⟨m',hm',fun hsettled => hnext hsettled (hrepresents (hsettled.mono (Nat.le_succ k)))⟩

end ProgramUnit

lemma headed_of_parse {source:String} {u:ProgramUnit} (h:parse source = .ok u) :
  ∀ x ∈ u.externals, x.Headed := by
 obtain ⟨ts,-,hts⟩:=tokens_of_parse h
 exact (paid_of_parseTokens hts 0).headed

/-- Two accepted declarations of one name at file scope are of the same kind. The later one agrees
with some accepted declaration before it, and with the earlier one of the two if the types of all
others before it leave nothing open below their outermost level. -/
theorem accepted_declarations_agree {source:String} {u:ProgramUnit}
  (hu:parse source = .ok u) (warnUnused:Bool) {i j:Nat} {a b:Entry} (hij:i < j)
  (ha:u.accepted? warnUnused i = some a) (hb:u.accepted? warnUnused j = some b)
  (hname:b.name = a.name) :
  a.kind = b.kind ∧
   (∃ h < j, ∃ e, u.accepted? warnUnused h = some e ∧ e.name = b.name ∧ e.kind = b.kind ∧
    e.type.compatible b.type = true) ∧
   (u.SettledBut warnUnused i j a →
    a.type.compatible b.type = true ∧ b.type.compatible a.type = true) := by
 have headed:=headed_of_parse hu
 obtain ⟨m,hm,hrepresents⟩:=ProgramUnit.represents_before headed ha hij
 have hstep:=ProgramUnit.takesEntry_before headed warnUnused j
 rw [hb] at hstep
 cases hstep with
 | some htakes =>
  have hself:=htakes.self
  rw [hname,hm] at hself
  obtain ⟨hkind,hcompatible,_⟩:=hself.of_known
  refine ⟨hkind,?_,fun hsettled => ?_⟩
  · obtain ⟨h,hj,he⟩:=ProgramUnit.exists_accepted_of_known headed (hkind ▸ htakes.kind) hm
    exact ⟨h,hj,_,he,hname.symm,hkind,hcompatible⟩
  · have hagree:=(hrepresents hsettled).compatible hcompatible
    exact ⟨hagree,CType.compatible_comm _ _ ▸ hagree⟩

def ProgramUnit.firstThree (u:ProgramUnit) : Option (Entry × Entry × Entry) := do
 return (← u.accepted? false 0,← u.accepted? false 1,← u.accepted? false 2)

lemma ProgramUnit.accepted_of_firstThree {u:ProgramUnit} {a b c:Entry}
  (h:u.firstThree = some (a,b,c)) :
  u.accepted? false 0 = some a ∧ u.accepted? false 1 = some b ∧ u.accepted? false 2 = some c := by
 unfold firstThree at h
 cases ha : u.accepted? false 0 <;> cases hb : u.accepted? false 1 <;>
  cases hc : u.accepted? false 2 <;> simp_all

/-- An old-style declaration does not stand between two prototypes. -/
theorem accepted_declarations_agree_prototypes :
  ∃ u a b, parse "int f(); int f(int); int f(int x);" = .ok u ∧
   u.accepted? false 1 = some a ∧ u.accepted? false 2 = some b ∧ u.SettledBut false 1 2 a ∧
   a.type.compatible b.type = true := by
 have h : (parse "int f(); int f(int); int f(int x);").toOption.bind ProgramUnit.firstThree =
   some (⟨.func,"f",.plain (.function ⟨.int,[],false,false⟩)⟩,
    ⟨.func,"f",.function .int [.int] false⟩,⟨.func,"f",.function .int [.int] false⟩) := by
  decide +kernel
 obtain ⟨u,hu,hentries⟩:=exists_unit h
 obtain ⟨h0,h1,h2⟩:=ProgramUnit.accepted_of_firstThree hentries
 have hsettled : u.SettledBut false 1 2 ⟨.func,"f",.function .int [.int] false⟩ := by
  intro h hlt hne b hb _
  obtain rfl : h = 0 := by omega
  cases h0.symm.trans hb
  rfl
 refine ⟨u,_,_,hu,h1,h2,hsettled,?_⟩
 exact ((accepted_declarations_agree hu false (by omega) h1 h2 rfl).2.2 hsettled).1

/-- An old-style function behind a pointer agrees with two types that do not agree. -/
theorem pointer_declarations_disagree :
  ∃ u a b, parse "int (*p)(); int (*p)(int); int (*p)(double);" = .ok u ∧
   u.accepted? false 1 = some a ∧ u.accepted? false 2 = some b ∧ a.kind = .var ∧
   b.kind = a.kind ∧ b.name = a.name ∧ a.type.compatible b.type = false := by
 have h : (parse "int (*p)(); int (*p)(int); int (*p)(double);").toOption.bind
   ProgramUnit.firstThree =
   some (⟨.var,"p",.pointer (.plain (.function ⟨.int,[],false,false⟩))⟩,
    ⟨.var,"p",.pointer (.function .int [.int] false)⟩,
    ⟨.var,"p",.pointer (.function .int [.double] false)⟩) := by
  decide +kernel
 obtain ⟨u,hu,hentries⟩:=exists_unit h
 obtain ⟨_,h1,h2⟩:=ProgramUnit.accepted_of_firstThree hentries
 exact ⟨u,_,_,hu,h1,h2,rfl,rfl,rfl,by decide⟩

end CCheck
