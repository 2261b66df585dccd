import CCheck.Proofs.Scoping.Views
import CCheck.Proofs.Checking.ConstPaths
import CCheck.Proofs.Checking.Lockstep
import CCheck.Proofs.Naming.Walk

/-! # The symbols agree with what is known

The state of the analysis agrees with a walk if the names that denote types have symbols of that
kind. Checking along a walk keeps the agreement up to the first error. -/

set_option autoImplicit false

namespace CCheck

open Check Sight

variable {α β:Type}

variable {es:List Enumerator} {f:Fault} {file:Bool} {kind:RecordKind} {ms:List Mention} {span:Span}
 {t:SymbolTable} {tag:Option Ident} {x:Symbol}

abbrev Kinds := List (String × SymbolKind)

def SymbolTable.kind? (t:SymbolTable) (name:String) : Option SymbolKind :=
 (t.lookup? name).map (·.kind)

/-- The state agrees with what is known at a place, as far as the names `N` are concerned. The
scopes around the current one are `around`. -/
structure Agrees (N:String → Prop) (around:List Kinds) (σ:Sight) (c:Checker) : Prop where
 types : ∀ x, N x → σ.types x → c.symbols.kind? x = some .type
 outer : c.symbols.outer.map (·.view Symbol.kind) = around
 records : ∀ o ∈ σ.records, (c.definedRecords.lookup o).isSome = true
 enums : ∀ o ∈ σ.enums, o ∈ c.definedEnums
 atFile : σ.atFile = true → around = []

def Clean (c:Checker) : Prop := ∀ d ∈ c.diagnostics, d.isError = false

def Spoiled (c:Checker) : Prop :=
 ∃ f : Fault, c.diagnostics.find? (·.isError) = some (.ofFault f) ∧ f.cause.isUnknownType = false

/-- No error was reported so far and the state agrees with what is known, or the first error was
harmless. The flag tells whether the former may be the case. -/
def Sound (N:String → Prop) (around:List Kinds) (σ:Sight) (fresh:Bool) (c:Checker) :
  Prop :=
 (fresh = true ∧ Clean c ∧ Agrees N around σ c) ∨ Spoiled c

def Stopped (fresh:Bool) (f:Fault) (c:Checker) : Prop :=
 (fresh = true ∧ Clean c ∧ f.cause.isUnknownType = false) ∨ Spoiled c

inductive Ends (N:String → Prop) (around:List Kinds) (τ:Sight) (fresh:Bool) :
  EStateM.Result Fault Checker α → Prop
 | ok {a:α} {c:Checker} (h:Sound N around τ fresh c) : Ends N around τ fresh (.ok a c)
 | error {f:Fault} {c:Checker} (h:Stopped fresh f c) : Ends N around τ fresh (.error f c)

def Leads (N:String → Prop) (around:List Kinds) (σ:Sight) (x:Check α) (τ:Sight) : Prop :=
 ∀ fresh c, Sound N around σ fresh c → Ends N around τ fresh (x c)

variable {N:String → Prop} {around:List Kinds} {σ τ υ:Sight} {c c':Checker}
 {fresh:Bool}

lemma Sound.stopped (h:Sound N around σ fresh c)
  (hf:f.cause.isUnknownType = false) : Stopped fresh f c :=
 h.imp (fun h => ⟨h.1,h.2.1,hf⟩) id

lemma Sound.imp (h:Sound N around σ fresh c) (hdiagnostics:c'.diagnostics = c.diagnostics)
  (hagrees:Agrees N around σ c → Agrees N around τ c') : Sound N around τ fresh c' := by
 rcases h with ⟨hfresh,hclean,h⟩ | ⟨f,hfind,hf⟩
 · exact Or.inl ⟨hfresh,fun d hd => hclean d (hdiagnostics ▸ hd),hagrees h⟩
 · exact Or.inr ⟨f,hdiagnostics ▸ hfind,hf⟩

lemma SymbolTable.kind?_eq (t:SymbolTable) (name:String) :
  t.kind? name = (t.views Symbol.kind).findSome? (·.lookup name) :=
 t.map_lookup? name

lemma Agrees.transfer (h:Agrees N around σ c)
  (hviews:c'.symbols.views Symbol.kind = c.symbols.views Symbol.kind)
  (hrecords:∀ o, (c.definedRecords.lookup o).isSome = true →
   (c'.definedRecords.lookup o).isSome = true)
  (henums:c.definedEnums ⊆ c'.definedEnums) : Agrees N around σ c' where
 types x hx htype := by
  rw [SymbolTable.kind?_eq,hviews,← SymbolTable.kind?_eq]
  exact h.types x hx htype
 outer := by
  rw [SymbolTable.views_cons,SymbolTable.views_cons,List.cons.injEq] at hviews
  rw [hviews.2]
  exact h.outer
 records o ho := hrecords o (h.records o ho)
 enums o ho := henums (h.enums o ho)
 atFile := h.atFile

lemma Agrees.weaken {N':String → Prop} (h:Agrees N around σ c)
  (htypes:∀ x, N' x → τ.types x → N x ∧ σ.types x) (hwithin:τ.records ⊆ σ.records)
  (henums:τ.enums ⊆ σ.enums) (hfile:τ.atFile = true → σ.atFile = true) :
  Agrees N' around τ c where
 types x hx htype := by
  obtain ⟨hx',htype'⟩:=htypes x hx htype
  exact h.types x hx' htype'
 outer := h.outer
 records o ho := h.records o (hwithin ho)
 enums o ho := h.enums o (henums ho)
 atFile h' := h.atFile (hfile h')

lemma Agrees.not_declared (h:Agrees N around σ c)
  (ht:c.symbols.declare x = .ok t) (hfile:σ.atFile = true) (hN:N x.name) :
  ¬σ.types x.name := by
 intro htype
 have hkind:=h.types x.name hN htype
 have hnone:=(SymbolTable.declare_eq_ok (f := Symbol.kind) ht).1
 have houter:c.symbols.outer = [] := by
  have hmap:=h.outer
  rw [h.atFile hfile] at hmap
  exact List.map_eq_nil_iff.mp hmap
 unfold SymbolTable.kind? SymbolTable.lookup? SymbolTable.scopes at hkind
 rw [houter,List.findSome?_cons] at hkind
 have hfind:c.symbols.current.find? x.name = none:=hnone
 rw [hfind] at hkind
 cases hkind

lemma Agrees.hide (h:Agrees N around σ c)
  (ht:c.symbols.declare x = .ok t) :
  Agrees N around (σ.hide x.name) { c with symbols := t } where
 types y hy htype := by
  have hlookup:t.kind? y = if y = x.name then some x.kind else c.symbols.kind? y:=
   SymbolTable.map_lookup?_declare ht y
  obtain ⟨hother,hknown⟩:=htype
  by_cases hname : y = x.name
  · rcases hother with hfile | hne
    · subst hname
      exact absurd hknown (h.not_declared ht hfile hy)
    · exact absurd hname hne
  · exact (hlookup.trans (if_neg hname)).trans (h.types y hy hknown)
 outer := (congrArg _ (SymbolTable.declare_eq_ok (f := Symbol.kind) ht).2.1).trans h.outer
 records := h.records
 enums := h.enums
 atFile := h.atFile

lemma Agrees.reveal (h:Agrees N around σ c)
  (ht:c.symbols.declare x = .ok t) (hx:x.kind = .type) :
  Agrees N around (σ.reveal x.name) { c with symbols := t } where
 types y hy htype := by
  have hlookup:t.kind? y = if y = x.name then some x.kind else c.symbols.kind? y:=
   SymbolTable.map_lookup?_declare ht y
  by_cases hname : y = x.name
  · exact (hlookup.trans (if_pos hname)).trans (congrArg some hx)
  · exact (hlookup.trans (if_neg hname)).trans (h.types y hy (htype.resolve_left hname))
 outer := (congrArg _ (SymbolTable.declare_eq_ok (f := Symbol.kind) ht).2.1).trans h.outer
 records := h.records
 enums := h.enums
 atFile := h.atFile

/-- Where the walk does not follow what is declared, type names must be known and enumerators must
not take the names `N`, which at file scope cannot be taken. -/
def Permits (N:String → Prop) (σ:Sight) (name:String) : NameUse → Prop
 | .value => True
 | .type => N name ∧ σ.types name
 | .constant => σ.atFile = true ∨ ¬N name

lemma Agrees.declareConstant (h:Agrees N around σ c) {name:Ident}
  (hname:Permits N σ name.name .constant) {v:Int64}
  (ht:c.symbols.declare (.fresh name (.constant v) .int none true) = .ok t) :
  Agrees N around σ { c with symbols := t } := by
 refine (h.hide ht).weaken (fun x hx htype => ⟨hx,?_,htype⟩) (fun _ h => h) (fun _ h => h) id
 refine hname.imp id fun hN heq => ?_
 rw [heq] at hx
 exact hN hx

def agreement (N:String → Prop) (around:List Kinds) (σ:Sight) (fresh:Bool) :
  Assertion (Permits N σ) where
 holds := Sound N around σ fresh
 failed f c := Sound N around σ fresh c ∧ Stopped fresh f c
 recover h := h.1
 refuse h _ hcause _ := ⟨h,h.stopped hcause⟩
 unknown h name hname hkind _ := by
  refine ⟨h,h.imp_left fun h => ?_⟩
  have htype:=h.2.2.types name hname.1 hname.2
  unfold SymbolTable.kind? at htype
  obtain ⟨x,hx,hxkind⟩:=Option.map_eq_some_iff.mp htype
  rw [hx] at hkind
  simp only [Option.any_some,hxkind,beq_self_eq_true,reduceCtorEq] at hkind
 markUsed h name := h.imp rfl fun h =>
  h.transfer (SymbolTable.views_markUsed _ name fun _ => rfl) (fun _ => id) fun _ => id
 declareConstant h _ hname _ _ ht := h.imp rfl fun h => h.declareConstant hname ht
 declareTag h _ _ _ _ ht := h.imp rfl fun h =>
  h.transfer (SymbolTable.views_declareTag ht) (fun _ => id) fun _ => id
 setRecords h _ := h.imp rfl fun h => h.transfer rfl (fun _ => id) fun _ => id
 addCall h _ := h.imp rfl fun h => h.transfer rfl (fun _ => id) fun _ => id
 addDefinedRecord h o := h.imp rfl fun h => by
  refine h.transfer rfl (fun o' ho' => ?_) fun _ => id
  rw [List.lookup_cons]
  split
  · rfl
  · exact ho'
 addDefinedEnum h o := h.imp rfl fun h =>
  h.transfer rfl (fun _ => id) fun _ => List.mem_cons_of_mem o

lemma Leads.of_keeps {x:Check α}
  (h:∀ fresh, (agreement N around σ fresh).Kept x) : Leads N around σ x σ := by
 intro fresh c hc
 have hkept:=h fresh c hc
 generalize x c = r at hkept
 cases hkept with
 | ok state => exact .ok state
 | error state => exact .error state.2

namespace Leads

lemma pure (a:α) : Leads N around σ (pure a) σ := fun _ _ hc => .ok hc

lemma bind {x:Check α} {k:α → Check β} (h:Leads N around σ x τ)
  (hk:∀ a, Leads N around τ (k a) υ) : Leads N around σ (x >>= k) υ := by
 intro fresh c hc
 have hx:=h fresh c hc
 simp only [Bind.bind,EStateM.bind]
 generalize x c = p at hx
 cases hx with
 | ok hc' => exact hk _ _ _ hc'
 | error hf => exact .error hf

lemma get {k:Checker → Check α} (h:∀ c, Leads N around σ (k c) τ) :
  Leads N around σ (get >>= k) τ :=
 fun fresh c hc => h c fresh c hc

lemma fail {cause:Cause} (hcause:cause.isUnknownType = false) (span:Span) :
  Leads N around σ (Check.fail cause span:Check α) τ :=
 fun _ _ hc => .error (hc.stopped hcause)

lemma modify {f:Checker → Checker} (hdiagnostics:∀ c, (f c).diagnostics = c.diagnostics)
  (hagrees:∀ c, Agrees N around σ c → Agrees N around τ (f c)) :
  Leads N around σ (modify f) τ :=
 fun _ c hc => .ok (hc.imp (hdiagnostics c) (hagrees c))

lemma weaken {x:Check α} (h:Leads N around σ x τ)
  (htypes:∀ y, N y → υ.types y → τ.types y) (hrecords:υ.records ⊆ τ.records)
  (henums:υ.enums ⊆ τ.enums) (hfile:υ.atFile = true → τ.atFile = true) :
  Leads N around σ x υ := by
 intro fresh c hc
 have hx:=h fresh c hc
 generalize x c = p at hx
 cases hx with
 | ok hc' =>
  refine .ok (hc'.imp rfl fun h' => ?_)
  exact h'.weaken (fun y hy hty => ⟨hy,htypes y hy hty⟩) hrecords henums hfile
 | error hf => exact .error hf

end Leads

/-! ### Types along a walk -/

/-- The names that a tree uses as types are among `N`, and the enumerators that its walk does not
follow are not. -/
def Fits (N:String → Prop) (file:Bool) (ms:List Mention) : Prop :=
 ∀ m ∈ ms, (m.use = .type → N m.name) ∧ (m.IsBuried → file = true ∨ ¬N m.name)

lemma fits_append {ms':List Mention} :
  Fits N file (ms ++ ms') ↔ Fits N file ms ∧ Fits N file ms' :=
 List.forall_mem_append

lemma fits_cons {m:Mention} :
  Fits N file (m :: ms) ↔
   ((m.use = .type → N m.name) ∧ (m.IsBuried → file = true ∨ ¬N m.name)) ∧ Fits N file ms :=
 List.forall_mem_cons

lemma allows_of_toExpr (h:Fits N σ.atFile (ms.map .toExpr))
  (hcovers:σ.Covers ms) : Allows (Permits N σ) ms := by
 intro m hm
 obtain ⟨htype,hburied⟩:=h m.toExpr (List.mem_map_of_mem hm)
 cases huse : m.use with
 | value => trivial
 | type => exact ⟨htype huse,hcovers m hm huse⟩
 | constant => exact hburied ⟨huse,.inr rfl⟩

lemma allows_of_toParams (h:Fits N σ.atFile (ms.map .toParams))
  (hcovers:σ.Covers ms) : Allows (Permits N σ) ms := by
 intro m hm
 obtain ⟨htype,hburied⟩:=h m.toParams (List.mem_map_of_mem hm)
 cases huse : m.use with
 | value => trivial
 | type => exact ⟨htype huse,hcovers m hm huse⟩
 | constant => exact hburied ⟨huse,.inl rfl⟩

lemma redeclaration_of_declare
  (h:t.declare x = .error f) : f.cause.isUnknownType = false := by
 rw [SymbolTable.declare] at h
 split at h
 · cases h
   rfl
 · cases h

lemma leads_declare (x:Symbol) : Leads N around σ (declare x) (σ.hide x.name) := by
 intro fresh c hc
 unfold Check.declare Check.updateSymbols
 dsimp only
 cases ht : c.symbols.declare x with
 | ok t => exact .ok (hc.imp rfl fun h => h.hide ht)
 | error f => exact .error (hc.stopped (redeclaration_of_declare ht))

def spoiled : Assertion fun _ _ => True where
 holds := Spoiled
 failed _ := Spoiled
 recover := id
 refuse h _ _ _ := h
 unknown h _ _ _ _ := h
 markUsed h _ := h
 declareConstant h _ _ _ _ _ := h
 declareTag h _ _ _ _ _ := h
 setRecords h _ := h
 addCall h _ := h
 addDefinedRecord h _ := h
 addDefinedEnum h _ := h

lemma Leads.of_agrees {x:Check α} (hspoiled:spoiled.Kept x)
  (h:∀ fresh c, Agrees N around σ c → Sound N around σ fresh c → Ends N around τ fresh (x c)) :
  Leads N around σ x τ := by
 rintro fresh c (hc | hc)
 · exact h fresh c hc.2.2 (Or.inl hc)
 · have hkept:=hspoiled c hc
   generalize x c = r at hkept
   cases hkept with
   | ok state => exact .ok (Or.inr state)
   | error state => exact .error (Or.inr state)

lemma leads_declareEnumerators (h:Enumerator.WalkAll σ es τ)
  (hfits:Fits N σ.atFile (Enumerator.mentionsAll es)) (next:Int64) :
  Leads N around σ (declareEnumerators next es) τ := by
 induction h generalizing next with
 | nil => exact .pure _
 | @cons σ τ name value span es types _ ih =>
  cases value with
  | none =>
   rw [Enumerator.mentionsAll,fits_cons] at hfits
   exact (leads_declare _).bind fun _ => ih hfits.2 (next + 1)
  | some e =>
   rw [Enumerator.mentionsAll,fits_append,fits_cons] at hfits
   have he:=allows_of_toExpr hfits.1 (types e rfl)
   refine (Leads.of_keeps fun _ => .evalConst he).bind fun v => ?_
   exact (leads_declare _).bind fun _ => ih hfits.2.2 (v + 1)

lemma leads_markEnumDefined (span:Span) :
  Leads N around σ (markEnumDefined span) { σ with enums := span.start :: σ.enums } := by
 refine .modify (fun _ => rfl) fun c h => ⟨h.types,h.outer,h.records,?_,h.atFile⟩
 intro o ho
 rcases List.mem_cons.mp ho with rfl | ho
 · exact List.mem_cons_self
 · exact List.mem_cons_of_mem _ (h.enums o ho)

lemma leads_markRecordDefined (span:Span) (id:Nat) :
  Leads N around σ (markRecordDefined span id)
   { σ with records := span.start :: σ.records } := by
 refine .modify (fun _ => rfl) fun c h => ⟨h.types,h.outer,?_,h.enums,h.atFile⟩
 intro o ho
 simp only [List.lookup_cons]
 split
 · rfl
 · rename_i hne
   exact h.records o ((List.mem_cons.mp ho).resolve_left fun heq => by simp [heq] at hne)

lemma resolveEnum_known {c:Checker}
  (h:span.start ∈ c.definedEnums) : resolveEnum ⟨tag,some es,span⟩ c = .ok () c := by
 have hrun:isEnumDefined span c = .ok (c.definedEnums.contains span.start) c:=rfl
 rw [resolveEnum,bind_ok hrun,if_pos (List.contains_iff_mem.mpr h)]
 rfl

lemma resolveEnum_new {c:Checker}
  (h:span.start ∉ c.definedEnums) :
  resolveEnum ⟨tag,some es,span⟩ c =
   (do markEnumDefined span; openEnum tag; declareEnumerators 0 es : Check Unit) c := by
 have hrun:isEnumDefined span c = .ok (c.definedEnums.contains span.start) c:=rfl
 rw [resolveEnum,bind_ok hrun,if_neg (mt List.contains_iff_mem.mp h)]

lemma leads_resolveEnum {spec:EnumSpec} (h:spec.Walk σ τ)
  (hfits:Fits N σ.atFile spec.mentions) : Leads N around σ (resolveEnum spec) τ := by
 have hspoiled:spoiled.Kept (resolveEnum spec):=.resolveEnum fun _ _ => trivial
 cases h with
 | reference => exact .of_keeps fun _ => .of ((Assertion.specifiers _).referEnum _)
 | known hknown =>
  refine .of_agrees hspoiled fun fresh c hagrees hc => ?_
  rw [resolveEnum_known (hagrees.enums _ hknown)]
  exact .ok hc
 | @body _ tag es span hwalk =>
  refine .of_agrees hspoiled fun fresh c hagrees hc => ?_
  by_cases hdefined : span.start ∈ c.definedEnums
  · rw [resolveEnum_known hdefined]
    refine .ok (hc.imp rfl fun _ => ⟨fun x hx htype => hagrees.types x hx (hwalk.types htype),
     hagrees.outer,?_,?_,fun hfile => hagrees.atFile (hwalk.within.atFile.symm.trans hfile)⟩)
    · rw [hwalk.bodies.1]
      exact hagrees.records
    · rw [hwalk.bodies.2]
      exact List.forall_mem_cons.mpr ⟨hdefined,hagrees.enums⟩
  · rw [resolveEnum_new hdefined]
    have hrest:Leads N around σ
      (do markEnumDefined span; openEnum tag; declareEnumerators 0 es) τ := by
     refine (leads_markEnumDefined span).bind fun _ => ?_
     refine (Leads.of_keeps fun _ => .of ((Assertion.specifiers _).openEnum tag)).bind fun _ => ?_
     exact leads_declareEnumerators hwalk hfits 0
    exact hrest fresh c hc

lemma resolveRecord_known {ms:List Member}
  {c:Checker} {id:Nat} (h:c.definedRecords.lookup span.start = some id) :
  resolveRecord ⟨kind,tag,some ms,span⟩ c = .ok id c := by
 have hrun:definedRecord? span c = .ok (c.definedRecords.lookup span.start) c:=rfl
 rw [resolveRecord,bind_ok hrun,h]
 rfl

lemma resolveRecord_new {ms:List Member}
  {c:Checker} (h:c.definedRecords.lookup span.start = none) :
  resolveRecord ⟨kind,tag,some ms,span⟩ c = (do
   let id ← openRecord kind tag
   markRecordDefined span id
   completeRecord id (← resolveMembers [] ms) span
   return id : Check Nat) c := by
 have hrun:definedRecord? span c = .ok (c.definedRecords.lookup span.start) c:=rfl
 rw [resolveRecord,bind_ok hrun,h]

mutual

lemma leads_resolveType : ∀ {t:TypeExpr} {σ τ:Sight}, t.Walk σ τ →
  Fits N σ.atFile t.mentions → Leads N around σ (resolveType t) τ
 | ⟨.base b,_,_⟩, σ, τ, h, hfits => by
  cases h
  exact (Leads.pure _).bind fun _ => .pure _
 | ⟨.named name,_,span⟩, σ, τ, h, hfits => by
  cases h with
  | named htype =>
   have hname:N name:=(hfits _ (List.mem_singleton_self _)).1 rfl
   refine Leads.bind (.of_keeps fun _ => ?_) fun _ => .pure _
   exact .namedType ⟨hname,htype⟩ span
 | ⟨.record spec,_,_⟩, σ, τ, h, hfits => by
  cases h with
  | record h =>
   refine Leads.bind ?_ fun _ => .pure _
   exact (leads_resolveRecord h hfits).bind fun _ => .pure _
 | ⟨.enum spec,_,_⟩, σ, τ, h, hfits => by
  cases h with
  | enum h =>
   refine Leads.bind ?_ fun _ => .pure _
   exact (leads_resolveEnum h hfits).bind fun _ => .pure _
 | ⟨.pointer t,_,_⟩, σ, τ, h, hfits => by
  cases h with
  | pointer h =>
   refine Leads.bind ?_ fun _ => .pure _
   exact (leads_resolveType h hfits).bind fun _ => .pure _
 | ⟨.array elem none vla,_,_⟩, σ, τ, h, hfits => by
  cases h with
  | array h _ =>
   refine Leads.bind ?_ fun _ => .pure _
   refine (leads_resolveType h hfits).bind fun t => ?_
   refine Leads.bind (.of_keeps fun _ => ?_) fun _ => .pure _
   exact .of (.arrayElement t elem.span False.elim)
 | ⟨.array elem (some size) vla,_,_⟩, σ, τ, h, hfits => by
  cases h with
  | array h types =>
   obtain ⟨helem,hsize⟩:=fits_append.mp hfits
   rw [← h.within.atFile] at hsize
   have hallows:=allows_of_toExpr hsize (types size rfl)
   refine Leads.bind ?_ fun _ => .pure _
   refine (leads_resolveType h helem).bind fun t => ?_
   refine (Leads.of_keeps fun _ => .of (.arrayElement t elem.span False.elim)).bind fun t => ?_
   refine (Leads.of_keeps fun _ => .arrayLength size vla (.evalConst hallows)
    (.checkExpr hallows)).bind fun n => ?_
   exact .of_keeps fun _ => .of (.sizedArray t n size.span False.elim)
 | ⟨.function ret params variadic prototyped,_,span⟩, σ, τ, h, hfits => by
  cases h with
  | function h types =>
   obtain ⟨hret,hparams⟩:=fits_append.mp hfits
   rw [← h.within.atFile] at hparams
   have hallows:=allows_of_toParams hparams types
   refine Leads.bind ?_ fun _ => .pure _
   refine (leads_resolveType h hret).bind fun t => ?_
   refine (Leads.of_keeps fun _ => .of (.returnable t span False.elim)).bind fun t => ?_
   exact (Leads.of_keeps fun _ => .resolveParams hallows).bind fun ps => .pure _
termination_by structural t => t

lemma leads_resolveRecord : ∀ {spec:RecordSpec} {σ τ:Sight}, spec.Walk σ τ →
  Fits N σ.atFile spec.mentions → Leads N around σ (resolveRecord spec) τ
 | ⟨kind,tag,none,span⟩, σ, τ, h, hfits => by
  cases h
  exact .of_keeps fun _ => .of ((Assertion.specifiers _).referRecord kind tag)
 | ⟨kind,tag,some ms,span⟩, σ, τ, h, hfits => by
  refine .of_agrees (.resolveRecord fun _ _ => trivial) ?_
  intro fresh c hagrees hc
  cases h with
  | known hknown =>
   obtain ⟨id,hid⟩:=Option.isSome_iff_exists.mp (hagrees.records _ hknown)
   rw [resolveRecord_known hid]
   exact .ok hc
  | @body _ τ _ _ _ _ hwalk =>
   cases hdefined : c.definedRecords.lookup span.start with
   | some id =>
    rw [resolveRecord_known hdefined]
    refine .ok (hc.imp rfl fun _ => ⟨fun x hx htype => hagrees.types x hx (hwalk.types htype),
     hagrees.outer,?_,hagrees.enums,hagrees.atFile⟩)
    exact List.forall_mem_cons.mpr ⟨by rw [hdefined]; rfl,hagrees.records⟩
   | none =>
    rw [resolveRecord_new hdefined]
    have hrest:Leads N around σ (do
      let id ← openRecord kind tag
      markRecordDefined span id
      completeRecord id (← resolveMembers [] ms) span
      return id) { σ with types := τ.types,records := span.start :: σ.records } := by
     refine Leads.weaken (τ := τ) ?_ (fun _ _ h => h) hwalk.within.records
      hwalk.within.enums hwalk.within.atFile.trans
     refine Leads.bind (.of_keeps fun _ => .of ((Assertion.specifiers _).openRecord kind tag))
      fun id => ?_
     refine (leads_markRecordDefined span id).bind fun _ => ?_
     refine (leads_resolveMembers [] hwalk hfits).bind fun members => ?_
     refine Leads.bind (.of_keeps fun _ => ?_) fun _ => .pure _
     exact .completeRecord id members span
    exact hrest fresh c hc

lemma leads_resolveMembers (seen:List String) : ∀ {ms:List Member} {σ τ:Sight},
  Member.WalkAll σ ms τ → Fits N σ.atFile (Member.mentionsAll ms) →
  Leads N around σ (resolveMembers seen ms) τ
 | [], σ, τ, h, hfits => by
  cases h
  exact .pure _
 | ⟨name,t,span⟩ :: ms, σ, τ, h, hfits => by
  cases h with
  | cons ht hrest =>
   obtain ⟨htype,hms⟩:=fits_append.mp hfits
   rw [← ht.within.atFile] at hms
   refine (Leads.of_keeps fun _ => .of (.freshMember seen name)).bind fun _ => ?_
   refine (leads_resolveType ht htype).bind fun u => ?_
   refine (Leads.of_keeps fun _ => .of (.memberOk u ms.isEmpty span)).bind fun _ => ?_
   exact (leads_resolveMembers _ hrest hms).bind fun _ => .pure _

end

end CCheck
