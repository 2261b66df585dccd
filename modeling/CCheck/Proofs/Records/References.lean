import CCheck.Proofs.Checking.Course
import CCheck.Proofs.Records.RecordLayout
import CCheck.Proofs.Scoping.ScopeStack

/-! # References to records

That all numbers of records are good is an invariant of the steps of an analysis, and so it holds
wherever an analysis is interrupted. -/

set_option autoImplicit false

namespace CCheck

open Check

variable {r r':Registry} {t:CType}

variable {f:FunctionContext} {id:Nat} {name:String} {s:Scope} {symbols:SymbolTable} {x:Symbol}

/-! ### What refers into a registry -/

def CType.RefersInto (r:Registry) (t:CType) : Prop := ∀ id ∈ t.recordIds, id < r.size

/-- The types in a scope refer into the registry, and a tag of a record is the tag that the record
has there. -/
structure Scope.RefersInto (r:Registry) (s:Scope) : Prop where
 symbols : ∀ x ∈ s.symbols, x.type.RefersInto r
 tags : ∀ name id, (name,Tag.record id) ∈ s.tags → ∃ d, r.get? id = some d ∧ d.tag = some name

def SymbolTable.RefersInto (r:Registry) (t:SymbolTable) : Prop :=
 ∀ s ∈ t.scopes, s.RefersInto r

structure FunctionContext.RefersInto (r:Registry) (f:FunctionContext) : Prop where
 ret : f.ret.RefersInto r
 labels : ∀ x ∈ f.labels, x.type.RefersInto r
 locals : ∀ x ∈ f.locals, x.type.RefersInto r
 returns : ∀ t ∈ f.returns, t.RefersInto r

structure FunctionInfo.RefersInto (r:Registry) (f:FunctionInfo) : Prop where
 type : f.type.RefersInto r
 locals : ∀ x ∈ f.locals, x.type.RefersInto r
 returns : ∀ t ∈ f.returns, t.RefersInto r

structure Checker.RefersInto (r:Registry) (c:Checker) : Prop where
 symbols : c.symbols.RefersInto r
 specifiers : ∀ start id, (start,id) ∈ c.definedRecords → id < r.size
 switches : ∀ f ∈ c.switches, f.type.RefersInto r
 function : ∀ f, c.function = some f → f.RefersInto r
 functions : ∀ f ∈ c.functions, f.RefersInto r

namespace Registry

def Closed (r:Registry) : Prop :=
 ∀ id d fields, r.get? id = some d → d.fields = some fields → ∀ f ∈ fields, f.type.RefersInto r

def Sized (r:Registry) : Prop :=
 ∀ id d fields, r.get? id = some d → d.fields = some fields →
  ∀ f ∈ fields, ∃ n, r.sizeOf? f.type = some n

/-! ### Growing registries -/

def GrowsTo (r r':Registry) : Prop :=
 ∀ id d, r.get? id = some d → ∃ d', r'.get? id = some d' ∧ d'.tag = d.tag

lemma lt_size_iff : id < r.size ↔ ∃ d, r.get? id = some d := by
 unfold size get?
 rw [← Option.isSome_iff_exists,isSome_getElem?]

lemma get?_size_declare (r:Registry) (kind:RecordKind) (tag:Option String) :
  (r.declare kind tag).2.get? r.size = some ⟨kind,tag,none,0,1⟩ :=
 List.getElem?_concat_length

lemma growsTo_declare (r:Registry) (kind:RecordKind) (tag:Option String) :
  r.GrowsTo (r.declare kind tag).2 :=
 fun _ d hd => ⟨d,(List.getElem?_append_left (List.getElem?_eq_some_iff.mp hd).1).trans hd,rfl⟩

lemma growsTo_set {d d':RecordDef} (hd:r.get? id = some d)
  (htag:d'.tag = d.tag) : r.GrowsTo ⟨r.records.set id d'⟩ := by
 intro id' e he
 by_cases hid : id = id'
 · subst hid
   obtain rfl : d = e:=Option.some.inj (hd.symm.trans he)
   exact ⟨d',List.getElem?_set_self (lt_size_iff.mpr ⟨d,hd⟩),htag⟩
 · exact ⟨e,(List.getElem?_set_ne hid).trans he,rfl⟩

lemma GrowsTo.lt_size (h:r.GrowsTo r') (hid:id < r.size) : id < r'.size := by
 obtain ⟨d,hd⟩:=lt_size_iff.mp hid
 obtain ⟨d',hd',-⟩:=h id d hd
 exact lt_size_iff.mpr ⟨d',hd'⟩

lemma Closed.declare (h:r.Closed) (kind:RecordKind) (tag:Option String) :
  (r.declare kind tag).2.Closed := by
 intro id d fields hd hfields f hf id' hid'
 obtain hd | rfl:=get?_declare hd
 · exact (growsTo_declare r kind tag).lt_size (h id d fields hd hfields f hf id' hid')
 · cases hfields

lemma growsTo_complete (hr:r.Reachable) (hclosed:r.Closed)
  {members:List (String × CType)} (h:r.complete id members = .ok r')
  (hmembers:∀ p ∈ members, p.2.RefersInto r) : r.GrowsTo r' ∧ r'.Closed := by
 obtain ⟨d,hd,-,-,-,rfl⟩:=(complete_eq_ok_iff hr.bounded).mp h
 have hgrows:r.GrowsTo ⟨r.records.set id (r.completed d members)⟩:=growsTo_set hd rfl
 refine ⟨hgrows,?_⟩
 intro id' e fields he hfields f hf id'' hid''
 apply hgrows.lt_size
 obtain ⟨he,-⟩ | ⟨-,rfl⟩:=get?_set he
 · exact hclosed id' e fields he hfields f hf id'' hid''
 · obtain rfl : (r.exactLayout d.kind members).fields = fields:=Option.some.inj hfields
   have hmember:(f.name,f.type) ∈ members := by
    rw [← r.exactLayout_fields d.kind members]
    exact List.mem_map_of_mem hf
   exact hmembers _ hmember id'' hid''

lemma Reachable.sized (h:r.Reachable) : r.Sized :=
 fun _ _ _ hd hfields => (h.laidOut hd hfields).arranged.sized

end Registry

lemma CType.RefersInto.grow (h:t.RefersInto r) (hr:r.GrowsTo r') : t.RefersInto r' :=
 fun id hid => hr.lt_size (h id hid)

lemma Scope.RefersInto.grow (h:s.RefersInto r) (hr:r.GrowsTo r') :
  s.RefersInto r' where
 symbols x hx := (h.symbols x hx).grow hr
 tags name id hid := by
  obtain ⟨d,hd,htag⟩:=h.tags name id hid
  obtain ⟨d',hd',htag'⟩:=hr id d hd
  exact ⟨d',hd',htag'.trans htag⟩

lemma SymbolTable.RefersInto.grow {t:SymbolTable} (h:t.RefersInto r) (hr:r.GrowsTo r') :
  t.RefersInto r' :=
 fun s hs => (h s hs).grow hr

lemma FunctionContext.RefersInto.grow (h:f.RefersInto r)
  (hr:r.GrowsTo r') : f.RefersInto r' where
 ret := h.ret.grow hr
 labels x hx := (h.labels x hx).grow hr
 locals x hx := (h.locals x hx).grow hr
 returns t ht := (h.returns t ht).grow hr

lemma FunctionInfo.RefersInto.grow {f:FunctionInfo} (h:f.RefersInto r)
  (hr:r.GrowsTo r') : f.RefersInto r' where
 type := h.type.grow hr
 locals x hx := (h.locals x hx).grow hr
 returns t ht := (h.returns t ht).grow hr

lemma Checker.RefersInto.grow {c:Checker} (h:c.RefersInto r) (hr:r.GrowsTo r') :
  c.RefersInto r' where
 symbols := h.symbols.grow hr
 specifiers start id hid := hr.lt_size (h.specifiers start id hid)
 switches f hf := (h.switches f hf).grow hr
 function f hf := (h.function f hf).grow hr
 functions f hf := (h.functions f hf).grow hr

/-! ### Symbol tables -/

lemma mem_of_lookup {α β:Type} [BEq α] [LawfulBEq α] {l:List (α × β)} {a:α} {b:β}
  (h:l.lookup a = some b) : (a,b) ∈ l := by
 obtain ⟨before,after,rfl,-⟩:=List.lookup_eq_some_iff.mp h
 exact List.mem_append_right before List.mem_cons_self

lemma CType.refersInto_of_nil (h:t.recordIds = []) : t.RefersInto r := by
 intro id hid
 rw [h] at hid
 cases hid

lemma Scope.refersInto_empty (r:Registry) : Scope.empty.RefersInto r where
 symbols _ hx := nomatch hx
 tags _ _ hid := nomatch hid

lemma Scope.RefersInto.update (h:s.RefersInto r) (name:String)
  {g:Symbol → Symbol} (hg:∀ x, x.type.RefersInto r → (g x).type.RefersInto r) :
  (s.update name g).RefersInto r where
 symbols := by
  refine List.forall_mem_map.mpr fun x hx => ?_
  split
  · exact hg x (h.symbols x hx)
  · exact h.symbols x hx
 tags := h.tags

namespace SymbolTable

variable {t t':SymbolTable} {g:Symbol → Symbol}

lemma refersInto_updateIn (name:String)
  (hg:∀ x, x.type.RefersInto r → (g x).type.RefersInto r) {ss:List Scope}
  (h:∀ s ∈ ss, s.RefersInto r) : ∀ s ∈ updateIn name g ss, s.RefersInto r := by
 induction ss with
 | nil => exact h
 | cons s ss ih =>
  obtain ⟨hs,hss⟩:=List.forall_mem_cons.mp h
  unfold updateIn
  split
  · exact List.forall_mem_cons.mpr ⟨hs.update name hg,hss⟩
  · exact List.forall_mem_cons.mpr ⟨hs,ih hss⟩

namespace RefersInto

lemma update (h:t.RefersInto r) (name:String)
  (hg:∀ x, x.type.RefersInto r → (g x).type.RefersInto r) : (t.update name g).RefersInto r := by
 unfold RefersInto
 rw [scopes_update]
 exact refersInto_updateIn name hg h

lemma setCurrent (h:t.RefersInto r) (hs:s.RefersInto r) :
  RefersInto r { t with current := s } :=
 List.forall_mem_cons.mpr ⟨hs,(List.forall_mem_cons.mp h).2⟩

lemma current (h:t.RefersInto r) : t.current.RefersInto r := (List.forall_mem_cons.mp h).1

lemma declare (h:t.RefersInto r) (ht:t.declare x = .ok t')
  (hx:x.type.RefersInto r) : t'.RefersInto r := by
 rw [declare_eq] at ht
 split at ht
 · cases ht
 · cases ht
   refine h.setCurrent { h.current with symbols := ?_ }
   exact List.forall_mem_append.mpr ⟨h.current.symbols,List.forall_mem_singleton.mpr hx⟩

lemma declareTag (h:t.RefersInto r) {tag:Tag} {span:Span}
  (ht:t.declareTag name tag span = .ok t')
  (htag:∀ id, tag = .record id → ∃ d, r.get? id = some d ∧ d.tag = some name) :
  t'.RefersInto r := by
 rw [declareTag_eq] at ht
 split at ht
 · cases ht
 · cases ht
   refine h.setCurrent { h.current with tags := ?_ }
   intro name' id hid
   obtain heq | hid:=List.mem_cons.mp hid
   · obtain ⟨rfl,rfl⟩:=Prod.mk.inj heq
     exact htag id rfl
   · exact h.current.tags name' id hid

lemma lookup? (h:t.RefersInto r) (hx:t.lookup? name = some x) :
  x.type.RefersInto r := by
 obtain ⟨s,hs,hfind⟩:=List.exists_of_findSome?_eq_some hx
 exact (h s hs).symbols x (List.mem_of_find?_eq_some hfind)

lemma tag? (h:t.RefersInto r)
  (ht:t.tag? name = some (.record id)) : id < r.size := by
 obtain ⟨s,hs,hlookup⟩:=List.exists_of_findSome?_eq_some ht
 obtain ⟨d,hd,-⟩:=(h s hs).tags name id (mem_of_lookup hlookup)
 exact Registry.lt_size_iff.mpr ⟨d,hd⟩

end RefersInto

end SymbolTable

lemma FunctionContext.refersInto_start (name:String) (h:t.RefersInto r) :
  (FunctionContext.start name t).RefersInto r where
 ret := h
 labels _ hx := nomatch hx
 locals _ hx := nomatch hx
 returns _ hx := nomatch hx

lemma FunctionContext.RefersInto.info (h:f.RefersInto r)
  (ht:t.RefersInto r) : (f.info t).RefersInto r where
 type := ht
 locals := by
  refine List.forall_mem_append.mpr ⟨h.locals,fun x hx => ?_⟩
  obtain ⟨label,hlabel,rfl⟩:=List.mem_map.mp (List.mem_mergeSort.mp hx)
  exact h.labels label hlabel
 returns := h.returns

/-! ### States -/

lemma Checker.refersInto_start (r:Registry) (warnUnused:Bool) :
  (Checker.start warnUnused).RefersInto r where
 symbols := List.forall_mem_singleton.mpr (Scope.refersInto_empty r)
 specifiers _ _ hid := nomatch hid
 switches _ hf := nomatch hf
 function _ hf := nomatch hf
 functions _ hf := nomatch hf

namespace Checker.RefersInto

variable {c:Checker}

lemma setSymbols (h:c.RefersInto r) (hs:symbols.RefersInto r) :
  Checker.RefersInto r { c with symbols } :=
 { h with symbols := hs }

lemma updateFunction (h:c.RefersInto r) {g:FunctionContext → FunctionContext}
  (hg:∀ f, f.RefersInto r → (g f).RefersInto r) :
  Checker.RefersInto r { c with function := c.function.map g } where
 __ := h
 function f hf := by
  obtain ⟨f',hf',rfl⟩:=Option.map_eq_some_iff.mp hf
  exact hg f' (h.function f' hf')

lemma markSwitch (h:c.RefersInto r) {g:SwitchFrame → SwitchFrame}
  (hg:∀ f, (g f).type = f.type) :
  Checker.RefersInto r { c with switches := c.switches.modifyHead g } where
 __ := h
 switches := by
  have hswitches:=h.switches
  generalize c.switches = fs at hswitches
  cases fs with
  | nil => exact hswitches
  | cons f fs =>
   obtain ⟨hf,hfs⟩:=List.forall_mem_cons.mp hswitches
   refine List.forall_mem_cons.mpr ⟨?_,hfs⟩
   rw [hg]
   exact hf

lemma warn (h:c.RefersInto r) (message:String) (span:Span) :
  (c.warn message span).RefersInto r := { h with }

lemma report (h:c.RefersInto r) (f:Fault) : (c.report f).RefersInto r := { h with }

lemma warnAboutUnused (h:c.RefersInto r) (xs:List Symbol) :
  (c.warnAboutUnused xs).RefersInto r := by
 unfold Checker.warnAboutUnused
 split
 · exact List.foldlRecOn _ _ h fun _ hd _ _ => hd.warn _ _
 · exact h

lemma leaveScope (h:c.RefersInto r) : c.leaveScope.RefersInto r := by
 have hscopes:=h.symbols
 unfold Checker.leaveScope SymbolTable.exit?
 cases houter : c.symbols.outer with
 | nil => exact h
 | cons s ss =>
  have hleft:SymbolTable.RefersInto r ⟨s,ss⟩:=fun x hx =>
   hscopes x (List.mem_cons_of_mem _ (houter ▸ hx))
  refine ((h.setSymbols hleft).warnAboutUnused _).updateFunction fun f hf => ?_
  exact { hf with locals := List.forall_mem_append.mpr ⟨hf.locals,hscopes.current.symbols⟩ }

lemma leaveFunction (h:c.RefersInto r) (ht:t.RefersInto r) :
  (c.leaveFunction t).RefersInto r := by
 unfold Checker.leaveFunction
 cases hfunction : c.function with
 | none => exact h
 | some f =>
  have houtside:Checker.RefersInto r { c with function := none }:=
   { h with function := fun _ hf => nomatch hf }
  have hreported:=List.foldlRecOn (motive := Checker.RefersInto r) f.undefinedGotos
   (fun c g => c.report ⟨.undefinedLabel g.name,g.span⟩) houtside fun _ hd _ _ => hd.report _
  have hinfo:=(h.function f hfunction).info ht
  exact { hreported with
   functions := List.forall_mem_append.mpr
    ⟨hreported.functions,List.forall_mem_singleton.mpr hinfo⟩ }

end Checker.RefersInto

namespace Checker

variable {c d:Checker} {held:List Nat}

lemma Change.refersInto (h:c.Change held d) (hheld:∀ id ∈ held, id < r.size)
  (hc:c.RefersInto r) : d.RefersInto r := by
 have known {u:CType} (hu:u.recordIds ⊆ held) : u.RefersInto r:=fun id hid =>
  hheld id (hu hid)
 cases h with
 | use name => exact hc.setSymbols (hc.symbols.update name fun _ hx => hx)
 | declare x hx ht => exact hc.setSymbols (hc.symbols.declare hx (known ht))
 | declareEnum tag ht =>
  exact hc.setSymbols (hc.symbols.declareTag ht fun id heq => nomatch heq)
 | redeclare name replaced isDefined ht =>
  refine hc.setSymbols (hc.symbols.setCurrent (hc.symbols.current.update name fun x hx => ?_))
  dsimp only
  split
  · exact known ht
  · exact hx
 | noteRecord start hid =>
  refine { hc with specifiers := fun start' id hmem => ?_ }
  obtain heq | hmem:=List.mem_cons.mp hmem
  · obtain ⟨-,rfl⟩:=Prod.mk.inj heq
    exact hheld id hid
  · exact hc.specifiers start' id hmem
 | enterScope =>
  exact hc.setSymbols (List.forall_mem_cons.mpr ⟨Scope.refersInto_empty r,hc.symbols⟩)
 | leaveScope => exact hc.leaveScope
 | enterSwitch hframe =>
  exact { hc with switches := List.forall_mem_cons.mpr ⟨known hframe,hc.switches⟩ }
 | leaveSwitch =>
  exact { hc with switches := fun f hf => hc.switches f (List.mem_of_mem_tail hf) }
 | caseLabel v => exact hc.markSwitch fun _ => rfl
 | defaultLabel => exact hc.markSwitch fun _ => rfl
 | enterFunction name hret =>
  refine { hc with switches := fun _ hf => (nomatch hf),function := fun f hf => ?_ }
  obtain rfl:=Option.some.inj hf
  exact FunctionContext.refersInto_start name (known hret)
 | returned ht =>
  refine hc.updateFunction fun f hf => { hf with returns := ?_ }
  exact List.forall_mem_append.mpr ⟨hf.returns,List.forall_mem_singleton.mpr (known ht)⟩
 | goto label => exact hc.updateFunction fun f hf => { hf with }
 | label label =>
  refine hc.updateFunction fun f hf => { hf with labels := ?_ }
  exact List.forall_mem_append.mpr
   ⟨hf.labels,List.forall_mem_singleton.mpr (CType.refersInto_of_nil rfl)⟩
 | leaveFunction ht => exact hc.leaveFunction (known ht)
 | warn message span => exact hc.warn message span
 | report f => exact hc.report f
 | _ => exact { hc with }

lemma records_leaveScope (c:Checker) : c.leaveScope.records = c.records := by
 unfold leaveScope SymbolTable.exit? keepLocals warnAboutUnused
 cases c.symbols.outer with
 | nil => rfl
 | cons s ss =>
  dsimp only
  split
  · exact List.foldlRecOn (motive := fun d : Checker => d.records = c.records) _ _ rfl
     fun _ hd _ _ => hd
  · rfl

lemma records_leaveFunction (c:Checker) (t:CType) :
  (c.leaveFunction t).records = c.records := by
 unfold leaveFunction
 cases c.function with
 | none => rfl
 | some f =>
  exact List.foldlRecOn (motive := fun d : Checker => d.records = c.records) f.undefinedGotos _
   rfl fun _ hd _ _ => hd

lemma Change.records (h:c.Change held d) :
  d.records = c.records ∨ ∃ id members, c.records.complete id members = .ok d.records ∧
   ∀ p ∈ members, p.2.recordIds ⊆ held := by
 cases h with
 | complete h hmembers => exact .inr ⟨_,_,h,hmembers⟩
 | leaveScope => exact .inl c.records_leaveScope
 | leaveFunction => exact .inl (c.records_leaveFunction _)
 | _ => exact .inl rfl

lemma Finds.lt_size (h:c.Finds id) (hc:c.RefersInto c.records)
  (hclosed:c.records.Closed) : id < c.records.size := by
 cases h with
 | symbol hx hid => exact hc.symbols.lookup? hx id hid
 | field hd hfields hf hid => exact hclosed _ _ _ hd hfields _ hf id hid
 | tag ht => exact hc.symbols.tag? ht
 | specifier hlookup => exact hc.specifiers _ id (mem_of_lookup hlookup)

end Checker

namespace Moment

variable {m n:Moment}

/-- No reference dangles, not even one that is only in hand. -/
structure Anchored (m:Moment) : Prop where
 state : m.state.RefersInto m.state.records
 held : ∀ id ∈ m.held, id < m.state.records.size
 closed : m.state.records.Closed
 reachable : m.state.records.Reachable

lemma anchored_start (warnUnused:Bool) : (Moment.start warnUnused).Anchored where
 state := Checker.refersInto_start .empty warnUnused
 held _ hid := nomatch hid
 closed _ _ _ hd := nomatch hd
 reachable := .empty

lemma Anchored.change (h:m.Anchored) {c:Checker} (hc:m.state.Change m.held c) :
  Anchored ⟨c,m.held⟩ := by
 obtain hrecords | ⟨id,members,hcomplete,hmembers⟩:=hc.records
 · have hstate:=hc.refersInto h.held h.state
   rw [← hrecords] at hstate
   exact ⟨hstate,hrecords ▸ h.held,hrecords ▸ h.closed,hrecords ▸ h.reachable⟩
 · obtain ⟨hgrows,hclosed⟩:=Registry.growsTo_complete h.reachable h.closed hcomplete
    fun p hp id hid => h.held id (hmembers p hp hid)
   have hheld:∀ id ∈ m.held, id < c.records.size:=fun id hid => hgrows.lt_size (h.held id hid)
   exact ⟨hc.refersInto hheld (h.state.grow hgrows),hheld,hclosed,
    h.reachable.complete id members hcomplete⟩

lemma Anchored.newRecord (h:m.Anchored) (kind:RecordKind) (tag:Option String)
  (hs:symbols.RefersInto (m.state.records.declare kind tag).2) :
  Anchored ⟨{ m.state with symbols,records := (m.state.records.declare kind tag).2 },
   m.state.records.size :: m.held⟩ where
 state := { h.state.grow (Registry.growsTo_declare _ kind tag) with symbols := hs }
 held := by
  refine List.forall_mem_cons.mpr ⟨?_,fun id hid => ?_⟩
  · exact Registry.lt_size_iff.mpr ⟨_,m.state.records.get?_size_declare kind tag⟩
  · exact (Registry.growsTo_declare _ kind tag).lt_size (h.held id hid)
 closed := h.closed.declare kind tag
 reachable := h.reachable.declare kind tag

lemma Anchored.step (h:m.Anchored) (hstep:m.Step n) : n.Anchored := by
 have declared (kind:RecordKind) (tag:Option String) :
   m.state.symbols.RefersInto (m.state.records.declare kind tag).2 :=
  h.state.symbols.grow (Registry.growsTo_declare _ kind tag)
 cases hstep with
 | change hc => exact h.change hc
 | find ids hids =>
  refine { h with held := List.forall_mem_append.mpr ⟨fun id hid => ?_,h.held⟩ }
  exact (hids id hid).lt_size h.state h.closed
 | newRecord kind tag => exact h.newRecord kind tag (declared kind tag)
 | newTaggedRecord kind tag hs =>
  refine h.newRecord kind (some tag.name) ((declared kind _).declareTag hs fun id heq => ?_)
  obtain rfl:=Tag.record.inj heq
  exact ⟨_,m.state.records.get?_size_declare kind _,rfl⟩

end Moment

/-- No record number of the state dangles, every tag of a record is its own, and the fields of
complete records have sizes. -/
structure Checker.Anchored (c:Checker) : Prop where
 references : c.RefersInto c.records
 closed : c.records.Closed
 sized : c.records.Sized

lemma Moment.Course.anchored {m:Moment} {warnUnused:Bool}
  (h:(Moment.start warnUnused).Course m) : m.state.Anchored := by
 have hm:m.Anchored:=h.invariant (fun _ _ hstep hm => hm.step hstep) (anchored_start _)
 exact ⟨hm.state,hm.closed,hm.reachable.sized⟩

/-- The parts that an analysis of a program consists of. A part that is given a type is given one
whose records are in hand. -/
inductive Check.Part (m:Moment) : {α:Type} → Check α → Prop where
 | expr (e:Expr) : Part m (checkExpr e)
 | constant (e:Expr) : Part m (evalConst e)
 | type (t:TypeExpr) : Part m (resolveType t)
 | members (seen:List String) (ms:List Member) : Part m (resolveMembers seen ms)
 | record (spec:RecordSpec) : Part m (resolveRecord spec)
 | enum (spec:EnumSpec) : Part m (resolveEnum spec)
 | initializer {t:CType} (ht:m.Knows t) (i:Initializer) : Part m (checkInitializer t i)
 | declaration (d:Declaration) : Part m (checkDeclaration d)
 | statement (s:Stmt) : Part m (checkStmt s)
 | statements (ss:List Stmt) : Part m (checkStmts ss)
 | external (e:External) : Part m (checkExternal e)
 | externals (es:List External) : Part m (checkExternals es)

lemma Check.Part.runsAt {m:Moment} {α:Type} {x:Check α} (h:Part m x) : RunsAt m x := by
 cases h with
 | expr e => exact Moment.runsAt (Moment.terms.checkExpr trivial) (List.nil_subset _)
 | constant e => exact Moment.runsAt (Moment.terms.evalConst trivial) (List.nil_subset _)
 | type t => exact Moment.runsAt (Moment.terms.resolveType trivial) (List.nil_subset _)
 | members seen ms =>
  exact Moment.runsAt (Moment.terms.resolveMembers seen fun _ _ => trivial) (List.nil_subset _)
 | record spec => exact Moment.runsAt (Moment.terms.resolveRecord trivial) (List.nil_subset _)
 | enum spec => exact Moment.runsAt (Moment.terms.resolveEnum trivial) (List.nil_subset _)
 | @initializer t ht i =>
  exact Moment.runsAt (Moment.terms.checkInitializer trivial fun _ => List.Subset.refl _) ht
 | declaration d => exact Moment.runsAt (Moment.programs.declaration d) (List.nil_subset _)
 | statement s => exact Moment.runsAt (Moment.programs.checkStmt s) (List.nil_subset _)
 | statements ss => exact Moment.runsAt (Moment.programs.checkStmts ss) (List.nil_subset _)
 | external e => exact Moment.runsAt (Moment.programs.checkExternal e) (List.nil_subset _)
 | externals es =>
  exact Moment.runsAt (Moment.programs.checkExternals es) (List.nil_subset _)

/-- References to records never dangle. Every state on a course from the start is anchored; the
analysis of any programs ends on one; and wherever a part of an analysis is entered on one, it
ends on one, whether it succeeds or fails. -/
theorem record_references (warnUnused:Bool) :
  (∀ m, (Moment.start warnUnused).Course m → m.state.Anchored) ∧
  (∀ us : List ProgramUnit, ∃ held,
   (Moment.start warnUnused).Course ⟨us.foldl Checker.analyze (.start warnUnused),held⟩) ∧
  ∀ m, (Moment.start warnUnused).Course m → ∀ (α:Type) (x:Check α), Part m x →
   Traced (fun _ _ => True) (.start warnUnused) (x m.state) :=
 ⟨fun _ => Moment.Course.anchored,fun us => (Moment.start warnUnused).course_analyses us,
  fun _ hm _ _ hx => .after hm hx.runsAt⟩

end CCheck
