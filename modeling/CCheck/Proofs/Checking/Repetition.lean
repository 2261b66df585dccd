import CCheck.Proofs.Checking.Expansions
import CCheck.Proofs.Checking.Lockstep
import CCheck.Proofs.Parsing.Books
import CCheck.Proofs.Records.Growth
import CCheck.Proofs.Scoping.Views

/-! # Checking an expression again

An expression that defines nothing is checked with the same answer when it is checked again: it
finds the tags that it has declared, and neither marks of use nor recorded calls are read. -/

set_option autoImplicit false

namespace CCheck

open Check

variable {α β:Type}

/-! ### States that differ in marks and calls -/

structure Checker.Alike (c d:Checker) : Prop where
 views : d.symbols.views Symbol.sense = c.symbols.views Symbol.sense
 tags : d.symbols.scopes.map (·.tags) = c.symbols.scopes.map (·.tags)
 records : d.records = c.records
 definedRecords : d.definedRecords = c.definedRecords
 definedEnums : d.definedEnums = c.definedEnums

lemma SymbolTable.tag?_eq (t:SymbolTable) (name:String) :
  t.tag? name = (t.scopes.map (·.tags)).findSome? (·.lookup name) := by
 rw [List.findSome?_map]
 rfl

lemma SymbolTable.tag?_cases (t:SymbolTable) (name:String) :
  t.tag? name = none ∨ t.tag? name = some .enum ∨ ∃ id, t.tag? name = some (.record id) := by
 cases h : t.tag? name with
 | none => exact .inl rfl
 | some tag =>
  cases tag with
  | enum => exact .inr (.inl rfl)
  | record id => exact .inr (.inr ⟨id,rfl⟩)

lemma SymbolTable.tags_markUsed (t:SymbolTable) (name:String) :
  (t.markUsed name).scopes.map (·.tags) = t.scopes.map (·.tags) := by
 rw [markUsed,scopes_update]
 induction t.scopes with
 | nil => rfl
 | cons s ss ih =>
  rw [updateIn]
  split
  · rfl
  · rw [List.map_cons,List.map_cons,ih]

namespace Checker.Alike

variable {c d e:Checker}

lemma refl (c:Checker) : c.Alike c := ⟨rfl,rfl,rfl,rfl,rfl⟩

lemma symm (h:c.Alike d) : d.Alike c :=
 ⟨h.views.symm,h.tags.symm,h.records.symm,h.definedRecords.symm,h.definedEnums.symm⟩

lemma trans (h:c.Alike d) (h':d.Alike e) : c.Alike e :=
 ⟨h'.views.trans h.views,h'.tags.trans h.tags,h'.records.trans h.records,
  h'.definedRecords.trans h.definedRecords,h'.definedEnums.trans h.definedEnums⟩

lemma lookup? (h:c.Alike d) (name:String) :
  (d.symbols.lookup? name).map Symbol.sense = (c.symbols.lookup? name).map Symbol.sense := by
 rw [SymbolTable.map_lookup?,SymbolTable.map_lookup?,h.views]

lemma tag? (h:c.Alike d) (name:String) : d.symbols.tag? name = c.symbols.tag? name := by
 rw [SymbolTable.tag?_eq,SymbolTable.tag?_eq,h.tags]

lemma tagLocal? (h:c.Alike d) (name:String) :
  d.symbols.tagLocal? name = c.symbols.tagLocal? name :=
 congrArg (·.lookup name) (List.cons.inj h.tags).1

lemma level (h:c.Alike d) : d.symbols.level = c.symbols.level := by
 have hlength:=congrArg List.length (List.cons.inj h.tags).2
 rwa [List.length_map,List.length_map] at hlength

lemma markUsed (c:Checker) (name:String) :
  c.Alike { c with symbols := c.symbols.markUsed name } :=
 { refl c with
   views := c.symbols.views_markUsed name fun _ => rfl
   tags := c.symbols.tags_markUsed name }

lemma addCall (c:Checker) (x:LibraryCall) : c.Alike { c with calls := c.calls ++ [x] } :=
 { refl c with }

lemma setRecords (h:c.Alike d) (r:Registry) :
  Alike { c with records := r } { d with records := r } :=
 { h with records := rfl }

lemma lookupLocal? (h:c.Alike d) (name:String) :
  (d.symbols.lookupLocal? name).isSome = (c.symbols.lookupLocal? name).isSome := by
 have hview:=congrArg (·.lookup name) (List.cons.inj h.views).1
 dsimp only at hview
 rw [Scope.lookup_view,Scope.lookup_view] at hview
 have hsome:=congrArg Option.isSome hview
 rwa [Option.isSome_map,Option.isSome_map] at hsome

lemma declareConstant (h:c.Alike d) (name:Ident) (v:Int64) :
  Tracks .identity Alike (fun _ => Alike) (declareConstant name v c)
   (declareConstant name v d) := by
 have hlocal:=h.lookupLocal? name.name
 unfold SymbolTable.lookupLocal? at hlocal
 unfold Check.declareConstant Check.declare
 by_cases hc : (c.symbols.current.find? name.name).isSome = true
 · exact tracks_error ((SymbolTable.declare_eq _ _).trans (if_pos hc))
    ((SymbolTable.declare_eq _ _).trans (if_pos (hlocal.trans hc))) h
 · refine tracks_ok ((SymbolTable.declare_eq _ _).trans (if_neg hc))
    ((SymbolTable.declare_eq _ _).trans (if_neg (hlocal ▸ hc))) { h with views := ?_ }
   obtain ⟨hcurrent,houter⟩:=List.cons.inj h.views
   refine congrArg₂ (· :: ·) ?_ houter
   simp only [Scope.view,List.map_append] at hcurrent ⊢
   rw [hcurrent]
   rfl

lemma declareTag (h:c.Alike d) (tag:Ident) (t:Tag) :
  Tracks .identity Alike (fun _ => Alike) (declareTag tag t c) (declareTag tag t d) := by
 have hlocal:d.symbols.current.tag? tag.name = _:=h.tagLocal? tag.name
 by_cases hc : (c.symbols.current.tag? tag.name).isSome = true
 · exact tracks_error ((SymbolTable.declareTag_eq _ _ _ _).trans (if_pos hc))
    ((SymbolTable.declareTag_eq _ _ _ _).trans (if_pos (hlocal ▸ hc))) h
 · refine tracks_ok ((SymbolTable.declareTag_eq _ _ _ _).trans (if_neg hc))
    ((SymbolTable.declareTag_eq _ _ _ _).trans (if_neg (hlocal ▸ hc))) { h with tags := ?_ }
   obtain ⟨hcurrent,houter⟩:=List.cons.inj h.tags
   exact congrArg₂ (· :: ·) (congrArg ((tag.name,t) :: ·) hcurrent) houter

end Checker.Alike

def unmarked : Coupling .identity fun _ _ => True where
 rel := Checker.Alike
 failed _ := Checker.Alike
 recover := id
 refuse h _ _ _ := h
 unknown h _ _ _ _ := h
 lookup? h name _ _ := h.lookup? name
 level h := h.level
 tag? h := h.tag?
 tagLocal? h := h.tagLocal?
 records h := h.records
 definedRecord h _ := by rw [h.definedRecords]; rfl
 definedEnum h _ := by rw [h.definedEnums]; rfl
 markUsed {c d} h name _ := ((Checker.Alike.markUsed c name).symm.trans h).trans (.markUsed d name)
 declareConstant h name _ := h.declareConstant name
 declareTag h := h.declareTag
 setRecords h := h.setRecords
 addCall {c d} h x := ((Checker.Alike.addCall c x).symm.trans h).trans (.addCall d _)
 addDefinedRecord h _ _ := { h with definedRecords := by rw [h.definedRecords]; rfl }
 addDefinedEnum h _ := { h with definedEnums := by rw [h.definedEnums]; rfl }

/-! ### States that know more tags -/

def Checker.TagsBound (c:Checker) : Prop :=
 ∀ name id, c.symbols.tag? name = some (.record id) → id < c.records.size

/-- The second state knows what the first one knows, and perhaps the tags of more structs and unions
without members. -/
structure Checker.Widens (c d:Checker) : Prop where
 views : d.symbols.views Symbol.sense = c.symbols.views Symbol.sense
 level : d.symbols.level = c.symbols.level
 records : ∃ new, d.records.records = c.records.records ++ new ∧ ∀ r ∈ new, r.fields = none
 tag? : ∀ {name t}, c.symbols.tag? name = some t → d.symbols.tag? name = some t
 fresh : ∀ {name t}, c.symbols.tag? name = none → d.symbols.tag? name = some t →
  ∃ id < d.records.size, t = .record id
 same : d.records = c.records → c.Alike d

namespace Checker

variable {c d e:Checker}

lemma Alike.widens (h:c.Alike d) : c.Widens d where
 views := h.views
 level := h.level
 records := ⟨[],by rw [h.records,List.append_nil],List.forall_mem_nil _⟩
 tag? {name t} ht := by rw [h.tag?,ht]
 fresh {name t} hnone ht := by
  rw [h.tag?,hnone] at ht
  cases ht
 same _ := h

namespace Widens

lemma size_le (h:c.Widens d) : c.records.size ≤ d.records.size := by
 obtain ⟨new,hnew,-⟩:=h.records
 unfold Registry.size
 rw [hnew,List.length_append]
 exact Nat.le_add_right _ _

lemma get? (h:c.Widens d) {id:Nat} (hid:id < c.records.size) :
  d.records.get? id = c.records.get? id := by
 obtain ⟨new,hnew,-⟩:=h.records
 unfold Registry.get?
 rw [hnew,List.getElem?_append_left hid]

lemma records_eq (h:c.Widens d) (h':d.Widens e) (hrecords:e.records = c.records) :
  d.records = c.records := by
 obtain ⟨new,hnew,-⟩:=h.records
 obtain ⟨new',hnew',-⟩:=h'.records
 rw [hnew,List.append_assoc,hrecords] at hnew'
 obtain ⟨rfl,-⟩:=List.append_eq_nil_iff.mp (List.append_right_eq_self.mp hnew'.symm)
 exact congrArg Registry.mk (hnew.trans (List.append_nil _))

lemma trans (h:c.Widens d) (h':d.Widens e) : c.Widens e where
 views := h'.views.trans h.views
 level := h'.level.trans h.level
 records := by
  obtain ⟨new,hnew,hfields⟩:=h.records
  obtain ⟨new',hnew',hfields'⟩:=h'.records
  refine ⟨new ++ new',by rw [hnew',hnew,List.append_assoc],?_⟩
  exact List.forall_mem_append.mpr ⟨hfields,hfields'⟩
 tag? ht := h'.tag? (h.tag? ht)
 fresh {name t} hnone ht := by
  cases hd : d.symbols.tag? name with
  | none => exact h'.fresh hd ht
  | some u =>
   obtain ⟨id,hid,rfl⟩:=h.fresh hnone hd
   exact ⟨id,Nat.lt_of_lt_of_le hid h'.size_le,Option.some.inj (ht.symm.trans (h'.tag? hd))⟩
 same hrecords := by
  have hcd:=h.records_eq h' hrecords
  exact (h.same hcd).trans (h'.same (hrecords.trans hcd.symm))

lemma tagsBound (h:c.Widens d) (hc:c.TagsBound) : d.TagsBound := by
 intro name id hd
 cases ht : c.symbols.tag? name with
 | none =>
  obtain ⟨id',hid,heq⟩:=h.fresh ht hd
  cases heq
  exact hid
 | some t =>
  cases (h.tag? ht).symm.trans hd
  exact Nat.lt_of_lt_of_le (hc name id ht) h.size_le

lemma lookup? (h:c.Widens d) (name:String) :
  (d.symbols.lookup? name).map Symbol.sense = (c.symbols.lookup? name).map Symbol.sense := by
 rw [SymbolTable.map_lookup?,SymbolTable.map_lookup?,h.views]

lemma extends_right (h:c.Widens d) : d.records.Extends c.records :=
 fun id r hr _ => by
  rw [h.get? (List.getElem?_eq_some_iff.mp hr).1,hr]

lemma extends_left (h:c.Widens d) : c.records.Extends d.records := by
 intro id r hr hcomplete
 by_cases hid : id < c.records.size
 · rw [← h.get? hid,hr]
 · obtain ⟨new,hnew,hfields⟩:=h.records
   unfold Registry.get? at hr
   rw [hnew,List.getElem?_append_right (Nat.le_of_not_lt hid)] at hr
   rw [RecordDef.isComplete,hfields r (List.mem_of_getElem? hr)] at hcomplete
   cases hcomplete

lemma sees (h:c.Widens d) : c.Sees d := ⟨h.extends_right,h.extends_left,h.level⟩

end Widens

end Checker

/-! ### Rules that look at the state -/

def Check.Inspects (x:Check α) : Prop :=
 ∀ c d, c.Widens d → ∃ o, x.outcome c = (o,c) ∧ x.outcome d = (o,d)

namespace Check.Inspects

lemma pure (a:α) : Inspects (pure a) := fun _ _ _ => ⟨some a,rfl,rfl⟩

lemma of_none {x:Check α} (h:∀ c, x.outcome c = (none,c)) : Inspects x :=
 fun c d _ => ⟨none,h c,h d⟩

lemma fail (cause:Cause) (span:Span) : Inspects (Check.fail cause span:Check α) :=
 of_none fun _ => rfl

lemma failNaming (t:CType) (cause:String → Cause) (span:Span) :
  Inspects (typeName t >>= fun a => (Check.fail (cause a) span : Check α)) :=
 of_none fun _ => rfl

lemma failNamingBoth (t u:CType) (cause:String → String → Cause) (span:Span) :
  Inspects (typeName t >>= fun a => typeName u >>= fun b =>
   (Check.fail (cause a b) span : Check α)) :=
 of_none fun _ => rfl

lemma bind {x:Check α} {k:α → Check β} (hx:Inspects x) (hk:∀ a, Inspects (k a)) :
  Inspects (x >>= k) := by
 intro c d hcd
 obtain ⟨o,hc,hd⟩:=hx c d hcd
 cases o with
 | none => exact ⟨none,outcome_bind_none hc,outcome_bind_none hd⟩
 | some a =>
  rw [outcome_bind_some hc,outcome_bind_some hd]
  exact hk a c d hcd

lemma lookup {name:String} {k:Option Symbol → Check α} (hnone:Inspects (k none))
  (hsome:∀ x, Inspects (k (some x)))
  (hsame:∀ x y : Symbol, y.kind = x.kind → y.type = x.type → k (some y) = k (some x)) :
  Inspects (lookup? name >>= k) := by
 intro c d hcd
 have hsense:=hcd.lookup? name
 change ∃ o, (k (c.symbols.lookup? name)).outcome c = (o,c) ∧
  (k (d.symbols.lookup? name)).outcome d = (o,d)
 cases hc : c.symbols.lookup? name with
 | none =>
  rw [hc] at hsense
  rw [Option.map_eq_none_iff.mp hsense]
  exact hnone c d hcd
 | some x =>
  rw [hc] at hsense
  obtain ⟨y,hy,hxy⟩:=Option.map_eq_some_iff.mp hsense
  rw [hy,hsame x y (congrArg Prod.fst hxy) (congrArg Prod.snd hxy)]
  exact hsome x c d hcd

end Check.Inspects

open Check.Inspects (failNaming failNamingBoth)

lemma inspects_identType (i:Ident) : Inspects (identType i) := by
 refine .lookup ?_ (fun x => ?_) fun x y hkind htype => ?_
 · dsimp only
   split
   · exact .pure _
   · exact .fail _ _
 · dsimp only
   split
   iterate 3 exact .pure _
   iterate 2 exact .fail _ _
 · simp only [hkind,htype]

lemma inspects_designatesObject (e:Expr) : Inspects (designatesObject e) := by
 cases e with
 | ident i =>
  refine .lookup (.pure _) (fun x => .pure _) fun x y hkind _ => ?_
  simp only [Option.any_some,hkind]
 | _ => exact .pure _

lemma inspects_modifiable (e:Expr) (t:CType) : Inspects (modifiable e (pure t)) := by
 refine Check.Inspects.bind (.pure t) fun t => (inspects_designatesObject e).bind fun b => ?_
 split
 · exact .fail _ _
 · split
   · exact failNaming _ _ _
   · exact .pure _

lemma outcome_referEnum (tag:Ident) (c:Checker) :
  (referEnum (some tag)).outcome c =
   (if c.symbols.tag? tag.name = some .enum then some () else none,c) := by
 rw [referEnum,outcome_bind_some (outcome_look c)]
 obtain _ | _ | _:=c.symbols.tag? tag.name <;> rfl

lemma inspects_referEnum (tag:Option Ident) : Inspects (referEnum tag) := by
 cases tag with
 | none => exact .pure _
 | some tag =>
  intro c d hcd
  refine ⟨_,outcome_referEnum tag c,?_⟩
  rw [outcome_referEnum]
  cases hc : c.symbols.tag? tag.name with
  | some t => rw [hcd.tag? hc]
  | none =>
   cases hd : d.symbols.tag? tag.name with
   | none => rfl
   | some t =>
    obtain ⟨id,-,rfl⟩:=hcd.fresh hc hd
    rfl

/-! ### Steps that can be repeated -/

lemma ok_of_outcome {x:Check α} {c d:Checker} {a:α} (h:x.outcome c = (some a,d)) :
  x c = .ok a d := by
 unfold Check.outcome at h
 cases hx : x c with
 | ok b e =>
  rw [hx] at h
  cases h
  rfl
 | error f e =>
  rw [hx] at h
  cases h

lemma returns_of_outcome {x:Check α} {c d:Checker} {a:α} (h:x.outcome c = (some a,d)) :
  x.Returns a := ⟨c,d,ok_of_outcome h⟩

lemma outcome_attempt (x:Check α) (k:Except Fault α → Check β) (c:Checker) :
  ∃ r, (attempt x >>= k).outcome c = (k r).outcome (x.outcome c).2 ∧
   ((∃ a, (x.outcome c).1 = some a ∧ r = .ok a) ∨
    (x.outcome c).1 = none ∧ ∃ f, r = .error f) := by
 unfold Check.outcome attempt
 simp only [bind,EStateM.bind]
 cases x c with
 | ok a d => exact ⟨.ok a,rfl,.inl ⟨a,rfl,rfl⟩⟩
 | error f d => exact ⟨.error f,rfl,.inr ⟨rfl,f,rfl⟩⟩

/-- The step only makes more tags known, and answers the same when it is taken again in a state
that knows them. -/
structure Check.Repeats (x:Check α) : Prop where
 widens : ∀ c : Checker, c.TagsBound → c.Widens (x.outcome c).2
 again : ∀ c d : Checker, c.TagsBound → (x.outcome c).2.Widens d →
  ∃ e, x.outcome d = ((x.outcome c).1,e) ∧ d.Alike e

namespace Check.Repeats

variable {x:Check α} {k:α → Check β}

lemma of_inspects (h:Inspects x) : Repeats x where
 widens c _ := by
  obtain ⟨o,hc,-⟩:=h c c (Checker.Alike.refl c).widens
  rw [hc]
  exact (Checker.Alike.refl c).widens
 again c d _ hcd := by
  obtain ⟨o,hc,-⟩:=h c c (Checker.Alike.refl c).widens
  rw [hc] at hcd ⊢
  obtain ⟨o',hc',hd⟩:=h c d hcd
  cases hc.symm.trans hc'
  exact ⟨d,hd,.refl d⟩

lemma pure (a:α) : Repeats (pure a) := of_inspects (.pure a)

lemma of_alike {a:α} (h:∀ c, ∃ d, x.outcome c = (some a,d) ∧ c.Alike d) : Repeats x where
 widens c _ := by
  obtain ⟨d,hd,halike⟩:=h c
  rw [hd]
  exact halike.widens
 again c d _ _ := by
  obtain ⟨_,hc,-⟩:=h c
  obtain ⟨e,hd,halike⟩:=h d
  exact ⟨e,by rw [hd,hc],halike⟩

lemma andThen (hx:Repeats x) (hk:∀ a, x.Returns a → Repeats (k a)) : Repeats (x >>= k) where
 widens c hc := by
  have hwidens:=hx.widens c hc
  cases h : x.outcome c with
  | mk o d =>
   rw [h] at hwidens
   cases o with
   | none => rwa [outcome_bind_none h]
   | some a =>
    rw [outcome_bind_some h]
    exact hwidens.trans ((hk a (returns_of_outcome h)).widens d (hwidens.tagsBound hc))
 again c d hc hcd := by
  have hwidens:=hx.widens c hc
  have hagain:=hx.again c
  cases h : x.outcome c with
  | mk o e =>
   rw [h] at hwidens hagain
   cases o with
   | none =>
    rw [outcome_bind_none h] at hcd ⊢
    obtain ⟨d',hd,halike⟩:=hagain d hc hcd
    exact ⟨d',outcome_bind_none hd,halike⟩
   | some a =>
    rw [outcome_bind_some h] at hcd ⊢
    have hrest:=hk a (returns_of_outcome h)
    have he:=hwidens.tagsBound hc
    obtain ⟨d',hd,halike⟩:=hagain d hc ((hrest.widens e he).trans hcd)
    obtain ⟨d'',hd',halike'⟩:=hrest.again e d' he (hcd.trans halike.widens)
    exact ⟨d'',by rw [outcome_bind_some hd,hd'],halike.trans halike'⟩

lemma bind (hx:Repeats x) (hk:∀ a, Repeats (k a)) : Repeats (x >>= k) := hx.andThen fun a _ => hk a

lemma view (k:Checker → Check α) (hk:∀ c, Repeats (k c)) (hx:∀ c, x c = k c c)
  (hsame:∀ c d, c.Widens d → k d = k c) : Repeats x := by
 have hrun:∀ c, x.outcome c = (k c).outcome c:=fun c => by rw [outcome,outcome,hx]
 refine ⟨fun c hc => ?_,fun c d hc hcd => ?_⟩
 · rw [hrun]
   exact (hk c).widens c hc
 · rw [hrun] at hcd
   rw [hrun,hrun,hsame c d (((hk c).widens c hc).trans hcd)]
   exact (hk c).again c d hc hcd

lemma attempt {k:Except Fault α → Check β} (hx:Repeats x) (hk:∀ r, Repeats (k r))
  (hsame:∀ f g, k (.error f) = k (.error g)) :
  Repeats (Check.attempt x >>= k) where
 widens c hc := by
  obtain ⟨r,hr,-⟩:=outcome_attempt x k c
  rw [hr]
  have hwidens:=hx.widens c hc
  exact hwidens.trans ((hk r).widens _ (hwidens.tagsBound hc))
 again c d hc hcd := by
  obtain ⟨r,hr,hanswer⟩:=outcome_attempt x k c
  obtain ⟨r',hr',hanswer'⟩:=outcome_attempt x k d
  rw [hr] at hcd ⊢
  rw [hr']
  have hbound:=(hx.widens c hc).tagsBound hc
  obtain ⟨e,he,halike⟩:=hx.again c d hc (((hk r).widens _ hbound).trans hcd)
  obtain ⟨e',he',halike'⟩:=(hk r).again _ e hbound (hcd.trans halike.widens)
  refine ⟨e',?_,halike.trans halike'⟩
  rw [he] at hanswer' ⊢
  rw [← he']
  rcases hanswer with ⟨a,ha,rfl⟩ | ⟨hnone,f,rfl⟩
  · rcases hanswer' with ⟨b,hb,rfl⟩ | ⟨hnone,-⟩
    · cases ha.symm.trans hb
      rfl
    · cases ha.symm.trans hnone
  · rcases hanswer' with ⟨b,hb,-⟩ | ⟨-,g,rfl⟩
    · cases hnone.symm.trans hb
    · rw [hsame g f]

lemma value {x:Check CType} (h:Repeats x) : Repeats (value x) := h.bind fun _ => .pure _

end Check.Repeats

open Check.Repeats (of_inspects)

/-! ### Tags -/

def Checker.addTag (c:Checker) (kind:RecordKind) (name:String) : Checker :=
 { c with
   records := (c.records.declare kind (some name)).2
   symbols := { c.symbols with current := { c.symbols.current with
    tags := (name,.record c.records.size) :: c.symbols.current.tags } } }

section

variable {c:Checker} {name:String}

lemma Checker.tag?_addTag (c:Checker) (kind:RecordKind) (name other:String) :
  (c.addTag kind name).symbols.tag? other =
   if other = name then some (.record c.records.size) else c.symbols.tag? other := by
 unfold Checker.addTag SymbolTable.tag? SymbolTable.scopes Scope.tag?
 dsimp only
 rw [List.findSome?_cons,List.findSome?_cons,List.lookup_cons]
 by_cases h : other = name
 · rw [if_pos h,h,beq_self_eq_true]
 · rw [if_neg h,beq_false_of_ne h]

lemma Checker.widens_addTag (kind:RecordKind) (h:c.symbols.tag? name = none) :
  c.Widens (c.addTag kind name) where
 views := rfl
 level := rfl
 records := ⟨[⟨kind,some name,none,0,1⟩],rfl,List.forall_mem_singleton.mpr rfl⟩
 tag? {other t} ht := by
  rw [tag?_addTag,if_neg,ht]
  rintro rfl
  cases h.symm.trans ht
 fresh {other t} hnone ht := by
  rw [tag?_addTag] at ht
  split at ht
  · cases ht
    exact ⟨_,by simp [addTag,Registry.declare,Registry.size],rfl⟩
  · cases hnone.symm.trans ht
 same hrecords := by
  have hsize:=congrArg Registry.size hrecords
  simp [addTag,Registry.declare,Registry.size] at hsize

lemma outcome_newTaggedRecord (kind:RecordKind) (tag:Ident)
  (h:c.symbols.tag? tag.name = none) :
  (newTaggedRecord kind tag).outcome c = (some c.records.size,c.addTag kind tag.name) := by
 have hnew:newRecord kind (some tag.name) c = .ok c.records.size
   { c with records := (c.records.declare kind (some tag.name)).2 } := rfl
 have hlocal:c.symbols.current.tag? tag.name = none:=
  List.findSome?_eq_none_iff.mp h _ List.mem_cons_self
 unfold Check.outcome newTaggedRecord
 simp only [bind,EStateM.bind,hnew,Check.declareTag,updateSymbols,
  SymbolTable.declareTag_eq,hlocal]
 rfl

lemma outcome_referRecord {kind:RecordKind} {tag:Ident} {id:Nat}
  (h:c.symbols.tag? tag.name = some (.record id)) :
  (referRecord kind (some tag)).outcome c =
   (if (c.records.get? id).any (·.kind != kind) then none else some id,c) := by
 rw [referRecord,outcome_bind_some (outcome_look c),h]
 dsimp only
 rw [outcome_bind_some (outcome_look c)]
 cases (c.records.get? id).any (·.kind != kind) <;> rfl

lemma outcome_referRecord_enum (kind:RecordKind) {tag:Ident}
  (h:c.symbols.tag? tag.name = some .enum) :
  (referRecord kind (some tag)).outcome c = (none,c) := by
 rw [referRecord,outcome_bind_some (outcome_look c),h]
 rfl

lemma outcome_referRecord_new (kind:RecordKind) {tag:Ident}
  (h:c.symbols.tag? tag.name = none) :
  (referRecord kind (some tag)).outcome c = (some c.records.size,c.addTag kind tag.name) := by
 rw [referRecord,outcome_bind_some (outcome_look c),h]
 exact outcome_newTaggedRecord kind tag h

end

lemma repeats_referRecord (kind:RecordKind) (tag:Ident) :
  Repeats (referRecord kind (some tag)) where
 widens c _ := by
  obtain h | h | ⟨id,h⟩:=c.symbols.tag?_cases tag.name
  · rw [outcome_referRecord_new kind h]
    exact Checker.widens_addTag kind h
  · rw [outcome_referRecord_enum kind h]
    exact (Checker.Alike.refl c).widens
  · rw [outcome_referRecord h]
    exact (Checker.Alike.refl c).widens
 again c d hc hcd := by
  obtain h | h | ⟨id,h⟩:=c.symbols.tag?_cases tag.name
  · rw [outcome_referRecord_new kind h] at hcd ⊢
    have htag:=hcd.tag? ((c.tag?_addTag kind tag.name tag.name).trans (if_pos rfl))
    have hget:d.records.get? c.records.size = some ⟨kind,some tag.name,none,0,1⟩ := by
     rw [hcd.get? (by simp [Checker.addTag,Registry.declare,Registry.size])]
     exact List.getElem?_concat_length ..
    refine ⟨d,?_,.refl d⟩
    rw [outcome_referRecord htag,hget]
    simp
  · rw [outcome_referRecord_enum kind h] at hcd ⊢
    exact ⟨d,outcome_referRecord_enum kind (hcd.tag? h),.refl d⟩
  · rw [outcome_referRecord h] at hcd ⊢
    refine ⟨d,?_,.refl d⟩
    rw [outcome_referRecord (hcd.tag? h),hcd.get? (hc _ _ h)]

/-! ### Trees -/

def Piece.isReference : Piece → Bool
 | .form (.record spec) => spec.tag.isSome && spec.members.isNone
 | .form (.enum spec) => spec.enumerators.isNone
 | _ => true

inductive Piece.Refers : Piece → Prop
 | intro {x:Piece} (here:x.isReference = true) (inner:∀ y ∈ x.children, y.Refers) : x.Refers

lemma Piece.Refers.child {x y:Piece} (h:x.Refers) (hy:y ∈ x.children) : y.Refers := by
 obtain ⟨-,inner⟩:=h
 exact inner y hy

lemma Piece.Refers.here {x:Piece} (h:x.Refers) : x.isReference = true := by
 obtain ⟨here,-⟩:=h
 exact here

def repeating : StepLogic .identity where
 Holds _ _ x y _ := y = x ∧ Repeats x
 tracks := False
 Known _ := True
 pure _ := ⟨rfl,.pure _⟩
 fail _ _ := ⟨rfl,of_inspects (.fail _ _)⟩
 failNaming _ _ _ _ := ⟨rfl,of_inspects (failNaming _ _ _)⟩
 failNamingBoth _ _ _ _ _ := ⟨rfl,of_inspects (failNamingBoth _ _ _ _)⟩
 bind {_ _ _ _ _ _ x} _ _ _ _ h hk := by
  obtain ⟨rfl,hx⟩:=h
  refine ⟨funext fun c => ?_,hx.andThen fun a ha => (hk a ha).2⟩
  simp only [Bind.bind,EStateM.bind]
  cases hrun : x c with
  | ok a d => exact congrFun (hk a ⟨c,d,hrun⟩).1 d
  | error f d => rfl
 weaken h _ _ := h
 look {_ _ _ k} _ _ _ _ h := by
  refine ⟨funext fun c => congrFun (h c c (.refl c)).1 c,?_⟩
  refine .view k (fun c => (h c c (.refl c)).2) (fun _ => rfl) fun c d hcd => ?_
  exact (h d d (.refl d)).1.symm.trans (h c d hcd.sees).1
 lookup {_ _ _ name k l _} _ hnone hsome := by
  have hall:∀ x, l x = k x ∧ Repeats (k x):=fun x => by
   cases x with
   | none => exact hnone
   | some x => exact hsome x x rfl rfl
  refine ⟨funext fun c => congrFun (hall _).1 c,?_⟩
  refine .view (fun c => k (c.symbols.lookup? name)) (fun c => (hall _).2) (fun _ => rfl) ?_
  intro c d hcd
  have hsense:=hcd.lookup? name
  cases hc : c.symbols.lookup? name with
  | none =>
   rw [hc] at hsense
   rw [Option.map_eq_none_iff.mp hsense]
  | some x =>
   rw [hc] at hsense
   obtain ⟨y,hy,hxy⟩:=Option.map_eq_some_iff.mp hsense
   rw [hy,← (hall (some y)).1]
   exact (hsome x y (congrArg Prod.fst hxy) (congrArg Prod.snd hxy)).1
 attempt {_ _ _ _ _ x _ k l _} h hok herror := by
  obtain ⟨rfl,hx⟩:=h
  have hall:∀ r, l r = k r ∧ Repeats (k r):=fun r => by
   cases r with
   | ok a => exact hok a
   | error e => exact herror e e
  have hl:l = k:=funext fun r => (hall r).1
  exact ⟨by rw [hl],hx.attempt (fun r => (hall r).2) fun f g =>
   (herror f g).1.symm.trans (herror g g).1⟩

lemma repeating_names : repeating.Names where
 misread _ _ := ⟨rfl,of_inspects (.fail _ _)⟩
 markUsed _ := ⟨rfl,.of_alike fun c => ⟨_,rfl,.markUsed c _⟩⟩
 recordCall _ _ := ⟨rfl,.of_alike fun c => ⟨_,rfl,.addCall c _⟩⟩

def Piece.Repeatable (p:Piece) : Prop := p.Refers ∧ ∀ e, p ≠ .enumerator e

lemma Piece.Refers.expr {e:Expr} (h:(Piece.expr e).Refers) : (Piece.expr e).Repeatable :=
 ⟨h,nofun⟩

lemma Piece.Repeatable.child {p q:Piece} (h:p.Repeatable) (hq:q ∈ p.children) : q.Repeatable := by
 refine ⟨h.1.child hq,?_⟩
 have hhere:=h.1.here
 revert q hhere
 fun_cases Piece.children p
 all_goals simp only [Piece.isReference]
 case case18 spec =>
  intro q hq hhere e
  rw [Option.isNone_iff_eq_none.mp hhere] at hq
  cases hq
 all_goals simp +contextual [or_imp,forall_and]

def repetition : TermLogic .identity where
 __ := repeating
 Admits := Piece.Repeatable
 child h := h.child
 known _ := trivial
 identType _ := repeating_names.identType (κ := []) (μ := []) trivial
 ident _ := repeating_names.ident (κ := []) (μ := []) trivial
 calleeType _ hx span :=
  repeating_names.calleeType (κ := []) (μ := []) (fun _ _ => trivial) (hx (κ := [])) span
 namedType _ span := repeating.lookup (κ := []) (μ := []) (f := fun _ => []) trivial
  ⟨rfl,of_inspects (.fail _ _)⟩ fun x y hkind htype => by
   simp only [hkind,htype]
   exact .ite .done ⟨rfl,of_inspects (.fail _ _)⟩
 referRecord {_ _ kind tag _} h := by
  cases tag with
  | none => cases h.1.here
  | some tag => exact ⟨rfl,repeats_referRecord kind tag⟩
 defineRecord h := absurd h.1.here (by simp [Piece.isReference])
 referEnum {_ _ tag _} _ := ⟨by cases tag <;> rfl,of_inspects (inspects_referEnum tag)⟩
 defineEnum h := absurd h.1.here Bool.false_ne_true
 declareConstant h := absurd rfl (h.2 _)

section

variable {e:Expr} (h:(Piece.expr e).Refers)
include h

lemma repeats_checkExpr : Repeats (checkExpr e) :=
 (repetition.checkExpr (κ := []) (Piece.Refers.expr h)).2

lemma repeats_evalConst : Repeats (evalConst e) :=
 (repetition.evalConst (κ := []) (Piece.Refers.expr h)).2

end

lemma repeats_isNull (e:Expr) (t:CType) {x:Check Int64} (h:Repeats x) : Repeats (isNull e t x) :=
 (StepLogic.Holds.isNull (L := repeating) (κ := []) (μ := []) e t ⟨rfl,h⟩).2

lemma repeats_condition (e:Expr) {x:Check CType} (h:Repeats x) : Repeats (condition e x) :=
 (StepLogic.Holds.condition (L := repeating) (κ := []) (μ := []) e ⟨rfl,h⟩).2

end CCheck
