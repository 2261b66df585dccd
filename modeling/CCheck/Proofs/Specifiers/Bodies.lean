import CCheck.Proofs.Specifiers.Completion

/-! # The bodies of specifiers

If the body of a specifier is gone through, the record is complete and has the members of the
specifier, or the enumerators are declared. -/

set_option autoImplicit false

namespace CCheck

open Check
open Site (topsAll sureAll lostAll)

variable {es:List Enumerator} {fields:List (String × CType)} {id:Nat} {members:List Member}
 {p p':Registry.Placement} {span:Span} {tag:Option Ident}

namespace Setting

variable {Γ:Setting} {inSize:Bool} {pre:List Node} {c d:Checker}

/-! ### Records -/

lemma newTaggedRecord_cases (hc:Γ.Fits c) (kind:RecordKind) (tag:Ident) :
  (∃ d, newTaggedRecord kind tag c = .ok c.records.size d ∧ Γ.Calm c d ∧
   d.records = (c.records.declare kind (some tag.name)).2 ∧
   d.symbols.tagLocal? tag.name = some (.record c.records.size)) ∨
  ∃ f d, newTaggedRecord kind tag c = .error f d ∧ Γ.Calm c d := by
 have hnew:newRecord kind (some tag.name) c = .ok c.records.size
   { c with records := (c.records.declare kind (some tag.name)).2 } := rfl
 have hcalm:Γ.Calm c { c with records := (c.records.declare kind (some tag.name)).2 }:=
  .setRecords hc (.declare _ _ _)
 unfold newTaggedRecord
 simp only [Bind.bind,EStateM.bind,hnew,declareTag,updateSymbols]
 cases h : c.symbols.declareTag tag.name (.record c.records.size) tag.span with
 | error f => exact .inr ⟨f,_,rfl,hcalm⟩
 | ok t =>
  refine .inl ⟨_,rfl,hcalm.trans (.setSymbols hcalm.fits (.declareTag h) ?_),rfl,?_⟩
  · refine hcalm.fits.tags.declareTag h fun id hid => ?_
    cases hid
    exact ⟨_,List.getElem?_concat_length,rfl⟩
  · rw [SymbolTable.declareTag_eq] at h
    split at h
    · cases h
    · cases h
      exact List.lookup_cons_self

lemma Calms.newTaggedRecord (kind:RecordKind) (tag:Ident) :
  Γ.Calms (newTaggedRecord kind tag) := by
 intro c hc
 unfold Check.after
 obtain ⟨d,hd,hcalm,-⟩ | ⟨f,d,hd,hcalm⟩:=newTaggedRecord_cases hc kind tag
 · rw [hd]
   exact hcalm
 · rw [hd]
   exact hcalm

lemma Calms.newRecord (kind:RecordKind) (tag:Option String) : Γ.Calms (newRecord kind tag) :=
 fun c hc => .setRecords hc (.declare c.records kind tag)

lemma Calms.referRecord (kind:RecordKind) (tag:Option Ident) :
  Γ.Calms (referRecord kind tag) := by
 cases tag with
 | none => exact newRecord kind none
 | some tag =>
  refine get fun c => ?_
  split
  · refine get fun c => ?_
    split
    · exact look (.fail rfl _)
    · exact look (.pure _)
  · exact look (.fail rfl _)
  · exact newTaggedRecord kind tag

/-- A record that a definition may complete: it is incomplete, it has the kind and the tag of the
definition, and the tag stands for it in the current scope. -/
structure Opened (kind:RecordKind) (tag:Option Ident) (id:Nat) (c:Checker) : Prop where
 record : ∃ r, c.records.get? id = some r ∧ r.kind = kind ∧ r.tag = tag.map (·.name) ∧
  r.isComplete = false
 tagged : ∀ t, tag = some t → c.symbols.tagLocal? t.name = some (.record id)

inductive OpenEnds (Γ:Setting) (kind:RecordKind) (tag:Option Ident) (c:Checker) :
  EStateM.Result Fault Checker Nat → Prop
 | ok {id:Nat} {d:Checker} (calm:Γ.Calm c d) (opened:Opened kind tag id d) :
   OpenEnds Γ kind tag c (.ok id d)
 | error {f:Fault} {d:Checker} (calm:Γ.Calm c d) : OpenEnds Γ kind tag c (.error f d)

lemma OpenEnds.get {kind:RecordKind} {k:Checker → Check Nat}
  (h:Γ.OpenEnds kind tag c (k c c)) : Γ.OpenEnds kind tag c ((MonadState.get >>= k) c) := h

lemma openEnds_openRecord (hc:Γ.Fits c) (kind:RecordKind) (tag:Option Ident) :
  Γ.OpenEnds kind tag c (openRecord kind tag c) := by
 cases tag with
 | none =>
  refine .ok (.setRecords hc (.declare c.records kind none)) ⟨?_,fun _ ht => nomatch ht⟩
  exact ⟨_,List.getElem?_concat_length,rfl,rfl,rfl⟩
 | some tag =>
  refine .get ?_
  cases htag : c.symbols.tagLocal? tag.name with
  | none =>
   obtain ⟨d,hd,hcalm,hrecords,htag⟩ | ⟨f,d,hd,hcalm⟩:=newTaggedRecord_cases hc kind tag
   · dsimp only
     rw [hd]
     have hget:d.records.get? c.records.size = some ⟨kind,some tag.name,none,0,1⟩ := by
      rw [hrecords]
      exact List.getElem?_concat_length
     refine .ok hcalm ⟨⟨_,hget,rfl,rfl,rfl⟩,fun t ht => ?_⟩
     · cases ht
       exact htag
   · dsimp only
     rw [hd]
     exact .error hcalm
  | some t =>
   refine .get ?_
   cases t with
   | enum => exact .error (.refl hc)
   | record id =>
    obtain ⟨r,hr,hname⟩:=hc.tags _ List.mem_cons_self tag.name id htag
    dsimp only
    rw [hr,Option.any_some]
    cases hopen : r.kind == kind && !r.isComplete with
    | false => exact .error (.refl hc)
    | true =>
     rw [Bool.and_eq_true,beq_iff_eq,Bool.not_eq_true'] at hopen
     refine .ok (.refl hc) ⟨⟨r,hr,hopen.1,hname,hopen.2⟩,fun t ht => ?_⟩
     cases ht
     exact htag

end Setting

/-! ### Members -/

namespace Registry

variable {r r':Registry} {kind:RecordKind}

lemma names_place {name:String} {type:CType}
  (h:r.place kind p name type = .ok p') :
  p'.fields.map (·.name) = p.fields.map (·.name) ++ [name] := by
 unfold place at h
 split at h
 · cases h
 · dsimp only at h
   split at h
   · split at h
     · cases h
     · split at h
       · cases h
       · cases h
         rw [List.map_append,List.map_singleton]
   · cases h
     rw [List.map_append,List.map_singleton]

lemma names_placeAll {members:List (String × CType)}
  (h:r.placeAll kind p members = .ok p') :
  p'.fields.map (·.name) = p.fields.map (·.name) ++ members.map (·.1) := by
 induction members generalizing p with
 | nil =>
  cases h
  rw [List.map_nil,List.append_nil]
 | cons m ms ih =>
  obtain ⟨name,type⟩:=m
  rw [placeAll] at h
  cases hplace : r.place kind p name type with
  | error flaw =>
   rw [hplace] at h
   cases h
  | ok q =>
   rw [hplace] at h
   rw [ih h,names_place hplace,List.append_assoc,List.map_cons,List.singleton_append]

lemma names_complete {members:List (String × CType)} {d:RecordDef}
  (h:r.complete id members = .ok r') (hd:r.get? id = some d) :
  d.isComplete = false ∧ ∃ new fields, r'.get? id = some new ∧ new.kind = d.kind ∧
   new.tag = d.tag ∧ new.fields = some fields ∧ fields.map (·.name) = members.map (·.1) := by
 unfold complete at h
 rw [hd] at h
 dsimp only at h
 split at h
 · cases h
 · rename_i hcomplete
   split at h
   · cases h
   · rename_i p hplace
     split at h
     · cases h
     · cases h
       refine ⟨(Bool.not_eq_true _).mp hcomplete,_,_,
        List.getElem?_set_self (List.getElem?_eq_some_iff.mp hd).1,rfl,rfl,rfl,?_⟩
       exact names_placeAll hplace

end Registry

lemma names_resolveMembers {ms:List Member} {seen:List String}
  {c d:Checker} (h:resolveMembers seen ms c = .ok fields d) :
  fields.map (·.1) = ms.map (·.name.name) ∧ (ms.map (·.name.name)).Nodup ∧
   ∀ m ∈ ms, m.name.name ∉ seen := by
 induction ms generalizing seen fields c with
 | nil =>
  cases h
  exact ⟨rfl,List.Pairwise.nil,fun _ hm => nomatch hm⟩
 | cons m ms ih =>
  obtain ⟨name,type,span⟩:=m
  rw [resolveMembers] at h
  obtain ⟨_,c₁,hfresh,h⟩:=bind_eq_ok h
  obtain ⟨t,c₂,-,h⟩:=bind_eq_ok h
  obtain ⟨_,c₃,-,h⟩:=bind_eq_ok h
  obtain ⟨rest,c₄,hrest,h⟩:=bind_eq_ok h
  cases h
  obtain ⟨hnames,hnodup,hseen⟩:=ih hrest
  have hname:name.name ∉ seen := by
   unfold freshMember at hfresh
   split at hfresh
   · cases hfresh
   · rename_i hcontains
     rwa [List.contains_iff_mem] at hcontains
  refine ⟨congrArg (name.name :: ·) hnames,List.nodup_cons.mpr ⟨fun hmem => ?_,hnodup⟩,
   List.forall_mem_cons.mpr ⟨hname,fun m hm hmem => ?_⟩⟩
  · obtain ⟨m,hm,heq⟩:=List.mem_map.mp hmem
    exact hseen m hm (heq ▸ List.mem_cons_self)
  · exact hseen m hm (List.mem_cons_of_mem _ hmem)

lemma SymbolTable.globalScope_of_level {t:SymbolTable} (h:t.level = 0) :
  t.globalScope = t.current := by
 rw [globalScope,List.eq_nil_of_length_eq_zero h]
 rfl

namespace Setting

variable {Γ:Setting} {inSize:Bool} {pre:List Node} {c c₁ d:Checker}

lemma Notes.record {start:Nat} (hcalm:Γ.Calm c c₁)
  (hnew:c.definedRecords.lookup start = none) (id:Nat) :
  Γ.Notes (.record start) c
   { c₁ with definedRecords := (start,id) :: c₁.definedRecords } := by
 refine ⟨{ hcalm.fits with },hcalm.retains.trans (.noteRecord (hcalm.quiet.records ▸ hnew) id),
  fun key hkey => ?_⟩
 rw [← hcalm.quiet.defines]
 cases key with
 | enum start' => exact .inl hkey
 | record start' =>
  rw [Checker.defines,List.lookup_cons] at hkey
  cases heq : start' == start with
  | true => exact .inr (congrArg _ (beq_iff_eq.mp heq))
  | false =>
   rw [heq] at hkey
   exact .inl hkey

lemma Opened.completedBy {kind:RecordKind}
  (span:Span) {r r':Registry}
  (h:Opened kind tag id c) (hr:c.records.Persists r)
  (hcomplete:r.complete id fields = .ok r')
  (hnames:fields.map (·.1) = members.map (·.name.name))
  (hdistinct:(members.map (·.name.name)).Nodup) :
  (∃ old, r.get? id = some old ∧ old.isComplete = false) ∧
   ∃ new, r'.get? id = some new ∧ new.CompletedBy ⟨kind,tag,some members,span⟩ := by
 obtain ⟨first,hfirst,hkind,htag,-⟩:=h.record
 obtain ⟨old,hold,hkind',htag',-⟩:=hr.records id first hfirst
 obtain ⟨hopen,new,own,hnew,hkind'',htag'',hown,hsame⟩:=
  Registry.names_complete hcomplete hold
 refine ⟨⟨old,hold,hopen⟩,new,hnew,?_,?_,⟨own,hown,hsame.trans hnames⟩,hdistinct⟩
 · exact hkind''.trans (hkind'.trans hkind)
 · exact htag''.trans (htag'.trans htag)

lemma Ends.completeRecord {kind:RecordKind}
   (hnew:c.definedRecords.lookup span.start = none)
  (hcalm:Γ.Calm c c₁) (hopened:Opened kind tag id c₁)
  (hmembers:∀ pre, Γ.Does false pre (Member.sitesAll members)
   (topsAll (Member.sitesAll members)) (resolveMembers [] members))
  (hlost:lostAll Γ.inBlock false (Member.sitesAll members) ⊆ Γ.lost) :
  Γ.Ends [.definition (.record ⟨kind,tag,some members,span⟩) (Member.sitesAll members)]
   [⟨.record ⟨kind,tag,some members,span⟩,Member.sitesAll members⟩] c
   ((do completeRecord id (← resolveMembers [] members) span; return id : Check Nat)
    { c₁ with definedRecords := (span.start,id) :: c₁.definedRecords }) := by
 have hnotes:=Notes.record hcalm hnew id
 have hundefined:c.defines (.record span.start) = false := by
  rw [Checker.defines,hnew]
  rfl
 have hrun:=hmembers [] hlost _ hnotes.fits fun _ _ hn => nomatch hn
 simp only [Bind.bind,EStateM.bind]
 cases hx : resolveMembers [] members
   { c₁ with definedRecords := (span.start,id) :: c₁.definedRecords } with
 | error f c₃ =>
  rw [hx] at hrun
  obtain - | reaches:=hrun
  exact .error (hnotes.reaches (n := ⟨.record _,_⟩) hundefined reaches)
 | ok fields c₃ =>
  rw [hx] at hrun
  obtain ⟨reaches,completes⟩:=hrun
  dsimp only
  obtain ⟨records,hrecords,heq⟩ | ⟨f,heq⟩:=completeRecord_cases id fields span c₃
  · have hdone:Γ.Calm c₃ { c₃ with records }:=.setRecords reaches.fits (.complete hrecords)
    have hkept:c₃.definedRecords.lookup span.start = some id:=
     reaches.retains.specifiers _ _ List.lookup_cons_self
    obtain ⟨hnames,hdistinct,-⟩:=names_resolveMembers hx
    obtain ⟨⟨old,hold,hopen⟩,new,hget,hcompleted⟩:=
     hopened.completedBy span reaches.retains.records hrecords hnames hdistinct
    rw [heq]
    refine .ok ((hnotes.reaches (n := ⟨.record _,_⟩) hundefined reaches).calm hdone)
     fun herrors => ?_
    have hbody:=completes herrors
    refine hnotes.completes (n := ⟨.record _,_⟩) ?_ (hdone.quiet.last reaches.retains hbody)
     (Site.sureAll_subset_topsAll _) ⟨id,new,hkept,hget,hcompleted,fun hfile t ht => ?_⟩
     fun start id' ho => ?_
    · exact Option.isSome_iff_exists.mpr ⟨id,hkept⟩
    · refine reaches.retains.global.tags _ _ ?_
      rw [SymbolTable.globalScope_of_level (hcalm.fits.file hfile)]
      exact hopened.tagged t ht
    · cases heq : start == span.start with
      | false =>
       refine .inl ⟨?_,ho.noted,ho.kept⟩
       rw [List.lookup_cons,heq,hcalm.quiet.records]
       exact ho.new
      | true =>
       obtain rfl : start = span.start:=beq_iff_eq.mp heq
       cases ho.noted.symm.trans hkept
       refine .inr ⟨rfl,hnotes.retains.incomplete ?_,fun start' ho' => ?_⟩
       · intro r hr
         obtain ⟨r',hr',-,-,hopen'⟩:=hopened.record
         cases hr'.symm.trans hr
         exact hopen'
       · obtain ⟨r,hr,hcomplete⟩:=hbody.complete ⟨ho'.new,ho'.noted,ho'.kept⟩
         cases hold.symm.trans hr
         exact Bool.false_ne_true (hopen.symm.trans hcomplete)
  · rw [heq]
    exact .error (hnotes.reaches (n := ⟨.record _,_⟩) hundefined reaches)

lemma Does.resolveRecord {kind:RecordKind}
  (hmembers:∀ pre, Γ.Does false pre (Member.sitesAll members)
   (topsAll (Member.sitesAll members)) (resolveMembers [] members)) :
  Γ.Does inSize pre
   [.definition (.record ⟨kind,tag,some members,span⟩) (Member.sitesAll members)]
   [⟨.record ⟨kind,tag,some members,span⟩,Member.sitesAll members⟩]
   (resolveRecord ⟨kind,tag,some members,span⟩) := by
 intro hlost c hc _
 rw [Site.lostAll_singleton,Site.lost] at hlost
 have hfound:definedRecord? span c = .ok (c.definedRecords.lookup span.start) c:=rfl
 rw [CCheck.resolveRecord]
 simp only [Bind.bind,EStateM.bind,hfound]
 cases hnew : c.definedRecords.lookup span.start with
 | some id =>
  refine .ok (.refl hc) fun _ => .refl (List.forall_mem_singleton.mpr (.inl ?_))
  exact Option.isSome_iff_exists.mpr ⟨id,hnew⟩
 | none =>
  have hopen:=openEnds_openRecord hc kind tag
  simp only [EStateM.bind]
  generalize openRecord kind tag c = o at hopen
  cases hopen with
  | error hcalm => exact .error hcalm.reaches
  | ok hcalm hopened => exact .completeRecord hnew hcalm hopened hmembers hlost

end Setting

lemma enumerates_declareConstant {name:Ident} {v:Int64} {c d:Checker}
  (h:declareConstant name v c = .ok () d) :
  d.symbols.level = c.symbols.level ∧ d.symbols.current.Enumerates name := by
 unfold declareConstant Check.declare Check.updateSymbols at h
 dsimp only at h
 rw [SymbolTable.declare_eq] at h
 split at h
 · rename_i t ht
   cases h
   split at ht
   · cases ht
   · cases ht
     exact ⟨rfl,_,List.mem_append_right _ List.mem_cons_self,rfl,rfl,v,rfl⟩
 · cases h

lemma enumerates_declareEnumerators {next:Int64} {c d:Checker}
  (h:declareEnumerators next es c = .ok () d) :
  ∀ e ∈ es, d.Enumerates e.name ∧
   (c.symbols.level = 0 → d.symbols.globalScope.Enumerates e.name) := by
 induction es generalizing next c with
 | nil => exact List.forall_mem_nil _
 | cons e es ih =>
  obtain ⟨name,value,span⟩:=e
  have hstep:∀ {v next c₁ c₂}, c₁.symbols.level = c.symbols.level →
    declareConstant name v c₁ = .ok () c₂ → declareEnumerators next es c₂ = .ok () d →
    ∀ e ∈ ⟨name,value,span⟩ :: es, d.Enumerates e.name ∧
     (c.symbols.level = 0 → d.symbols.globalScope.Enumerates e.name) := by
   intro v next c₁ c₂ hlevel hname hrest
   obtain ⟨hlevel',hdeclared⟩:=enumerates_declareConstant hname
   have hretains:c₂.Retains d:=(retaining.declareEnumerators next es).rel_of_ok hrest
   refine List.forall_mem_cons.mpr ⟨⟨?_,fun hzero => ?_⟩,fun e he => ?_⟩
   · exact hretains.enumerators name (Or.inl ⟨_,List.mem_cons_self,hdeclared⟩)
   · refine hretains.global.enumerators name ?_
     rw [SymbolTable.globalScope_of_level (hlevel'.trans (hlevel.trans hzero))]
     exact hdeclared
   · rw [← hlevel,← hlevel']
     exact ih hrest e he
  cases value with
  | none =>
   rw [declareEnumerators] at h
   obtain ⟨_,c₂,hname,hrest⟩:=bind_eq_ok h
   exact hstep rfl hname hrest
  | some value =>
   rw [declareEnumerators] at h
   obtain ⟨v,c₁,hvalue,h⟩:=bind_eq_ok h
   obtain ⟨_,c₂,hname,hrest⟩:=bind_eq_ok h
   exact hstep ((restored.evalConst value).rel_of_ok hvalue).level hname hrest

namespace Setting

variable {Γ:Setting} {inSize:Bool} {pre:List Node} {c d:Checker}

lemma Notes.enum (hc:Γ.Fits c) (start:Nat) :
  Γ.Notes (.enum start) c { c with definedEnums := start :: c.definedEnums } := by
 refine ⟨{ hc with },.noteEnum c start,fun key hkey => ?_⟩
 cases key with
 | record start' => exact .inl hkey
 | enum start' =>
  rw [Checker.defines,List.contains_iff_mem] at hkey ⊢
  rcases List.mem_cons.mp hkey with rfl | hmem
  · exact .inr rfl
  · exact .inl hmem

lemma Does.resolveEnum
  (hes:∀ pre, Γ.Does false pre (Enumerator.sitesAll es)
   (sureAll (Enumerator.sitesAll es)) (declareEnumerators 0 es)) :
  Γ.Does inSize pre
   [.definition (.enum ⟨tag,some es,span⟩) (Enumerator.sitesAll es)]
   [⟨.enum ⟨tag,some es,span⟩,Enumerator.sitesAll es⟩]
   (resolveEnum ⟨tag,some es,span⟩) := by
 intro hlost c hc _
 rw [Site.lostAll_singleton,Site.lost] at hlost
 have hfound:isEnumDefined span c = .ok (c.definedEnums.contains span.start) c:=rfl
 rw [CCheck.resolveEnum]
 simp only [Bind.bind,EStateM.bind,hfound]
 cases hnew : c.definedEnums.contains span.start with
 | true => exact .ok (.refl hc) fun _ => .refl (List.forall_mem_singleton.mpr (.inl hnew))
 | false =>
  have hnotes:=Notes.enum hc span.start
  have hrun:=(Calms.openEnum tag).does.first (fun _ => hes []) hlost _ hnotes.fits
   fun _ => List.forall_mem_nil _
  change Γ.Ends _ _ c ((openEnum tag >>= fun _ => declareEnumerators 0 es)
   { c with definedEnums := span.start :: c.definedEnums })
  cases hx : (openEnum tag >>= fun _ => declareEnumerators 0 es)
    { c with definedEnums := span.start :: c.definedEnums } with
  | error f d =>
   rw [hx] at hrun
   obtain - | reaches:=hrun
   exact .error (hnotes.reaches (n := ⟨.enum _,_⟩) hnew reaches)
  | ok a d =>
   rw [hx] at hrun
   obtain ⟨reaches,completes⟩:=hrun
   obtain ⟨_,c₂,hopen,hrest⟩:=bind_eq_ok hx
   refine .ok (hnotes.reaches (n := ⟨.enum _,_⟩) hnew reaches) fun herrors => ?_
   refine hnotes.completes (n := ⟨.enum _,_⟩) ?_ (completes herrors) (List.Subset.refl _)
    (fun e he => ?_) fun start id ho => .inl ⟨ho.new,ho.noted,ho.kept⟩
   · exact List.contains_iff_mem.mpr (reaches.retains.enums List.mem_cons_self)
   · obtain ⟨hsomewhere,hglobal⟩:=enumerates_declareEnumerators hrest e he
     refine ⟨hsomewhere,fun hfile => hglobal ?_⟩
     have hfits:=Calms.openEnum tag _ hnotes.fits
     unfold Check.after at hfits
     rw [hopen] at hfits
     exact hfits.fits.file hfile

end Setting

end CCheck
