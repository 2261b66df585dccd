import CCheck.Proofs.Specifiers.Outcomes

/-! # Specifiers and their records

The table of the specifiers that have been met grows by entries that are new, so that what a
specifier was resolved to at any moment is what the table has in the end. -/

set_option autoImplicit false

namespace CCheck

open Check

variable {c d:Checker}

/-! ### The table of specifiers -/

def Checker.NotedOnce (c:Checker) : Prop := (c.definedRecords.map (·.1)).Nodup

lemma Checker.NotedOnce.note {start:Nat} (h:c.NotedOnce)
  (hnew:c.definedRecords.lookup start = none) (id:Nat) :
  Checker.NotedOnce { c with definedRecords := (start,id) :: c.definedRecords } := by
 refine List.nodup_cons.mpr ⟨fun hmem => ?_,h⟩
 obtain ⟨p,hp,rfl⟩:=List.mem_map.mp hmem
 exact absurd (List.lookup_eq_none_iff.mp hnew p hp) (by simp)

def notingOnce : Account where
 rel _ c _ d := c.NotedOnce → d.NotedOnce
 refl _ h := h
 trans h h' hc := h' (h hc)
 mono h _ := h
 recover h := h
 refuse _ _ _ h := h
 typeRead _ _ h := h
 use _ _ h := h
 callee h _ := h
 call _ _ _ h := h
 again h := h
 enumerator _ h := h
 tag _ h := h
 record _ _ _ h := h
 complete _ h := h
 defineRecord hnew h hc := h (hc.note hnew _)
 defineEnum _ h hc := h hc

lemma enters_notingOnce : notingOnce.Enters where
 declare _ _ h := h
 typedef _ h := h
 redeclare _ _ _ _ _ h := h
 initialized _ _ h := h

def programNotingOnce : ProgramAccount where
 toAccount := notingOnce
 declaration := enters_notingOnce.checkDeclaration
 heading name t storage := enters_notingOnce.declareFunction name t storage true
 param _ _ h := h
 jump _ _ _ h := h
 adjust h hadjusted hc := by
  cases hadjusted with
  | flow flow switches => exact h hc
  | function hnotes => exact h hc
 scope h hc := leaveScope_keeps (P := Checker.NotedOnce) (fun _ _ _ h => h) (fun _ _ h => h)
  (fun _ _ h => h) (h hc)
 report h hc := h hc
 warn _ _ _ h := h
 enterFunction _ _ _ h := h
 leaveFunction _ t h := leaveFunction_keeps (P := Checker.NotedOnce) (fun _ _ _ h => h)
  (fun _ h => h) (fun _ _ h => h) t h

lemma notedOnce_start (u:ProgramUnit) (warnUnused:Bool) :
  ((Checker.start warnUnused).analyze u).NotedOnce :=
 programNotingOnce.analyze (.start warnUnused) u List.nodup_nil

lemma suffix_of_course {m n:Moment} (h:m.Course n) :
  m.state.definedRecords <:+ n.state.definedRecords := by
 refine h.invariant (P := fun n => m.state.definedRecords <:+ n.state.definedRecords)
  (fun n o hstep hn => ?_) List.suffix_rfl
 cases hstep with
 | change hchange =>
  cases hchange with
  | noteRecord start => exact hn.trans (List.suffix_cons _ _)
  | leaveScope => exact (Ledger.same_leaveScope n.state).definedRecords ▸ hn
  | leaveFunction => exact (Ledger.same_leaveFunction n.state _).definedRecords ▸ hn
  | _ => exact hn
 | _ => exact hn

lemma lookup_of_suffix {old new:List (Nat × Nat)} (h:old <:+ new)
  (hnew:(new.map (·.1)).Nodup) {start id:Nat} (hid:old.lookup start = some id) :
  new.lookup start = some id := by
 obtain ⟨added,rfl⟩:=h
 rw [List.map_append] at hnew
 rw [List.lookup_append]
 cases hadded : added.lookup start with
 | none => exact hid
 | some id' =>
  have hadded:=List.mem_map_of_mem (f := Prod.fst) (mem_of_lookup hadded)
  have hold:=List.mem_map_of_mem (f := Prod.fst) (mem_of_lookup hid)
  exact absurd rfl ((List.nodup_append.mp hnew).2.2 _ hadded _ hold)

lemma lookup_resolveRecord {spec:RecordSpec} (hspec:spec.members.isSome = true) {id:Nat}
  (h:resolveRecord spec c = .ok id d) : d.definedRecords.lookup spec.span.start = some id := by
 obtain ⟨kind,tag,members,span⟩:=spec
 cases members with
 | none => cases hspec
 | some members =>
  have hfound:definedRecord? span c = .ok (c.definedRecords.lookup span.start) c:=rfl
  rw [resolveRecord,bind_ok hfound] at h
  cases hlookup : c.definedRecords.lookup span.start with
  | some id' =>
   rw [hlookup] at h
   cases h
   exact hlookup
  | none =>
   rw [hlookup] at h
   dsimp only at h
   obtain ⟨id',c₁,hopen,hrest⟩:=bind_eq_ok h
   obtain ⟨_,c₂,hnote,hrest⟩:=bind_eq_ok hrest
   obtain ⟨fields,c₃,hfields,hrest⟩:=bind_eq_ok hrest
   obtain ⟨_,c₄,hcomplete,hpure⟩:=bind_eq_ok hrest
   cases hpure
   cases hnote
   have hmembers:Checker.Retains _ c₃:=
    (retaining.resolveMembers [] members).rel_of_ok hfields
   have hcompleted:c₃.Retains d:=
    (Account.Meets.completeRecord (A := retaining) id fields span).rel_of_ok hcomplete
   exact (hmembers.trans hcompleted).specifiers _ _ List.lookup_cons_self

/-- At some moment of a course that ends as the analysis of the program does, the specifier is
resolved to the record. -/
def ProgramUnit.Resolves (u:ProgramUnit) (warnUnused:Bool) (spec:RecordSpec) (id:Nat) :
  Prop :=
 ∃ (m n:Moment) (held:List Nat), (Moment.start warnUnused).Course m ∧
  resolveRecord spec m.state = .ok id n.state ∧
  n.Course ⟨(Checker.start warnUnused).analyze u,held⟩

variable {source:String} {u:ProgramUnit} {warnUnused:Bool} {spec:RecordSpec} {id:Nat}

lemma ProgramUnit.Resolves.lookup (h:u.Resolves warnUnused spec id)
  (hspec:spec.members.isSome = true) :
  ((Checker.start warnUnused).analyze u).definedRecords.lookup spec.span.start = some id := by
 obtain ⟨m,n,held,-,hrun,hcourse⟩:=h
 exact lookup_of_suffix (suffix_of_course hcourse) (notedOnce_start u warnUnused)
  (lookup_resolveRecord hspec hrun)

lemma ProgramUnit.record_not_lost (h:∀ spec, .record spec ∉ u.sizedSpecifiers) (start:Nat) :
  .record start ∉ u.lost := by
 intro hmem
 have hsized:u.lost ⊆ (Site.sizedAll (u.fileSites ++ u.blockSites)).map Node.key := by
  rw [Site.sizedAll_append,List.map_append]
  exact List.append_subset.mpr
   ⟨List.subset_append_of_subset_left _ (Site.lostAll_subset_sized _ _),
    List.subset_append_of_subset_right _ (Site.lostAll_subset_sized _ _)⟩
 obtain ⟨⟨s,body⟩,hn,hkey⟩:=List.mem_map.mp (hsized hmem)
 cases s with
 | enum spec => cases hkey
 | record spec => exact h spec (List.mem_map_of_mem (f := Node.specifier) hn)

lemma ProgramUnit.resolves_of_lookup (hspec:spec.members.isSome = true)
  (h:((Checker.start warnUnused).analyze u).definedRecords.lookup spec.span.start = some id) :
  u.Resolves warnUnused spec id := by
 obtain ⟨held,hcourse⟩:=(Moment.start warnUnused).course_analyze u
 refine ⟨_,_,held,hcourse,?_,.refl _⟩
 obtain ⟨kind,tag,members,span⟩:=spec
 cases members with
 | none => cases hspec
 | some members =>
  have hfound:definedRecord? span ((Checker.start warnUnused).analyze u) = .ok (some id) _:=
   congrArg (EStateM.Result.ok · _) h
  rw [resolveRecord]
  exact bind_ok hfound

/-- Struct and union specifiers correspond one to one to records. -/
theorem specifiers_name_records (hparse:parse source = .ok u) (warnUnused:Bool)
  (herrors:((Checker.start warnUnused).analyze u).errorCount = 0)
  (hsized:∀ spec, .record spec ∉ u.sizedSpecifiers) :
  (∀ spec spec' id id', spec.members.isSome = true → spec'.members.isSome = true →
   u.Resolves warnUnused spec id → u.Resolves warnUnused spec' id' →
   (id = id' ↔ spec.span.start = spec'.span.start)) ∧
  (∀ spec id, .record spec ∈ u.specifiers → spec.members.isSome = true →
   u.Resolves warnUnused spec id → ∃ d,
    ((Checker.start warnUnused).analyze u).records.get? id = some d ∧ d.CompletedBy spec) ∧
  ∀ spec, .record spec ∈ u.specifiers → spec.members.isSome = true →
   ((Checker.start warnUnused).analyze u).defines (.record spec.span.start) = true →
   ∃ id, u.Resolves warnUnused spec id := by
 have hpasses:=passes_start u warnUnused
 have hopens:∀ {spec id}, spec.members.isSome = true → u.Resolves warnUnused spec id →
   OpensRecord u.lost (.start warnUnused) ((Checker.start warnUnused).analyze u)
    spec.span.start id :=
  fun hspec h => ⟨rfl,h.lookup hspec,ProgramUnit.record_not_lost hsized _⟩
 refine ⟨fun spec spec' id id' hspec hspec' h h' => ⟨?_,fun hstart => ?_⟩,
  fun spec id hmem hspec h => ?_,fun spec hmem hspec hdefined => ?_⟩
 · rintro rfl
   exact (hpasses.completes herrors).distinct _ _ _ (hopens hspec h) (hopens hspec' h')
 · have hid:=h.lookup hspec
   rw [hstart,h'.lookup hspec'] at hid
   exact (Option.some.inj hid).symm
 · have hid:=h.lookup hspec
   obtain ⟨⟨b,s,body⟩,hn,rfl⟩:=List.mem_map.mp hmem
   obtain ⟨⟨id',d,hid',hd,hcompleted,-⟩,-⟩:=hpasses.fulfils hparse herrors hn
    (Option.isSome_iff_exists.mpr ⟨id,hid⟩) rfl (ProgramUnit.record_not_lost hsized _)
   cases hid.symm.trans hid'
   exact ⟨d,hd,hcompleted⟩
 · obtain ⟨id,hid⟩:=Option.isSome_iff_exists.mp hdefined
   exact ⟨id,ProgramUnit.resolves_of_lookup hspec hid⟩

/-- The declarators share a specifier, and another one stands in its body. -/
theorem specifiers_name_records_shared :
  ∃ u, parse "union A {struct {int x;} y; char z;} a, *b;" = .ok u ∧
   ((Checker.start true).analyze u).errorCount = 0 ∧
   (∀ spec, .record spec ∉ u.sizedSpecifiers) ∧
   ∃ spec spec' id id', spec.span.start = 0 ∧ spec'.span.start = 9 ∧
    u.Resolves true spec id ∧ u.Resolves true spec' id' ∧ id ≠ id' ∧
    (∃ d, ((Checker.start true).analyze u).records.get? id = some d ∧ d.CompletedBy spec) ∧
    ∃ d, ((Checker.start true).analyze u).records.get? id' = some d ∧ d.CompletedBy spec' := by
 have h : (parse "union A {struct {int x;} y; char z;} a, *b;").toOption.bind (fun u =>
   some (((Checker.start true).analyze u).errorCount,u.sizedSpecifiers.map Specifier.key,
    u.specifiers.map Specifier.key,u.specifiers.all fun s =>
     s.hasBody && ((Checker.start true).analyze u).defines s.key)) =
   some (0,[],[.record 0,.record 9,.record 0,.record 9],true) := by
  decide +kernel
 obtain ⟨u,hu,hall⟩:=exists_unit h
 simp only [Option.some.injEq,Prod.mk.injEq,List.map_eq_nil_iff] at hall
 obtain ⟨herrors,hsized,hkeys,hdefined⟩:=hall
 have hsized:∀ spec, .record spec ∉ u.sizedSpecifiers:=fun spec hmem => by
  rw [hsized] at hmem
  cases hmem
 obtain ⟨hone,hcomplete,hsome⟩:=specifiers_name_records hu true herrors hsized
 -- Each of the two positions has a specifier with members, which has been met.
 have hspec:∀ start, .record start ∈ u.specifiers.map Specifier.key → ∃ spec,
   spec.span.start = start ∧ .record spec ∈ u.specifiers ∧ spec.members.isSome = true ∧
    ∃ id, u.Resolves true spec id := by
  intro start hmem
  obtain ⟨s,hs,hkey⟩:=List.mem_map.mp hmem
  have hmet:=List.all_eq_true.mp hdefined s hs
  rw [Bool.and_eq_true] at hmet
  cases s with
  | enum spec => cases hkey
  | record spec =>
   exact ⟨spec,SpecifierKey.record.inj hkey,hs,hmet.1,hsome spec hs hmet.1 hmet.2⟩
 obtain ⟨spec,hstart,hmem,hbody,id,hid⟩:=hspec 0 (by rw [hkeys]; decide)
 obtain ⟨spec',hstart',hmem',hbody',id',hid'⟩:=hspec 9 (by rw [hkeys]; decide)
 refine ⟨u,hu,herrors,hsized,spec,spec',id,id',hstart,hstart',hid,hid',fun heq => ?_,
  hcomplete spec id hmem hbody hid,hcomplete spec' id' hmem' hbody' hid'⟩
 have hstarts:=(hone spec spec' id id' hbody hbody' hid hid').mp heq
 rw [hstart,hstart'] at hstarts
 cases hstarts

end CCheck
