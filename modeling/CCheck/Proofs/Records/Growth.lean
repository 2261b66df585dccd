import CCheck.Proofs.Records.References

/-! # Registries only grow

A record is completed at one stroke or not at all, so that whatever has a size, an alignment or a
member keeps it. -/

set_option autoImplicit false

namespace CCheck

open Check

variable {id:Nat} {members:List (String × CType)} {r'':Registry}

namespace Registry

variable {r r':Registry} {t:CType} {n:Nat}

lemma isComplete_of_sizeOf? (h:r.sizeOf? t = some n) : r.isComplete t = true := by
 induction t using CType.elementInduction generalizing n with
 | array elem length vla q ih =>
  rw [sizeOf?_array] at h
  obtain ⟨m,hm,-⟩:=Option.bind_eq_some_iff.mp h
  exact ih hm
 | other t hother =>
  obtain ⟨k,q⟩:=t
  cases k with
  | array => cases hother
  | void => cases h
  | function => cases h
  | record id =>
   obtain ⟨d,hd,hcomplete,-⟩:=exists_complete (g := RecordDef.size) h
   exact isComplete_record_iff.mpr ⟨d,hd,hcomplete⟩
  | _ => rfl

/-! ### Completing a record -/

lemma complete_eq_set
  (h:r.complete id members = .ok r') :
  ∃ d new, r' = ⟨r.records.set id new⟩ ∧ r.get? id = some d ∧ d.isComplete = false ∧
   new.kind = d.kind ∧ new.tag = d.tag ∧ new.isComplete = true := by
 unfold complete at h
 cases hd : r.get? id with
 | none =>
  rw [hd] at h
  cases h
 | some d =>
  rw [hd] at h
  dsimp only at h
  split at h
  · cases h
  · rename_i hcomplete
    split at h
    · cases h
    · split at h
      · cases h
      · cases h
        exact ⟨d,_,rfl,rfl,(Bool.not_eq_true _).mp hcomplete,rfl,rfl,rfl⟩

lemma extends_complete
  (h:r.complete id members = .ok r') : r'.Extends r := by
 obtain ⟨d,new,rfl,hd,hcomplete,-⟩:=complete_eq_set h
 exact extends_set hd hcomplete new

/-- Everything that is known of a registry stays known: the records with their kinds and tags, and
what there is to say about types. -/
structure Persists (r r':Registry) : Prop where
 records : ∀ id d, r.get? id = some d →
  ∃ d', r'.get? id = some d' ∧ d'.kind = d.kind ∧ d'.tag = d.tag ∧ (d.isComplete = true → d' = d)
 sizeOf? : ∀ t n, r.sizeOf? t = some n → r'.sizeOf? t = some n
 alignOf? : ∀ t a, r.alignOf? t = some a → r'.alignOf? t = some a
 member? : ∀ t name f, r.member? t name = some f → r'.member? t name = some f

namespace Persists

lemma of_records (h:∀ id d, r.get? id = some d → ∃ d', r'.get? id = some d' ∧
  d'.kind = d.kind ∧ d'.tag = d.tag ∧ (d.isComplete = true → d' = d)) : r.Persists r' := by
 have hextends:r'.Extends r := by
  intro id d hd hcomplete
  obtain ⟨d',hd',-,-,hsame⟩:=h id d hd
  rw [hd',hsame hcomplete]
 exact ⟨h,fun _ _ => hextends.sizeOf?,fun _ _ => hextends.alignOf?,
  fun _ _ _ => hextends.member?⟩

lemma refl (r:Registry) : r.Persists r :=
 of_records fun _ d hd => ⟨d,hd,rfl,rfl,fun _ => rfl⟩

lemma trans (h:r.Persists r') (h':r'.Persists r'') : r.Persists r'' := by
 refine of_records fun id d hd => ?_
 obtain ⟨d',hd',hkind,htag,hsame⟩:=h.records id d hd
 obtain ⟨d'',hd'',hkind',htag',hsame'⟩:=h'.records id d' hd'
 refine ⟨d'',hd'',hkind'.trans hkind,htag'.trans htag,fun hcomplete => ?_⟩
 obtain rfl:=hsame hcomplete
 exact hsame' hcomplete

lemma declare (r:Registry) (kind:RecordKind) (tag:Option String) :
  r.Persists (r.declare kind tag).2 := by
 refine of_records fun id d hd => ⟨d,?_,rfl,rfl,fun _ => rfl⟩
 exact (List.getElem?_append_left (List.getElem?_eq_some_iff.mp hd).1).trans hd

lemma complete
  (h:r.complete id members = .ok r') : r.Persists r' := by
 obtain ⟨d,new,rfl,hd,hcomplete,hkind,htag,-⟩:=complete_eq_set h
 refine of_records fun id' d' hd' => ?_
 by_cases hid : id = id'
 · subst hid
   obtain rfl : d = d':=Option.some.inj (hd.symm.trans hd')
   refine ⟨new,List.getElem?_set_self (List.getElem?_eq_some_iff.mp hd).1,hkind,htag,?_⟩
   exact fun hd => absurd (hcomplete.symm.trans hd) Bool.false_ne_true
 · exact ⟨d',(List.getElem?_set_ne hid).trans hd',rfl,rfl,fun _ => rfl⟩

end Persists

end Registry

lemma completeRecord_cases (id:Nat) (members:List (String × CType)) (span:Span)
  (c:Checker) :
  (∃ r, c.records.complete id members = .ok r ∧
   completeRecord id members span c = .ok () { c with records := r }) ∨
  ∃ f, completeRecord id members span c = .error f c := by
 unfold completeRecord
 cases h : c.records.complete id members with
 | ok r =>
  rw [Registry.completeInPlace_ok h]
  exact .inl ⟨r,rfl,rfl⟩
 | error flaw =>
  rw [Registry.completeInPlace_error h]
  exact .inr ⟨_,rfl⟩

inductive RegistryCall where
 | declare (kind:RecordKind) (tag:Option String)
 | complete (id:Nat) (members:List (String × CType)) (span:Span)

namespace RegistryCall

def run : RegistryCall → Check Unit
 | declare kind tag => do let _ ← newRecord kind tag
 | complete id members span => completeRecord id members span

def runAll (calls:List RegistryCall) (c:Checker) : Checker :=
 calls.foldl (fun c call => call.run.after c) c

lemma persists_run (call:RegistryCall) (c:Checker) :
  c.records.Persists (call.run.after c).records := by
 cases call with
 | declare kind tag => exact .declare c.records kind tag
 | complete id members span =>
  unfold Check.after run
  dsimp only
  obtain ⟨r,hr,heq⟩ | ⟨f,heq⟩:=completeRecord_cases id members span c
  · rw [heq]
    exact .complete hr
  · rw [heq]
    exact .refl c.records

lemma persists_runAll (calls:List RegistryCall) (c:Checker) :
  c.records.Persists (runAll calls c).records := by
 induction calls generalizing c with
 | nil => exact .refl c.records
 | cons call calls ih => exact (call.persists_run c).trans (ih _)

end RegistryCall

namespace Moment

variable {m n:Moment}

lemma Step.persists (h:m.Step n) : m.state.records.Persists n.state.records := by
 cases h with
 | change h =>
  obtain hrecords | ⟨_,_,hcomplete,_⟩:=h.records
  · exact hrecords ▸ .refl _
  · exact .complete hcomplete
 | find => exact .refl _
 | newRecord kind tag => exact .declare _ kind tag
 | newTaggedRecord kind tag => exact .declare _ kind _

lemma Course.persists (h:m.Course n) : m.state.records.Persists n.state.records :=
 h.invariant (P := fun n => m.state.records.Persists n.state.records)
  (fun _ _ hstep hn => hn.trans hstep.persists) (.refl _)

end Moment

/-- A record is completed at one stroke, which changes no other record, or the whole state stays as
it was. Whatever is known of records and types stays known, both along calls that may fail and along
analyses; and a type with a size is complete and has an alignment. -/
theorem registry_grows (c:Checker) :
  (∀ id members span f d, completeRecord id members span c = .error f d → d = c) ∧
  (∀ id members span d, completeRecord id members span c = .ok () d →
   (∃ new, d.records.get? id = some new ∧ new.isComplete = true) ∧
    ∀ other, other ≠ id → d.records.get? other = c.records.get? other) ∧
  (∀ calls, c.records.Persists (RegistryCall.runAll calls c).records) ∧
  (∀ us : List ProgramUnit, c.records.Persists (us.foldl Checker.analyze c).records) ∧
  ∀ t n, c.records.sizeOf? t = some n →
   c.records.isComplete t = true ∧ ∃ a, c.records.alignOf? t = some a := by
 refine ⟨?_,?_,fun calls => RegistryCall.persists_runAll calls c,fun us => ?_,
  fun t n h => ⟨Registry.isComplete_of_sizeOf? h,Registry.exists_alignOf? h⟩⟩
 · intro id members span f d h
   obtain ⟨r,-,heq⟩ | ⟨f',heq⟩:=completeRecord_cases id members span c
   · cases heq.symm.trans h
   · cases heq.symm.trans h
     rfl
 · intro id members span d h
   obtain ⟨r,hr,heq⟩ | ⟨f',heq⟩:=completeRecord_cases id members span c
   · cases heq.symm.trans h
     obtain ⟨d,new,rfl,hd,-,-,-,hnew⟩:=Registry.complete_eq_set hr
     refine ⟨⟨new,List.getElem?_set_self (List.getElem?_eq_some_iff.mp hd).1,hnew⟩,?_⟩
     exact fun other hother => List.getElem?_set_ne (Ne.symm hother)
   · cases heq.symm.trans h
 · obtain ⟨held,hcourse⟩:=Moment.course_analyses ⟨c,[]⟩ us
   exact hcourse.persists

/-- An array of a struct keeps its size while the struct is completed again, in vain, and a union
gets the array as its member. -/
theorem registry_grows_nested :
  let t:=CType.array (.record 0) (some 3)
  let c:=RegistryCall.runAll
   [.declare .struct (some "S"),.complete 0 [("c",.char),("n",.int)] ⟨0,0,0,0⟩]
   (.start true)
  let d:=RegistryCall.runAll
   [.complete 0 [("x",.double)] ⟨0,0,0,0⟩,.declare .union none,
    .complete 1 [("u",.record 1)] ⟨0,0,0,0⟩,.complete 1 [("t",t)] ⟨0,0,0,0⟩] c
  c.records.sizeOf? t = some 24 ∧ d.records.sizeOf? t = some 24 ∧
   d.records.sizeOf? (.record 1) = some 24 ∧ d.records.isComplete (.record 1) = true ∧
   ∃ f, completeRecord 1 [] ⟨0,0,0,0⟩ d = .error f d := by
 intro t c d
 have hc:c.records.sizeOf? t = some 24:=rfl
 have hd:d.records.sizeOf? (.record 1) = some 24 := by decide +kernel
 have hagain:(d.records.complete 1 []).isOk = false := by decide +kernel
 refine ⟨hc,((registry_grows c).2.2.1 _).sizeOf? t 24 hc,hd,
  ((registry_grows d).2.2.2.2 _ _ hd).1,?_⟩
 obtain ⟨r,hr,-⟩ | hfails:=completeRecord_cases 1 [] ⟨0,0,0,0⟩ d
 · rw [hr] at hagain
   cases hagain
 · exact hfails

end CCheck
