import CCheck.Proofs.Checking.CompoundAssignments
import CCheck.Proofs.Types.Declared

/-! # Initializers and the objects they fill

No brace list has more items than its object has room for, and an initializer is accepted again for
the type that it has given to its object. -/

set_option autoImplicit false

namespace CCheck

open Check

/-- The initializer `j` is written in `i` and initializes an object of type `u` inside the one of
type `t` that `i` initializes. -/
inductive Initializer.Part (r:Registry) (u:CType) (j:Initializer) : CType → Initializer → Prop
 | whole : Part r u j u j
 | element {t elem:CType} {length:Option Nat} {vla:Bool} {items:List Initializer} {i:Initializer}
   {span:Span} (ht:t.kind = .array elem length vla) (hstring:bracedString? elem items = none)
   (hi:i ∈ items) (h:Part r u j elem i) : Part r u j t (.list items span)
 | member {t s:CType} {id:Nat} {kind:RecordKind} {types:List CType} {items:List Initializer}
   {i:Initializer} {span:Span} (ht:t.kind = .record id) (htypes:r.parts? id = some (kind,types))
   (hi:(s,i) ∈ types.zip items) (h:Part r u j s i) : Part r u j t (.list items span)
 | scalar {t:CType} {i:Initializer} {span:Span} (harray:t.isArray = false)
   (hrecord:t.isRecord = false) (h:Part r u j t i) : Part r u j t (.list [i] span)

namespace CType

/-- How many items a brace list for an object of the type may have, if there is a limit. -/
def room? (r:Registry) (t:CType) : Option Nat :=
 match t.kind with
 | .array _ length _ => length
 | .record id => (r.parts? id).map (·.2.length)
 | _ => some 1

/-- How much of the room a brace list takes: a string in braces takes it for its characters. -/
def taken (t:CType) (items:List Initializer) : Nat :=
 match t.kind with
 | .array elem _ _ => ((bracedString? elem items).map (·.1.length)).getD items.length
 | _ => items.length

end CType

section

variable {t u s elem:CType} {i j:Initializer} {items:List Initializer} {types:List CType} {span:Span}
 {a c d:Checker}

lemma stringInitializer_counted (elem:CType) (q:Qualifiers) (text:String) (span:Span) :
  stringInitializer ((CType.array elem (some (text.length + 1))).qualify q) elem
   (some (text.length + 1)) text span =
  stringInitializer ⟨.array elem none false,q⟩ elem none text span := by
 have hfits:¬text.length + 1 < text.length := by omega
 simp only [stringInitializer,Option.any_some,decide_eq_true_eq,if_neg hfits]
 rfl

lemma InitializedAs.checkInitializer (h:InitializedAs t i u) :
  checkInitializer u i = checkInitializer t i := by
 cases h with
 | same => rfl
 | @counted elem h =>
  obtain ⟨kind,q⟩:=t
  cases h
  cases i with
  | expr e =>
   cases e with
   | literal l =>
    cases l with
    | string text span =>
     exact congrArg (ite _ · _) (stringInitializer_counted _ q text span)
    | _ => rfl
   | _ => rfl
  | list items span =>
   cases hstring : bracedString? elem items with
   | some p =>
    have hextent:(Initializer.list items span).extent elem = p.1.length + 1 := by
     rw [Initializer.extent,hstring]
    rw [hextent]
    unfold CCheck.checkInitializer
    simp only [CType.qualify,CType.array,CType.plain,hstring]
    exact stringInitializer_counted _ q p.1 p.2
   | none =>
    have hextent:(Initializer.list items span).extent elem = items.length := by
     rw [Initializer.extent,hstring]
    rw [hextent]
    unfold CCheck.checkInitializer
    simp only [CType.qualify,CType.array,CType.plain,hstring,atMost,Nat.lt_irrefl]
    rfl

lemma Piece.Refers.item (h:(Piece.initializer (.list items span)).Refers) :
  ∀ i ∈ items, (Piece.initializer i).Refers :=
 fun _ hi => h.child (List.mem_map_of_mem hi)

lemma repeats_checkInitializer (h:(Piece.initializer i).Refers) (t:CType) :
  Repeats (checkInitializer t i) :=
 (repetition.checkInitializer (κ := []) ⟨h,nofun⟩ False.elim).2

structure Checker.Later (a c:Checker) : Prop where
 widens : a.Widens c
 tagsBound : c.TagsBound

lemma Checker.Later.checkInitializer (h:a.Later c) (hi:(Piece.initializer i).Refers)
  (hrun:checkInitializer t i c = .ok u d) : a.Later d := by
 have hwidens:=(repeats_checkInitializer hi t).widens c h.tagsBound
 rw [Check.outcome,hrun] at hwidens
 exact ⟨h.widens.trans hwidens,hwidens.tagsBound h.tagsBound⟩

lemma exists_run_of_checkItems (hitems:∀ i ∈ items, (Piece.initializer i).Refers) (h:a.Later c)
  (hrun:checkItems elem items c = .ok () d) (hi:i ∈ items) :
  ∃ c' u d', a.Later c' ∧ checkInitializer elem i c' = .ok u d' := by
 induction items generalizing c with
 | nil => cases hi
 | cons first rest ih =>
  obtain ⟨u,e,hfirst,hrest⟩:=bind_eq_ok hrun
  obtain ⟨hrefers,hrefersRest⟩:=List.forall_mem_cons.mp hitems
  rcases List.mem_cons.mp hi with rfl | hi
  · exact ⟨c,u,e,h,hfirst⟩
  · exact ih hrefersRest (h.checkInitializer hrefers hfirst) hrest hi

lemma exists_run_of_checkFields (hitems:∀ i ∈ items, (Piece.initializer i).Refers) (h:a.Later c)
  (hrun:checkFields types items c = .ok () d) (hi:(s,i) ∈ types.zip items) :
  ∃ c' u d', a.Later c' ∧ checkInitializer s i c' = .ok u d' := by
 induction items generalizing c types with
 | nil => simp at hi
 | cons first rest ih =>
  cases types with
  | nil => cases hi
  | cons t ts =>
   obtain ⟨u,e,hfirst,hrest⟩:=bind_eq_ok hrun
   obtain ⟨hrefers,hrefersRest⟩:=List.forall_mem_cons.mp hitems
   rcases List.mem_cons.mp hi with hi | hi
   · cases hi
     exact ⟨c,u,e,h,hfirst⟩
   · exact ih hrefersRest (h.checkInitializer hrefers hfirst) hrest hi

lemma parts?_of_recordParts {id:Nat} {p:RecordKind × List CType}
  (h:recordParts t id span c = .ok p d) : d = c ∧ c.records.parts? id = some p := by
 rw [recordParts_eq] at h
 obtain ⟨_,_,hget,h⟩:=bind_eq_ok h
 cases hget
 cases hparts : c.records.parts? id with
 | none =>
  rw [hparts] at h
  cases h
 | some p =>
  rw [hparts] at h
  cases h
  exact ⟨rfl,rfl⟩

lemma atMost_eq_ok {n m:Nat} {what:String} (h:atMost n m what span c = .ok () d) :
  n ≤ m ∧ d = c := by
 unfold atMost at h
 split at h
 · cases h
 · cases h
   exact ⟨Nat.le_of_not_lt ‹_›,rfl⟩

inductive ListRun (t:CType) (items:List Initializer) (c d:Checker) : Prop
 | string {elem:CType} {length:Option Nat} {vla:Bool} {text:String} {span:Span}
   (ht:t.kind = .array elem length vla) (hstring:bracedString? elem items = some (text,span))
   (hroom:length.all (text.length ≤ ·) = true)
 | items {elem:CType} {length:Option Nat} {vla:Bool} (ht:t.kind = .array elem length vla)
   (hstring:bracedString? elem items = none) (hroom:length.all (items.length ≤ ·) = true)
   (hrun:checkItems elem items c = .ok () d)
 | fields {id:Nat} {p:RecordKind × List CType} (ht:t.kind = .record id)
   (hparts:c.records.parts? id = some p) (hroom:items.length ≤ p.2.length)
   (hrun:checkFields p.2 items c = .ok () d)
 | scalar {i:Initializer} {u:CType} (harray:t.isArray = false) (hrecord:t.isRecord = false)
   (hitems:items = [i]) (hrun:checkInitializer t i c = .ok u d)

lemma listRun_of_checkInitializer (h:checkInitializer t (.list items span) c = .ok u d) :
  ListRun t items c d := by
 unfold checkInitializer at h
 split at h
 · cases h
 obtain ⟨kind,q⟩:=t
 cases kind with
 | array elem length vla =>
  dsimp only at h
  cases hstring : bracedString? elem items with
  | some p =>
   rw [hstring] at h
   refine .string rfl hstring ?_
   dsimp only at h
   unfold stringInitializer at h
   split at h
   · cases h
   · cases length <;> simp_all
  | none =>
   rw [hstring] at h
   cases length with
   | none =>
    obtain ⟨_,_,hrun,h⟩:=bind_eq_ok h
    cases h
    exact .items rfl hstring rfl hrun
   | some n =>
    obtain ⟨_,_,hmost,hrest⟩:=bind_eq_ok h
    obtain ⟨hroom,rfl⟩:=atMost_eq_ok hmost
    obtain ⟨_,_,hrun,hlast⟩:=bind_eq_ok hrest
    cases hlast
    exact .items rfl hstring (decide_eq_true hroom) hrun
 | record id =>
  obtain ⟨⟨kind,types⟩,_,hparts,hrest⟩:=bind_eq_ok h
  obtain ⟨rfl,hparts⟩:=parts?_of_recordParts hparts
  obtain ⟨_,_,hmost,hfields⟩:=bind_eq_ok hrest
  obtain ⟨hroom,rfl⟩:=atMost_eq_ok hmost
  obtain ⟨_,_,hrun,hlast⟩:=bind_eq_ok hfields
  cases hlast
  exact .fields rfl hparts hroom hrun
 | _ =>
  match items, h with
  | [item], h => exact .scalar rfl rfl rfl h

/-- What is written inside an initializer that is accepted has been accepted itself, for the object
that it initializes. -/
lemma exists_run_of_part (hpart:Initializer.Part a.records s j t i)
  (hi:(Piece.initializer i).Refers) (h:a.Later c) (hrun:checkInitializer t i c = .ok u d) :
  ∃ c' u d', a.Later c' ∧ checkInitializer s j c' = .ok u d' := by
 induction hpart generalizing c u d with
 | whole => exact ⟨c,u,d,h,hrun⟩
 | element ht hstring hmem _ ih =>
  cases listRun_of_checkInitializer hrun with
  | string ht' hstring' =>
   cases ht.symm.trans ht'
   cases hstring.symm.trans hstring'
  | items ht' _ _ hitems =>
   cases ht.symm.trans ht'
   obtain ⟨c',u,d',hlater,hitem⟩:=exists_run_of_checkItems hi.item h hitems hmem
   exact ih (hi.item _ hmem) hlater hitem
  | fields ht' => cases ht.symm.trans ht'
  | scalar harray => simp [CType.isArray,ht] at harray
 | member ht htypes hmem _ ih =>
  cases listRun_of_checkInitializer hrun with
  | string ht' => cases ht.symm.trans ht'
  | items ht' => cases ht.symm.trans ht'
  | fields ht' hparts _ hfields =>
   cases ht.symm.trans ht'
   cases (h.widens.sees.parts? _ ▸ hparts).symm.trans htypes
   obtain ⟨c',u,d',hlater,hitem⟩:=exists_run_of_checkFields hi.item h hfields hmem
   exact ih (hi.item _ (List.of_mem_zip hmem).2) hlater hitem
  | scalar _ hrecord => simp [CType.isRecord,ht] at hrecord
 | scalar harray hrecord _ ih =>
  cases listRun_of_checkInitializer hrun with
  | string ht => simp [CType.isArray,ht] at harray
  | items ht => simp [CType.isArray,ht] at harray
  | fields ht => simp [CType.isRecord,ht] at hrecord
  | scalar _ _ hitems hitem =>
   cases hitems
   exact ih (hi.item _ List.mem_cons_self) h hitem

lemma taken_le_room (h:a.Later c) (hrun:checkInitializer t (.list items span) c = .ok u d) :
  (t.room? a.records).all (t.taken items ≤ ·) = true := by
 unfold CType.room? CType.taken
 cases listRun_of_checkInitializer hrun with
 | string ht hstring hroom => simpa [ht,hstring] using hroom
 | items ht hstring hroom => simpa [ht,hstring] using hroom
 | fields ht hparts hroom => simp [ht,← h.widens.sees.parts?,hparts,hroom]
 | scalar harray hrecord hitems =>
  obtain ⟨kind,q⟩:=t
  cases kind with
  | array => cases harray
  | record => cases hrecord
  | _ => simp [hitems]

end

lemma string_of_plain {t u elem:CType} {length:Option Nat} {vla:Bool} {e:Expr} {c d:Checker}
  (ht:t.kind = .array elem length vla) (h:checkInitializer t (.expr e) c = .ok u d) :
  elem.isChar = true ∧ ∃ text span, e = .literal (.string text span) ∧
   length.all (text.length ≤ ·) = true := by
 rw [checkInitializer] at h
 split at h
 · cases h
 unfold plainInitializer at h
 rw [ht] at h
 dsimp only at h
 split at h
 · rename_i text span
   split at h
   · rename_i hchar
     refine ⟨hchar,text,span,rfl,?_⟩
     unfold stringInitializer at h
     split at h
     · cases h
     · rename_i hroom
       cases length with
       | none => rfl
       | some n => simpa using hroom
   · cases h
 · cases h

/-- An initializer that is accepted leaves the declared type as it is or fills in the length that
was left out. Without braces an array takes only a string, which its elements must be characters for
and its length have room for, no brace list has more items than there is room for, and the initializer
is accepted again for the type that it has given. -/
theorem initializer_fills_object {c d:Checker} (hc:c.TagsBound) {t u:CType} {i:Initializer}
  (hi:(Piece.initializer i).Refers) (h:checkInitializer t i c = .ok u d) :
  InitializedAs t i u ∧
  (∀ e elem length vla, i = .expr e → t.kind = .array elem length vla →
   elem.isChar = true ∧ ∃ text span, e = .literal (.string text span) ∧
    length.all (text.length ≤ ·) = true) ∧
  (∀ s items span, Initializer.Part c.records s (.list items span) t i →
   (s.room? c.records).all (s.taken items ≤ ·) = true) ∧
  ∃ e, checkInitializer u i d = .ok u e := by
 have hanswer:=initializedAs_checkInitializer t i c u d h
 have hlater:c.Later c:=⟨(Checker.Alike.refl c).widens,hc⟩
 refine ⟨hanswer,?_,fun s items span hpart => ?_,?_⟩
 · rintro e elem length vla rfl ht
   exact string_of_plain ht h
 · obtain ⟨c',u',d',hlater',hrun⟩:=exists_run_of_part hpart hi hlater h
   exact taken_le_room hlater' hrun
 · have houtcome:(checkInitializer t i).outcome c = (some u,d) := by rw [Check.outcome,h]
   have hagain:=(repeats_checkInitializer hi t).again c d hc
   rw [houtcome] at hagain
   obtain ⟨e,he,-⟩:=hagain (Checker.Alike.refl d).widens
   exact ⟨e,ok_of_outcome (hanswer.checkInitializer ▸ he)⟩

/-- `{ { 'a', 'a' }, { 'a' } }` gives two rows to an array of unknown length. -/
theorem initializer_fills_object_rows :
  let one : Initializer := .expr (.literal (.char 97 .nowhere))
  let rows : Initializer := .list [.list [one,one] .nowhere,.list [one] .nowhere] .nowhere
  let grid (n:Option Nat) : CType := .array (.array .int (some 2)) n
  ∃ d e, checkInitializer (grid none) rows (.start false) = .ok (grid (some 2)) d ∧
   checkInitializer (grid (some 2)) rows d = .ok (grid (some 2)) e := by
 intro one rows grid
 have hstart:(Checker.start false).TagsBound:=Moment.Course.tagsBound (.refl (.start false))
 have hrows:(Piece.initializer rows).Refers := by
  repeat' first
   | refine .intro rfl ?_
   | refine List.forall_mem_cons.mpr ⟨?_,?_⟩
   | exact List.forall_mem_nil _
 have hrun:((checkInitializer (grid none) rows).outcome (.start false)).1 = some (grid (some 2)) := by
  decide +kernel
 have hok:=ok_of_outcome (Prod.ext hrun rfl)
 obtain ⟨e,he⟩:=(initializer_fills_object hstart hrows hok).2.2.2
 exact ⟨_,e,hok,he⟩

end CCheck
