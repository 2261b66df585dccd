import CCheck.Proofs.Checking.After
import CCheck.Proofs.Checking.SymbolRules
import CCheck.Proofs.Checking.TermLogic

/-! # Accounts of checking

An account relates the states before and after a run that may meet given marks, and the fault that
it may have ended with. If the primitive steps of checking are in keeping with it, so are all runs
of checking expressions, types and initializers. -/

set_option autoImplicit false

namespace CCheck

open Check

variable {α β:Type}

/-- A relation of the states before and after a run, given what the run may have met. The fault is
that which the run ended with, if any. -/
structure Account where
 rel : List Mark → Checker → Option Fault → Checker → Prop
 refl : ∀ c, rel [] c none c
 trans : ∀ {ms ms' c d e o}, rel ms c none d → rel ms' d o e → rel (ms ++ ms') c o e
 mono : ∀ {ms ms' c d o}, rel ms c o d → ms.Sublist ms' → rel ms' c o d
 recover : ∀ {ms c d f}, rel ms c (some f) d → rel ms c none d
 refuse : ∀ c {f:Fault}, f.cause.isOrdinary = true → rel [] c (some f) c
 typeRead : ∀ {c i x}, c.symbols.lookup? i.name = some x → x.kind = .type ∨ x.kind = .label →
  rel [.value i] c (some ⟨.expectedExpr ("type name '" ++ i.name ++ "'"),i.span⟩) c
 use : ∀ c i, rel [.value i] c none { c with symbols := c.symbols.markUsed i.name }
 callee : ∀ {i c d o}, rel [.value i] c o d → ∀ span, rel [.call i span] c o d
 call : ∀ {c i f}, c.symbols.lookup? i.name = none → LibraryFunction.find? i.name = some f →
  ∀ span, rel [.call i span] c none { c with calls := c.calls ++ [⟨f.name,f.id,span⟩] }
 again : ∀ {ms c d o}, rel ms c o d → rel [.again ms] c o d
 enumerator : ∀ {c name v t},
  c.symbols.declare (.fresh name (.constant v) .int none true) = .ok t →
  rel [] c none { c with symbols := t }
 tag : ∀ {c name tag span t}, c.symbols.declareTag name tag span = .ok t →
  rel [] c none { c with symbols := t }
 record : ∀ c kind tag, rel [] c none { c with records := (c.records.declare kind tag).2 }
 complete : ∀ {c id members r}, c.records.complete id members = .ok r →
  rel [] c none { c with records := r }
 /-- A specifier that is met for the first time is noted, and its members are resolved. -/
 defineRecord : ∀ {c start id ms o d}, c.definedRecords.lookup start = none →
  rel ms { c with definedRecords := (start,id) :: c.definedRecords } o d →
  rel [.definition (.record start) ms] c o d
 defineEnum : ∀ {c start ms o d}, c.definedEnums.contains start = false →
  rel ms { c with definedEnums := start :: c.definedEnums } o d →
  rel [.definition (.enum start) ms] c o d

namespace Account

variable (A:Account)

inductive Ends (ms:List Mark) (c:Checker) : EStateM.Result Fault Checker α → Prop
 | ok {a:α} {d:Checker} (state:A.rel ms c none d) : Ends ms c (.ok a d)
 | error {f:Fault} {d:Checker} (state:A.rel ms c (some f) d) : Ends ms c (.error f d)

def Meets (ms:List Mark) (x:Check α) : Prop := ∀ c, A.Ends ms c (x c)

inductive Stays (ms:List Mark) (c:Checker) : EStateM.Result Fault Checker α → Prop
 | ok (a:α) : Stays ms c (.ok a c)
 | error {f:Fault} (state:A.rel ms c (some f) c) : Stays ms c (.error f c)

def Looks (ms:List Mark) (x:Check α) : Prop := ∀ c, A.Stays ms c (x c)

/-! ### Programs -/

variable {A} {ms ms':List Mark} {x:Check α} {k:α → Check β}

lemma Ends.mono {c:Checker} {r:EStateM.Result Fault Checker α} (h:A.Ends ms c r)
  (hms:ms.Sublist ms') : A.Ends ms' c r := by
 cases h with
 | ok state => exact .ok (A.mono state hms)
 | error state => exact .error (A.mono state hms)

lemma Ends.after {c d:Checker} {r:EStateM.Result Fault Checker α}
  (h:A.rel ms c none d) (hr:A.Ends ms' d r) : A.Ends (ms ++ ms') c r := by
 cases hr with
 | ok state => exact .ok (A.trans h state)
 | error state => exact .error (A.trans h state)

lemma Ends.bind {c:Checker} (h:A.Ends ms c (x c))
  (hk:∀ a d, x c = .ok a d → A.Ends ms' d (k a d)) : A.Ends (ms ++ ms') c ((x >>= k) c) := by
 simp only [Bind.bind,EStateM.bind]
 generalize x c = r at h hk
 cases h with
 | ok state => exact (hk _ _ rfl).after state
 | error state => exact .error (A.mono state (List.sublist_append_left _ _))

lemma Ends.defineRecord {c:Checker} {start id:Nat}
  (h:c.definedRecords.lookup start = none) {r:EStateM.Result Fault Checker α}
  (hr:A.Ends ms { c with definedRecords := (start,id) :: c.definedRecords } r) :
  A.Ends [.definition (.record start) ms] c r := by
 cases hr with
 | ok state => exact .ok (A.defineRecord h state)
 | error state => exact .error (A.defineRecord h state)

lemma Ends.defineEnum {c:Checker} {start:Nat} (h:c.definedEnums.contains start = false)
  {r:EStateM.Result Fault Checker α}
  (hr:A.Ends ms { c with definedEnums := start :: c.definedEnums } r) :
  A.Ends [.definition (.enum start) ms] c r := by
 cases hr with
 | ok state => exact .ok (A.defineEnum h state)
 | error state => exact .error (A.defineEnum h state)

lemma rel_refl (ms:List Mark) (c:Checker) : A.rel ms c none c :=
 A.mono (A.refl c) (List.nil_sublist ms)

namespace Looks

lemma pure (a:α) : A.Looks ms (pure a) := fun _ => .ok a

lemma fail {cause:Cause} (h:cause.isOrdinary = true) (span:Span) :
  A.Looks ms (Check.fail cause span:Check α) :=
 fun c => .error (A.mono (A.refuse c h) (List.nil_sublist ms))

lemma mono (h:A.Looks ms x) (hms:ms.Sublist ms') : A.Looks ms' x := by
 intro c
 have hc:=h c
 generalize x c = r at hc
 cases hc with
 | ok a => exact .ok a
 | error state => exact .error (A.mono state hms)

lemma bind (h:A.Looks ms x) (hk:∀ a, x.Returns a → A.Looks ms' (k a)) :
  A.Looks (ms ++ ms') (x >>= k) := by
 intro c
 have hc:=h c
 simp only [Bind.bind,EStateM.bind]
 cases hx : x c <;> rw [hx] at hc <;> cases hc
 case ok a => exact (hk a ⟨c,c,hx⟩).mono (List.sublist_append_right _ _) c
 case error state => exact .error (A.mono state (List.sublist_append_left _ _))

lemma lookup {name:String} {k:Option Symbol → Check β} (h:∀ x, A.Looks ms (k x)) :
  A.Looks ms (lookup? name >>= k) := fun c => h _ c

lemma attempt {k:Except Fault α → Check β} (h:A.Looks ms x) (hk:∀ a, A.Looks ms' (k a)) :
  A.Looks ms' (attempt x >>= k) := by
 intro c
 have hc:=h c
 simp only [Bind.bind,EStateM.bind,Check.attempt]
 generalize x c = r at hc
 cases hc with
 | ok a => exact hk _ c
 | error _ => exact hk _ c

lemma get {k:Checker → Check β} (h:∀ c, A.Looks ms (k c)) :
  A.Looks ms (MonadState.get >>= k) := fun c => h c c

lemma read (f:Checker → α) : A.Looks ms (do return f (← MonadState.get)) :=
 get fun _ => pure _

lemma typeName (t:CType) : A.Looks ms (typeName t) := read _

lemma failNaming (t:CType) {cause:String → Cause} (h:∀ name, (cause name).isOrdinary = true)
  (span:Span) : A.Looks ms (CCheck.Check.typeName t >>= fun name =>
   (Check.fail (cause name) span : Check α)) := fun c => fail (h _) span c

lemma failNamingBoth (t u:CType) {cause:String → String → Cause}
  (h:∀ a b, (cause a b).isOrdinary = true) (span:Span) :
  A.Looks ms (CCheck.Check.typeName t >>= fun a => CCheck.Check.typeName u >>= fun b =>
   (Check.fail (cause a b) span : Check α)) := fun c => fail (h _ _) span c

lemma ite {c:Prop} [Decidable c] {x y:Check α} (yes:A.Looks ms x) (no:A.Looks ms y) :
  A.Looks ms (if c then x else y) := by
 split
 · exact yes
 · exact no

lemma meets (h:A.Looks ms x) : A.Meets ms x := by
 intro c
 have hc:=h c
 generalize x c = r at hc
 cases hc with
 | ok a => exact .ok (rel_refl ms c)
 | error state => exact .error state

lemma endsThen {c:Checker} (h:A.Looks ms x)
  (hk:∀ a, x c = .ok a c → A.Ends ms c (k a c)) : A.Ends ms c ((x >>= k) c) := by
 have hc:=h c
 simp only [Bind.bind,EStateM.bind]
 generalize x c = r at hc hk
 cases hc with
 | ok a => exact hk a rfl
 | error state => exact .error state

lemma andThen (h:A.Looks ms x) (hk:∀ a, A.Meets ms (k a)) : A.Meets ms (x >>= k) :=
 fun c => h.endsThen fun a _ => hk a c

end Looks

namespace Meets

lemma pure (a:α) : A.Meets ms (pure a) := (Looks.pure a).meets

lemma mono (h:A.Meets ms x) (hms:ms.Sublist ms') : A.Meets ms' x := fun c => (h c).mono hms

lemma bind (h:A.Meets ms x) (hk:∀ a, A.Meets ms' (k a)) :
  A.Meets (ms ++ ms') (x >>= k) := fun c => (h c).bind fun a d _ => hk a d

lemma last (h:A.Meets ms x) (hk:∀ a, A.Meets [] (k a)) : A.Meets ms (x >>= k) := by
 rw [← List.append_nil ms]
 exact h.bind hk

lemma first (h:A.Meets [] x) (hk:∀ a, A.Meets ms (k a)) : A.Meets ms (x >>= k) := h.bind hk

lemma ite {c:Prop} [Decidable c] {x y:Check α} (yes:A.Meets ms x) (no:A.Meets ms y) :
  A.Meets ms (if c then x else y) := by
 split
 · exact yes
 · exact no

lemma modify {f:Checker → Checker} (h:∀ c, A.rel ms c none (f c)) :
  A.Meets ms (modify f) := fun c => .ok (h c)

lemma lookup {name:String} {k:Option Symbol → Check β} (h:∀ x, A.Meets ms (k x)) :
  A.Meets ms (lookup? name >>= k) := fun c => h _ c

lemma attempt (h:A.Meets ms x) : A.Meets ms (attempt x) := by
 intro c
 have hc:=h c
 unfold Check.attempt
 generalize x c = r at hc
 cases hc with
 | ok state => exact .ok state
 | error state => exact .ok (A.recover state)

lemma again (h:A.Meets ms x) : A.Meets [.again ms] x := by
 intro c
 have hc:=h c
 generalize x c = r at hc
 cases hc with
 | ok state => exact .ok (A.again state)
 | error state => exact .error (A.again state)

lemma callee {i:Ident} (h:A.Meets [.value i] x) (span:Span) : A.Meets [.call i span] x := by
 intro c
 have hc:=h c
 generalize x c = r at hc
 cases hc with
 | ok state => exact .ok (A.callee state span)
 | error state => exact .error (A.callee state span)

lemma value {x:Check CType} (h:A.Meets ms x) : A.Meets ms (value x) := h.last fun _ => .pure _

end Meets

lemma Looks.eq_of_ok (h:A.Looks ms x) {c d:Checker} {a:α} (hx:x c = .ok a d) : d = c := by
 have hc:=h c
 rw [hx] at hc
 cases hc with
 | ok => rfl

lemma Looks.eq_of_error (h:A.Looks ms x) {c d:Checker} {f:Fault}
  (hx:x c = .error f d) : d = c := by
 have hc:=h c
 rw [hx] at hc
 cases hc with
 | error => rfl

lemma Meets.rel_of_ok (h:A.Meets ms x) {c d:Checker} {a:α} (hx:x c = .ok a d) :
  A.rel ms c none d := by
 have hc:=h c
 rw [hx] at hc
 cases hc with
 | ok state => exact state

lemma Meets.rel_of_error (h:A.Meets ms x) {c d:Checker} {f:Fault}
  (hx:x c = .error f d) : A.rel ms c (some f) d := by
 have hc:=h c
 rw [hx] at hc
 cases hc with
 | error state => exact state

def looking (A:Account) : StepLogic .identity where
 Holds _ ms x _ _ := A.Looks ms x
 tracks := False
 Known _ := True
 pure _ := .pure _
 fail h := .fail (Cause.isOrdinary_of_isPlain h)
 failNaming t _ h := .failNaming t fun a => Cause.isOrdinary_of_isPlain (h a)
 failNamingBoth t u _ h := .failNamingBoth t u fun a b => Cause.isOrdinary_of_isPlain (h a b)
 bind h hk := h.bind hk
 weaken h _ := h.mono
 look _ _ h c := h c c (.refl c) c
 lookup _ hnone hsome := .lookup fun x => by
  cases x with
  | none => exact hnone
  | some x => exact hsome x x rfl rfl
 attempt h hok herror := (h.attempt fun x => by
  cases x with
  | ok a => exact hok a
  | error e => exact herror e e).mono (List.sublist_cons_self _ _)

namespace Looks

lemma of {x y:Check α} {f:α → List Nat} (h:A.looking.Holds [] ms x y f) : A.Looks ms x := h

lemma identType (i:Ident) : A.Looks [.value i] (identType i) := by
 intro c
 have hfound:Check.lookup? i.name c = .ok (c.symbols.lookup? i.name) c:=rfl
 simp only [Check.identType,Bind.bind,EStateM.bind,hfound]
 cases hx : c.symbols.lookup? i.name with
 | none =>
  dsimp only
  cases LibraryFunction.find? i.name with
  | some f => exact .ok _
  | none => exact fail rfl _ c
 | some x =>
  dsimp only
  cases hkind : x.kind with
  | type => exact .error (A.typeRead hx (.inl hkind))
  | label => exact .error (A.typeRead hx (.inr hkind))
  | _ => exact .ok _

lemma namedType (name:String) (span:Span) : A.Looks ms (namedType name span) := by
 refine lookup fun x => ?_
 cases x with
 | none => exact fail rfl span
 | some x =>
  dsimp only
  split
  · exact pure _
  · exact fail rfl span

end Looks

namespace Meets

/-- A name that is not declared is one of the library, whose call is recorded; any other callee is
checked like an operand. -/
lemma calleeType (callee:Expr) {x:Check CType} (hx:A.Meets callee.marks x) (span:Span) :
  A.Meets (Mark.ofCallee callee span callee.marks) (calleeType callee x span) := by
 cases callee with
 | ident i =>
  intro c
  have hfound:Check.lookup? i.name c = .ok (c.symbols.lookup? i.name) c:=rfl
  simp only [Check.calleeType,Check.libraryCallee?,Bind.bind,EStateM.bind,hfound]
  cases hi : c.symbols.lookup? i.name with
  | some y => exact (Meets.callee (i := i) hx span).value c
  | none =>
   cases hf : LibraryFunction.find? i.name with
   | none => exact (Meets.callee (i := i) hx span).value c
   | some f => exact .ok (A.call hi hf span)
 | _ => exact hx.value

end Meets

/-! ### Records and enumerations -/

namespace Meets

lemma newRecord (kind:RecordKind) (tag:Option String) : A.Meets [] (newRecord kind tag) :=
 fun c => .ok (A.record c kind tag)

lemma updateSymbols {f:SymbolTable → Except Fault SymbolTable}
  (hok:∀ {c t}, f c.symbols = .ok t → A.rel ms c none { c with symbols := t })
  (herror:∀ {t e}, f t = .error e → e.cause.isOrdinary = true) :
  A.Meets ms (updateSymbols f) := by
 intro c
 unfold Check.updateSymbols
 cases hf : f c.symbols with
 | ok t => exact .ok (hok hf)
 | error e => exact .error (A.mono (A.refuse c (herror hf)) (List.nil_sublist _))

lemma declareTag (tag:Ident) (t:Tag) : A.Meets [] (declareTag tag t) := by
 refine updateSymbols (fun h => A.tag h) fun {t e} h => ?_
 rw [SymbolTable.declareTag] at h
 split at h
 · cases h
   rfl
 · cases h

lemma newTaggedRecord (kind:RecordKind) (tag:Ident) :
  A.Meets [] (newTaggedRecord kind tag) :=
 (newRecord kind _).first fun _ => (declareTag tag _).first fun _ => .pure _

lemma completeRecord (id:Nat) (members:List (String × CType)) (span:Span) :
  A.Meets [] (completeRecord id members span) := by
 intro c
 unfold Check.completeRecord
 cases h : c.records.complete id members with
 | ok r =>
  rw [Registry.completeInPlace_ok h]
  exact .ok (A.complete h)
 | error flaw =>
  rw [Registry.completeInPlace_error h]
  exact .error (A.refuse c rfl)

lemma declareConstant (name:Ident) (v:Int64) : A.Meets [] (declareConstant name v) := by
 refine updateSymbols (f := (·.declare (.fresh name (.constant v) .int none true)))
  (fun h => A.enumerator h) fun {t e} h => ?_
 rw [SymbolTable.declare] at h
 split at h
 · cases h
   rfl
 · cases h

end Meets

def steps (A:Account) : StepLogic .identity where
 Holds _ ms x _ _ := A.Meets ms x
 tracks := False
 Known _ := True
 pure _ := .pure _
 fail h span := (Looks.fail (Cause.isOrdinary_of_isPlain h) span).meets
 failNaming _ _ h span c := (Looks.fail (Cause.isOrdinary_of_isPlain (h _)) span).meets c
 failNamingBoth _ _ _ h span c := (Looks.fail (Cause.isOrdinary_of_isPlain (h _ _)) span).meets c
 bind h hk c := (h c).bind fun a d hd => hk a ⟨c,d,hd⟩ d
 weaken h _ := h.mono
 look _ _ h c := h c c (.refl c) c
 lookup _ hnone hsome := .lookup fun x => by
  cases x with
  | none => exact hnone
  | some x => exact hsome x x rfl rfl
 attempt h hok herror := h.again.attempt.bind fun x => by
  cases x with
  | ok a => exact hok a
  | error e => exact herror e e

lemma tags (A:Account) : A.steps.Tags where
 newRecord kind tag := (Meets.newRecord kind tag).mono (List.nil_sublist _)
 newTaggedRecord kind tag := (Meets.newTaggedRecord kind tag).mono (List.nil_sublist _)
 declareEnum tag := (Meets.declareTag tag .enum).mono (List.nil_sublist _)
 look _ _ h c := h c c (.refl c) c

lemma Meets.openRecord (kind:RecordKind) (tag:Option Ident) :
  A.Meets [] (openRecord kind tag) :=
 A.tags.openRecord (κ := []) kind tag

lemma definedRecords_openRecord (kind:RecordKind) (tag:Option Ident) :
  Check.Follows (fun c d => d.definedRecords = c.definedRecords) (openRecord kind tag) := by
 have hnew:Check.Follows (fun c d => d.definedRecords = c.definedRecords)
   (Check.newRecord kind none) := fun _ => rfl
 cases tag with
 | none => exact hnew
 | some tag =>
  have htagged:Check.Follows (fun c d => d.definedRecords = c.definedRecords)
    (newTaggedRecord kind tag) := by
   refine Follows.bind (fun h h' => h'.trans h) (fun _ => rfl) fun id => ?_
   refine Follows.bind (fun h h' => h'.trans h) (fun c => ?_) fun _ _ => rfl
   unfold Check.declareTag Check.updateSymbols Check.after
   dsimp only
   split <;> rename_i h <;> split at h <;> cases h <;> rfl
  refine Follows.bind (fun h h' => h'.trans h) (fun _ => rfl) fun c => ?_
  split
  · exact htagged
  · refine Follows.bind (fun h h' => h'.trans h) (fun _ => rfl) fun c => ?_
    dsimp only
    split
    · split
      · exact fun _ => rfl
      · exact fun _ => rfl
    · exact fun _ => rfl

lemma Meets.defineRecord {members:List Member}
  (h:A.Meets ms (resolveMembers [] members)) (kind:RecordKind) (tag:Option Ident) (span:Span) :
  A.Meets [.definition (.record span.start) ms]
   (resolveRecord ⟨kind,tag,some members,span⟩) := by
 intro c
 have hfound:definedRecord? span c = .ok (c.definedRecords.lookup span.start) c:=rfl
 rw [CCheck.resolveRecord]
 simp only [Bind.bind,EStateM.bind,hfound]
 cases hlookup : c.definedRecords.lookup span.start with
 | some id => exact .ok (rel_refl _ c)
 | none =>
  refine (openRecord kind tag c).bind fun id d hd => ?_
  have hnew:d.definedRecords.lookup span.start = none := by
   have hsame:=definedRecords_openRecord kind tag c
   unfold Check.after at hsame
   rw [hd] at hsame
   rw [hsame,hlookup]
  exact Ends.defineRecord hnew
   (h.last (fun ms => (completeRecord id ms span).first fun _ => .pure id) _)

lemma Meets.defineEnum {es:List Enumerator} (h:A.Meets ms (declareEnumerators 0 es))
  (tag:Option Ident) (span:Span) :
  A.Meets [.definition (.enum span.start) ms] (resolveEnum ⟨tag,some es,span⟩) := by
 intro c
 have hfound:isEnumDefined span c = .ok (c.definedEnums.contains span.start) c:=rfl
 rw [CCheck.resolveEnum]
 simp only [Bind.bind,EStateM.bind,hfound]
 cases hnew : c.definedEnums.contains span.start with
 | true => exact .ok (rel_refl _ c)
 | false => exact Ends.defineEnum hnew (Meets.first (A.tags.openEnum (κ := []) tag) (fun _ => h) _)

/-! ### Trees -/

def logic (A:Account) : TermLogic .identity where
 __ := A.steps
 Admits _ := True
 child _ _ := trivial
 known _ := trivial
 identType _ := (Looks.identType _).meets
 ident {_ i} _ :=
  (Looks.identType i).andThen fun _ => (Meets.modify fun c => A.use c i).last fun _ => .pure _
 calleeType _ hx span := Meets.calleeType _ (hx (κ := [])) span
 namedType _ span := (Looks.namedType _ span).meets
 referRecord _ := A.tags.referRecord (κ := []) _ _
 defineRecord _ h := Meets.defineRecord (h (κ := [])) _ _ _
 referEnum _ := A.tags.referEnum (κ := []) _
 defineEnum _ h := Meets.defineEnum (h (κ := [])) _ _
 declareConstant _ v := (Meets.declareConstant _ v).mono (List.nil_sublist _)

variable (A)

lemma checkExpr (e:Expr) : A.Meets e.marks (checkExpr e) :=
 A.logic.checkExpr (κ := []) trivial

lemma evalConst (e:Expr) : A.Meets e.evaluated (evalConst e) :=
 A.logic.evalConst (κ := []) trivial

lemma arrayLength (size:Expr) (vla:Bool) :
  A.Meets (Mark.ofSize vla size.marks size.evaluated)
   (arrayLength size vla (CCheck.evalConst size) (CCheck.checkExpr size)) :=
 StepLogic.Holds.arrayLength (L := A.steps) (κ := []) (v := CCheck.evalConst size)
  (y := CCheck.checkExpr size) size vla (A.evalConst size) (A.checkExpr size)

lemma resolveType (t:TypeExpr) : A.Meets t.marks (resolveType t) :=
 A.logic.resolveType (κ := []) trivial

lemma resolveParams (ps:List Param) : A.Meets (Param.marksAll ps) (resolveParams ps) :=
 A.logic.resolveParams (κ := []) fun _ _ => trivial

lemma resolveParam (p:Param) : A.Meets p.marks (resolveParam p) :=
 A.logic.resolveParam (κ := []) trivial

lemma resolveMembers (seen:List String) (ms:List Member) :
  A.Meets (Member.marksAll ms) (resolveMembers seen ms) :=
 A.logic.resolveMembers (κ := []) seen fun _ _ => trivial

lemma resolveEnum (spec:EnumSpec) : A.Meets spec.marks (resolveEnum spec) :=
 A.logic.resolveEnum (κ := []) trivial

lemma declareEnumerators (next:Int64) (es:List Enumerator) :
  A.Meets (Enumerator.marksAll es) (declareEnumerators next es) :=
 A.logic.declareEnumerators (κ := []) next fun _ _ => trivial

lemma rvalue (e:Expr) : A.Meets e.marks (rvalue e) := (A.checkExpr e).value

lemma test (e:Expr) : A.Meets e.marks (test e) := A.logic.test (κ := []) trivial

end Account

end CCheck
