import CCheck.Proofs.Checking.After
import CCheck.Proofs.Types.RecordIds
import Mathlib.Logic.Relation

/-! # The course of an analysis

A moment of an analysis is a state together with the numbers of records in hand, which types that
are in no state yet refer to. A step changes the state with the types in hand only, or takes numbers
in hand that the state has. -/

set_option autoImplicit false

namespace CCheck

open Check

variable {α β:Type}

/-! ### Moments and steps -/

structure Moment where
 state : Checker
 held : List Nat

def Moment.start (warnUnused:Bool) : Moment := ⟨.start warnUnused,[]⟩

def Moment.Knows (m:Moment) (t:CType) : Prop := t.recordIds ⊆ m.held

/-- Where an analysis finds the numbers of records: in the types of symbols and members, in the
tags, and in the table of the specifiers that were defined before. -/
inductive Checker.Finds (c:Checker) (id:Nat) : Prop where
 | symbol {name:String} {x:Symbol} (h:c.symbols.lookup? name = some x)
   (hid:id ∈ x.type.recordIds)
 | field {record:Nat} {d:RecordDef} {fields:List Field} {f:Field}
   (hd:c.records.get? record = some d) (hfields:d.fields = some fields) (hf:f ∈ fields)
   (hid:id ∈ f.type.recordIds)
 | tag {name:String} (h:c.symbols.tag? name = some (.record id))
 | specifier {start:Nat} (h:c.definedRecords.lookup start = some id)

lemma Checker.finds_member {c:Checker} {t:CType} {f:Field} {id:Nat} {name:String}
  (h:c.records.member? t name = some f) (hid:id ∈ f.type.recordIds) : c.Finds id := by
 unfold Registry.member? at h
 split at h
 · obtain ⟨d,hd,hf⟩:=Option.bind_eq_some_iff.mp h
   obtain ⟨fields,hfields,hfind⟩:=Option.bind_eq_some_iff.mp hf
   exact .field hd hfields (List.mem_of_find?_eq_some hfind) hid
 · cases h

inductive Checker.Change (held:List Nat) (c:Checker) : Checker → Prop where
 | use (name:String) : Change held c { c with symbols := c.symbols.markUsed name }
 | call (x:LibraryCall) : Change held c { c with calls := c.calls ++ [x] }
 | declare (x:Symbol) {symbols:SymbolTable} (h:c.symbols.declare x = .ok symbols)
   (hx:x.type.recordIds ⊆ held) : Change held c { c with symbols }
 | declareEnum (tag:Ident) {symbols:SymbolTable}
   (h:c.symbols.declareTag tag.name .enum tag.span = .ok symbols) :
   Change held c { c with symbols }
 | redeclare (name:String) (replaced:Symbol → Bool) {t:CType} (isDefined:Bool)
   (ht:t.recordIds ⊆ held) :
   Change held c { c with
    symbols := c.symbols.updateLocal name fun x =>
     { x with
       type := if replaced x then t else x.type
       isDefined := x.isDefined || isDefined } }
 | complete {id:Nat} {members:List (String × CType)} {records:Registry}
   (h:c.records.complete id members = .ok records)
   (hmembers:∀ p ∈ members, p.2.recordIds ⊆ held) : Change held c { c with records }
 | noteRecord (start:Nat) {id:Nat} (h:id ∈ held) :
   Change held c { c with definedRecords := (start,id) :: c.definedRecords }
 | noteEnum (start:Nat) : Change held c { c with definedEnums := start :: c.definedEnums }
 | noteInitialized (name:String) :
   Change held c { c with initialized := name :: c.initialized }
 | enterScope : Change held c c.enterScope
 | leaveScope : Change held c c.leaveScope
 | setFlow (flow:Flow) : Change held c { c with flow }
 | enterSwitch {frame:SwitchFrame} (h:frame.type.recordIds ⊆ held) :
   Change held c { c with switches := frame :: c.switches }
 | leaveSwitch : Change held c { c with switches := c.switches.tail }
 | caseLabel (v:Int64) :
   Change held c { c with
    switches := c.switches.modifyHead fun f => { f with values := v :: f.values } }
 | defaultLabel :
   Change held c { c with
    switches := c.switches.modifyHead fun f => { f with hasDefault := true } }
 | enterFunction (name:String) {ret:CType} (h:ret.recordIds ⊆ held) :
   Change held c { c with function := some (.start name ret),flow := .outside,switches := [] }
 | returned {t:CType} (h:t.recordIds ⊆ held) :
   Change held c { c with
    function := c.function.map fun f => { f with returns := f.returns ++ [t] } }
 | goto (label:Ident) :
   Change held c { c with
    function := c.function.map fun f => { f with gotos := f.gotos ++ [label] } }
 | label (label:Ident) :
   Change held c { c with
    function := c.function.map fun f =>
     { f with labels := f.labels ++ [.fresh label .label .void none true] } }
 | leaveFunction {type:CType} (h:type.recordIds ⊆ held) : Change held c (c.leaveFunction type)
 | warn (message:String) (span:Span) : Change held c (c.warn message span)
 | report (f:Fault) : Change held c (c.report f)

/-- One step. The number of a new record is in hand; with a tag, the tag is declared too unless
the scope has it. -/
inductive Moment.Step (m:Moment) : Moment → Prop where
 | change {c:Checker} (h:m.state.Change m.held c) : Step m ⟨c,m.held⟩
 | find (ids:List Nat) (h:∀ id ∈ ids, m.state.Finds id) : Step m ⟨m.state,ids ++ m.held⟩
 | newRecord (kind:RecordKind) (tag:Option String) :
   Step m ⟨{ m.state with records := (m.state.records.declare kind tag).2 },
    m.state.records.size :: m.held⟩
 | newTaggedRecord (kind:RecordKind) (tag:Ident) {symbols:SymbolTable}
   (h:m.state.symbols.declareTag tag.name (.record m.state.records.size) tag.span =
    .ok symbols) :
   Step m ⟨{ m.state with symbols,records := (m.state.records.declare kind (some tag.name)).2 },
    m.state.records.size :: m.held⟩

def Moment.Course : Moment → Moment → Prop := Relation.ReflTransGen Moment.Step

namespace Moment

variable {m n o:Moment} {t:CType}

lemma Step.held_subset (h:m.Step n) : m.held ⊆ n.held := by
 cases h with
 | change => exact List.Subset.refl _
 | find ids => exact List.subset_append_right ids m.held
 | newRecord => exact List.subset_cons_self _ _
 | newTaggedRecord => exact List.subset_cons_self _ _

lemma Course.refl (m:Moment) : m.Course m := Relation.ReflTransGen.refl

lemma Course.trans (h:m.Course n) (h':n.Course o) : m.Course o :=
 Relation.ReflTransGen.trans h h'

lemma Step.course (h:m.Step n) : m.Course n := Relation.ReflTransGen.single h

lemma Course.held_subset (h:m.Course n) : m.held ⊆ n.held := by
 induction h with
 | refl => exact List.Subset.refl _
 | tail _ hstep ih => exact List.Subset.trans ih hstep.held_subset

lemma Course.knows (h:m.Course n) (ht:m.Knows t) : n.Knows t :=
 List.Subset.trans ht h.held_subset

lemma Course.invariant {P:Moment → Prop} (hP:∀ m n, m.Step n → P m → P n)
  (h:m.Course n) (hm:P m) : P n := by
 induction h with
 | refl => exact hm
 | tail _ hstep ih => exact hP _ _ hstep ih

end Moment

/-! ### Runs of checking steps -/

inductive Check.Traced (Q:α → Moment → Prop) (m:Moment) :
  EStateM.Result Fault Checker α → Prop where
 | ok {a:α} {n:Moment} (course:m.Course n) (answer:Q a n) : Traced Q m (.ok a n.state)
 | error {f:Fault} {n:Moment} (course:m.Course n) : Traced Q m (.error f n.state)

def Check.Traces (m:Moment) (x:Check α) (Q:α → Moment → Prop) : Prop :=
 Traced Q m (x m.state)

abbrev Check.RunsAt (m:Moment) (x:Check α) : Prop := Traces m x fun _ _ => True

namespace Check

variable {m:Moment} {Q Q':α → Moment → Prop} {R:β → Moment → Prop} {x:Check α}
 {k:α → Check β}

lemma Traced.after {n:Moment} {o:EStateM.Result Fault Checker α} (h:m.Course n)
  (ho:Traced Q n o) : Traced Q m o := by
 cases ho with
 | ok course answer => exact .ok (h.trans course) answer
 | error course => exact .error (h.trans course)

namespace Traces

lemma mono (h:Traces m x Q) (hQ:∀ a n, m.Course n → Q a n → Q' a n) :
  Traces m x Q' := by
 unfold Traces at h ⊢
 generalize x m.state = o at h
 cases h with
 | ok course answer => exact .ok course (hQ _ _ course answer)
 | error course => exact .error course

lemma pure {a:α} (h:Q a m) : Traces m (pure a) Q := .ok (.refl m) h

lemma fail (cause:Cause) (span:Span) : Traces m (fail cause span:Check α) Q :=
 .error (.refl m)

lemma bind (h:Traces m x Q) (hk:∀ a n, m.Course n → Q a n → Traces n (k a) R) :
  Traces m (x >>= k) R := by
 unfold Traces at h ⊢
 simp only [Bind.bind,EStateM.bind]
 generalize x m.state = o at h
 cases h with
 | ok course answer => exact .after course (hk _ _ course answer)
 | error course => exact .error course

lemma get {k:Checker → Check β} (h:Traces m (k m.state) R) :
  Traces m (MonadState.get >>= k) R := h

lemma modify {f:Checker → Checker} {Q:PUnit → Moment → Prop}
  (h:m.state.Change m.held (f m.state)) (hQ:∀ n, Q ⟨⟩ n) : Traces m (modify f) Q :=
 .ok (Moment.Step.change h).course (hQ _)

lemma find {ids:List Nat} (hids:∀ id ∈ ids, m.state.Finds id)
  (h:Traces ⟨m.state,ids ++ m.held⟩ x Q) : Traces m x Q :=
 .after (Moment.Step.find ids hids).course h

lemma ite {c:Prop} [Decidable c] {x y:Check α} (yes:Traces m x Q) (no:Traces m y Q) :
  Traces m (if c then x else y) Q := by
 split
 · exact yes
 · exact no

end Traces

namespace RunsAt

lemma updateSymbols {f:SymbolTable → Except Fault SymbolTable}
  (h:∀ symbols, f m.state.symbols = .ok symbols →
   m.state.Change m.held { m.state with symbols }) : RunsAt m (updateSymbols f) := by
 unfold RunsAt Traces Check.updateSymbols
 cases hf : f m.state.symbols with
 | ok symbols => exact .ok (Moment.Step.change (h symbols hf)).course trivial
 | error fault => exact .error (.refl m)

lemma reporting {x:Check Unit} (h:RunsAt m x) : RunsAt m (reporting x) := by
 unfold RunsAt Traces at h ⊢
 unfold Check.reporting
 generalize x m.state = o at h
 cases h with
 | ok course => exact .ok course trivial
 | error course =>
  exact .ok (course.trans (Moment.Step.change (.report _)).course) trivial

lemma between {enter:Checker → Checker} {leave:Checker → Checker → Checker} {x:Check α}
  (henter:m.state.Change m.held (enter m.state))
  (hleave:∀ n : Moment, n.state.Change n.held (leave m.state n.state))
  (h:∀ n, m.Course n → RunsAt n x) : RunsAt m (between enter leave x) := by
 have hcourse:m.Course ⟨enter m.state,m.held⟩:=(Moment.Step.change henter).course
 have hx:Traced _ _ (x (enter m.state)):=h _ hcourse
 unfold RunsAt Traces Check.between
 generalize x (enter m.state) = o at hx
 cases hx with
 | ok course =>
  exact .ok ((hcourse.trans course).trans (Moment.Step.change (hleave _)).course) trivial
 | error course =>
  exact .error ((hcourse.trans course).trans (Moment.Step.change (hleave _)).course)

end RunsAt

end Check

end CCheck
