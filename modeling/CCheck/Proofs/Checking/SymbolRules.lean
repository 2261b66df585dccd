import CCheck.Proofs.Checking.StepLogic

/-! # Logics of names and tags

Rules for the ways in which checking changes what names and tags stand for give rules for the steps
that look them up. -/

set_option autoImplicit false

namespace CCheck

open Check

structure Checker.Shows (c d:Checker) : Prop where
 tag? : ∀ name, d.symbols.tag? name = c.symbols.tag? name
 tagLocal? : ∀ name, d.symbols.tagLocal? name = c.symbols.tagLocal? name
 records : d.records = c.records

lemma Checker.Shows.refl (c:Checker) : c.Shows c := ⟨fun _ => rfl,fun _ => rfl,rfl⟩

lemma SymbolTable.tag?_of_tagLocal? {t:SymbolTable} {tag:Tag} {name:String}
  (h:t.tagLocal? name = some tag) : t.tag? name = some tag := by
 have hcurrent:t.current.tag? name = some tag:=h
 rw [tag?,scopes,List.findSome?_cons,hcurrent]

def Tag.ids : Option Tag → List Nat
 | some (.record id) => [id]
 | _ => []

namespace StepLogic

variable {ρ:Relocation} (L:StepLogic ρ)

attribute [local simp] List.subset_append_of_subset_right

structure Tags : Prop where
 newRecord {κ μ} kind tag : L.Holds κ μ (newRecord kind tag) (newRecord kind tag) ([·])
 newTaggedRecord {κ μ} kind tag :
  L.Holds κ μ (newTaggedRecord kind tag) (newTaggedRecord kind (tag.mapSpan ρ)) ([·])
 declareEnum {κ μ} tag :
  L.Runs κ μ (declareTag tag .enum) (declareTag (tag.mapSpan ρ) .enum)
 look {α κ μ} {k l:Checker → Check α} {f} (new:Checker → List Nat) :
  (∀ c, ∀ id ∈ new c, c.Finds id) →
  (∀ c d, c.Shows d → L.Holds (new c ++ κ) μ (k c) (l d) f) →
  L.Holds κ μ (get >>= k) (get >>= l) f

namespace Tags

variable {L} {κ:List Nat} {μ:List Mark} (h:L.Tags)
include h

lemma referRecord (kind:RecordKind) (tag:Option Ident) :
  L.Holds κ μ (referRecord kind tag) (referRecord kind (tag.map (·.mapSpan ρ))) ([·]) := by
 cases tag with
 | none => exact h.newRecord kind none
 | some tag =>
  refine h.look (fun c => Tag.ids (c.symbols.tag? tag.name)) (fun c id hid => ?_)
   fun c d hcd => ?_
  · unfold Tag.ids at hid
    split at hid
    · rename_i htag
      exact List.mem_singleton.mp hid ▸ .tag htag
    · cases hid
  · simp only [Ident.mapSpan_name,Ident.mapSpan_span,hcd.tag?]
    match c.symbols.tag? tag.name with
    | some (.record id) =>
     refine h.look (fun _ => []) (fun _ _ h => nomatch h) fun c d hcd => ?_
     rw [hcd.records]
     exact .ite (.fail rfl) (.pure (by simp [Tag.ids]))
    | some .enum => exact .fail rfl
    | none => exact h.newTaggedRecord kind tag

lemma openRecord (kind:RecordKind) (tag:Option Ident) :
  L.Holds κ μ (openRecord kind tag) (openRecord kind (tag.map (·.mapSpan ρ))) ([·]) := by
 cases tag with
 | none => exact h.newRecord kind none
 | some tag =>
  refine h.look (fun c => Tag.ids (c.symbols.tagLocal? tag.name)) (fun c id hid => ?_)
   fun c d hcd => ?_
  · unfold Tag.ids at hid
    split at hid
    · rename_i htag
      exact List.mem_singleton.mp hid ▸ .tag (SymbolTable.tag?_of_tagLocal? htag)
    · cases hid
  · simp only [Ident.mapSpan_name,Ident.mapSpan_span,hcd.tagLocal?]
    match c.symbols.tagLocal? tag.name with
    | none => exact h.newTaggedRecord kind tag
    | some t =>
     refine h.look (fun _ => []) (fun _ _ h => nomatch h) fun c d hcd => ?_
     rw [hcd.records]
     cases t with
     | record id => exact .ite (.pure (by simp [Tag.ids])) (.fail rfl)
     | enum => exact .fail rfl

lemma referEnum (tag:Option Ident) :
  L.Runs κ μ (referEnum tag) (referEnum (tag.map (·.mapSpan ρ))) := by
 cases tag with
 | none => exact .done
 | some tag =>
  refine h.look (fun _ => []) (fun _ _ h => nomatch h) fun c d hcd => ?_
  simp only [Ident.mapSpan_name,hcd.tag?]
  split
  · exact .done
  · exact .fail rfl
  · exact .fail rfl

lemma openEnum (tag:Option Ident) :
  L.Runs κ μ (openEnum tag) (openEnum (tag.map (·.mapSpan ρ))) := by
 cases tag with
 | none => exact .done
 | some tag =>
  refine h.look (fun _ => []) (fun _ _ h => nomatch h) fun c d hcd => ?_
  simp only [Ident.mapSpan_name,hcd.tagLocal?]
  exact .ite (.fail rfl) (h.declareEnum tag)

end Tags

structure Specifiers : Prop extends L.Tags where
 definedRecord {κ μ} span :
  L.Holds κ μ (definedRecord? span) (definedRecord? (ρ span)) Option.toList
 markRecord {κ μ} span id : (L.tracks → id ∈ κ) →
  L.Runs κ μ (markRecordDefined span id) (markRecordDefined (ρ span) id)
 completeRecord {κ μ} id members span :
  (L.tracks → members.flatMap (·.2.recordIds) ⊆ κ) →
  L.Runs κ μ (completeRecord id members span) (completeRecord id members (ρ span))
 isEnumDefined {κ μ} span : L.Runs κ μ (isEnumDefined span) (isEnumDefined (ρ span))
 markEnum {κ μ} span : L.Runs κ μ (markEnumDefined span) (markEnumDefined (ρ span))

namespace Specifiers

variable {L} {κ:List Nat} {μ:List Mark} (h:L.Specifiers)
include h

lemma defineRecord {kind:RecordKind} {tag:Option Ident} {members:List Member} {span:Span}
  (hm:∀ {κ}, L.Holds κ μ (resolveMembers [] members)
   (resolveMembers [] (Member.mapSpansAll ρ members)) (·.flatMap (·.2.recordIds))) :
  L.Holds κ μ (resolveRecord ⟨kind,tag,some members,span⟩)
   (resolveRecord ⟨kind,tag.map (·.mapSpan ρ),some (Member.mapSpansAll ρ members),ρ span⟩)
   ([·]) := by
 refine .first (h.definedRecord span) fun o => ?_
 cases o with
 | some id => exact .pure (by simp)
 | none =>
  refine .first (h.openRecord kind tag) fun id => ?_
  refine .first (h.markRecord span id (by simp)) fun _ => hm.last fun us => ?_
  exact .first (h.completeRecord id us span (by simp)) fun _ => .pure (by simp)

lemma defineEnum {tag:Option Ident} {es:List Enumerator} {span:Span}
  (he:∀ {κ}, L.Runs κ μ (declareEnumerators 0 es)
   (declareEnumerators 0 (Enumerator.mapSpansAll ρ es))) :
  L.Runs κ μ (resolveEnum ⟨tag,some es,span⟩)
   (resolveEnum ⟨tag.map (·.mapSpan ρ),some (Enumerator.mapSpansAll ρ es),ρ span⟩) :=
 .first (h.isEnumDefined span) fun _ => .ite .done <|
  .first (h.markEnum span) fun _ => .first (h.openEnum tag) fun _ => he

end Specifiers

structure Names : Prop where
 misread {α κ μ} {f:α → List Nat} what span :
  L.Holds κ μ (Check.fail (.expectedExpr what) span)
   (Check.fail (.expectedExpr what) (ρ span)) f
 markUsed {κ μ name} : L.Known name → L.Runs κ μ (markUsed name) (markUsed name)
 recordCall {κ μ} f span : L.Runs κ μ (recordCall f span) (recordCall f (ρ span))

namespace Names

variable {L} {κ:List Nat} {μ:List Mark} (h:L.Names)
include h

lemma identType {i:Ident} (hi:L.Known i.name) :
  L.Types κ μ (identType i) (identType (i.mapSpan ρ)) := by
 refine L.lookup hi ?_ fun x y hkind htype => ?_
 · dsimp only [Ident.mapSpan_name]
   split
   · rename_i f hf
     exact .pure (by simp [LibraryFunction.recordIds_type hf])
   · exact .fail rfl
 · simp only [hkind,htype]
   split
   · exact .pure (by simp)
   · exact .pure (by simp)
   · exact .pure fun _ => List.nil_subset _
   · exact h.misread _ _
   · exact h.misread _ _

lemma ident {i:Ident} (hi:L.Known i.name) :
  L.Types κ μ (checkExpr (.ident i)) (checkExpr (.ident (i.mapSpan ρ))) :=
 .bind (μ := []) (h.identType hi) fun _ => .last (h.markUsed hi) fun _ => .pure (by simp)

lemma calleeType {callee:Expr} {x y:Check CType} (hi:∀ i, callee = .ident i → L.Known i.name)
  (hx:∀ {κ}, L.Types κ μ x y) (span:Span) :
  L.Types κ μ (calleeType callee x span)
   (calleeType (callee.mapSpans ρ) y (ρ span)) := by
 cases callee with
 | ident i =>
  rw [Expr.mapSpans]
  unfold Check.calleeType Check.libraryCallee?
  simp only [bind_assoc]
  refine L.lookup (hi i rfl) ?_ fun x y _ _ => ?_
  · simp only [pure_bind]
    dsimp only [Ident.mapSpan_name]
    split
    · rename_i f hf
      refine .first (h.recordCall f span) fun _ => .pure ?_
      simp [LibraryFunction.recordIds_type hf]
    · exact hx.value
  · simp only [pure_bind]
    exact hx.value
 | _ => exact hx.value

end Names

end StepLogic

end CCheck
