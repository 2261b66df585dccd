import CCheck.Proofs.Checking.StepLogic
import CCheck.Proofs.Parsing.Journals

/-! # Logics of expressions and types

A logic with rules for names, tags and definitions speaks of all expressions, types and initializers
whose pieces it admits. -/

set_option autoImplicit false

namespace CCheck

open Check

structure TermLogic (ρ:Relocation) extends StepLogic ρ where
 Admits : Piece → Prop
 child {p q} : Admits p → q ∈ p.children → Admits q
 known {i} : Admits (.expr (.ident i)) → Known i.name
 identType {κ i} : Admits (.expr (.ident i)) →
  Holds κ [.value i] (identType i) (identType (i.mapSpan ρ)) CType.recordIds
 ident {κ i} : Admits (.expr (.ident i)) →
  Holds κ [.value i] (checkExpr (.ident i)) (checkExpr (.ident (i.mapSpan ρ)))
   CType.recordIds
 calleeType {κ callee x y} : Admits (.expr callee) →
  (∀ {κ}, Holds κ callee.marks x y CType.recordIds) → ∀ span,
  Holds κ (Mark.ofCallee callee span callee.marks) (calleeType callee x span)
   (calleeType (callee.mapSpans ρ) y (ρ span)) CType.recordIds
 namedType {κ μ name} : Admits (.form (.named name)) → ∀ span,
  Holds κ μ (namedType name span) (namedType name (ρ span)) CType.recordIds
 referRecord {κ μ kind tag span} : Admits (.form (.record ⟨kind,tag,none,span⟩)) →
  Holds κ μ (referRecord kind tag) (referRecord kind (tag.map (·.mapSpan ρ))) ([·])
 defineRecord {κ μ kind tag members span} :
  Admits (.form (.record ⟨kind,tag,some members,span⟩)) →
  (∀ {κ}, Holds κ μ (resolveMembers [] members)
   (resolveMembers [] (Member.mapSpansAll ρ members)) (·.flatMap (·.2.recordIds))) →
  Holds κ [.definition (.record span.start) μ]
   (resolveRecord ⟨kind,tag,some members,span⟩)
   (resolveRecord ⟨kind,tag.map (·.mapSpan ρ),some (Member.mapSpansAll ρ members),ρ span⟩) ([·])
 referEnum {κ μ tag span} : Admits (.form (.enum ⟨tag,none,span⟩)) →
  Holds κ μ (referEnum tag) (referEnum (tag.map (·.mapSpan ρ))) fun _ => []
 defineEnum {κ μ tag es span} : Admits (.form (.enum ⟨tag,some es,span⟩)) →
  (∀ {κ}, Holds κ μ (declareEnumerators 0 es)
   (declareEnumerators 0 (Enumerator.mapSpansAll ρ es)) fun _ => []) →
  Holds κ [.definition (.enum span.start) μ] (resolveEnum ⟨tag,some es,span⟩)
   (resolveEnum ⟨tag.map (·.mapSpan ρ),some (Enumerator.mapSpansAll ρ es),ρ span⟩) fun _ => []
 declareConstant {κ μ e} : Admits (.enumerator e) → ∀ v,
  Holds κ μ (declareConstant e.name v) (declareConstant (e.name.mapSpan ρ) v) fun _ => []

lemma calleeName_mapSpans (f:Span → Span) (e:Expr) :
  calleeName (e.mapSpans f) = calleeName e := by
 cases e <;> rfl

lemma bracedString?_mapSpans (f:Span → Span) (elem:CType) (items:List Initializer) :
  bracedString? elem (Initializer.mapSpansAll f items) =
   (bracedString? elem items).map (Prod.map id f) := by
 match items with
 | [] => rfl
 | [.expr (.literal (.string text span))] =>
  simp only [Initializer.mapSpansAll,Initializer.mapSpans,Expr.mapSpans,Literal.mapSpan,
   bracedString?]
  split <;> rfl
 | [.expr (.literal (.int ..))] | [.expr (.literal (.float ..))]
 | [.expr (.literal (.char ..))] | [.expr (.ident _)] | [.expr (.binary ..)]
 | [.expr (.unary ..)] | [.expr (.assign ..)] | [.expr (.cond ..)] | [.expr (.call ..)]
 | [.expr (.index ..)] | [.expr (.member ..)] | [.expr (.cast ..)]
 | [.expr (.sizeofType ..)] | [.expr (.sizeofExpr ..)] | [.expr (.comma ..)]
 | [.list ..] => rfl
 | _ :: _ :: _ => simp [bracedString?,Initializer.mapSpansAll]

namespace TermLogic

variable {ρ:Relocation} (L:TermLogic ρ) {κ:List Nat} {μ:List Mark}

attribute [local simp] List.subset_append_of_subset_right

variable {L} in
lemma knows {e:Expr} (h:L.Admits (.expr e)) : ∀ i, e = .ident i → L.Known i.name := by
 rintro i rfl
 exact L.known h

lemma storeType {e:Expr} {x y:Check CType} (h:L.Admits (.expr e))
  (hx:L.Types κ e.marks x y) :
  L.Types κ e.marks (storeType e x) (storeType (e.mapSpans ρ) y) := by
 cases e with
 | ident i => exact L.identType h
 | _ => exact hx

mutual

lemma checkExpr : ∀ {e:Expr} {κ:List Nat}, L.Admits (.expr e) →
  L.Types κ e.marks (checkExpr e) (checkExpr (e.mapSpans ρ))
 | .literal l, _, _ => by
  have htype:(l.mapSpan ρ).type = l.type := by cases l <;> rfl
  rw [Expr.mapSpans,CCheck.checkExpr,CCheck.checkExpr,htype]
  exact .pure (by simp [Literal.recordIds_type])
 | .ident i, _, h => L.ident h
 | .binary op l r span, _, h => by
  have hl:=L.child h (q := .expr l) (by simp)
  have hr:=L.child h (q := .expr r) (by simp)
  refine (checkExpr hl).value.bind fun a => (checkExpr hr).value.bind fun b => ?_
  cases op.takesNull with
  | true =>
   refine .bind (.isNull l a (evalConst hl)) fun m => ?_
   exact .last (.isNull r b (evalConst hr)) fun n => .binaryType op a b m n span (by simp)
  | false => exact .binaryType op a b false false span (by simp)
 | .unary op e span, _, h => by
  have he:=L.child h (q := .expr e) (by simp)
  rw [Expr.mapSpans,CCheck.checkExpr,CCheck.checkExpr,Expr.marks]
  refine .ite ?_ (.ite ?_ ?_)
  · exact (checkExpr he).last fun t => .addressType (knows he) t (by simp)
  · exact .last (.modifiable (knows he) (checkExpr he)) fun t => .unaryType op t span (by simp)
  · exact (checkExpr he).value.last fun t => .unaryType op t span (by simp)
 | .assign op target e span, _, h => by
  have ht:=L.child h (q := .expr target) (by simp)
  have he:=L.child h (q := .expr e) (by simp)
  rw [Expr.mapSpans,CCheck.checkExpr,CCheck.checkExpr,Expr.marks]
  cases op.binary? with
  | none =>
   refine .bind (.modifiable (knows ht) (L.storeType ht (checkExpr ht))) fun t => ?_
   exact .last (.convert t e (checkExpr he) (evalConst he)) fun _ => .pure (by simp)
  | some op =>
   refine .bind (.modifiable (knows ht) (checkExpr ht)) fun t => ?_
   rw [Option.isNone_some,Bool.false_and]
   exact (checkExpr he).value.bind fun u => .compound op t u span (by simp)
 | .cond test yes no span, _, h => by
  have hy:=L.child h (q := .expr yes) (by simp)
  have hn:=L.child h (q := .expr no) (by simp)
  refine .bind (.condition test (checkExpr (L.child h (by simp)))) fun _ => ?_
  refine (checkExpr hy).value.bind fun a => (checkExpr hn).value.bind fun b => ?_
  refine .bind (.isNull yes a (evalConst hy)) fun m => ?_
  refine .last (.isNull no b (evalConst hn)) fun n => ?_
  rw [Expr.mapSpans_span]
  exact .conditionalType a b m n no.span (by simp)
 | .call callee args span, _, h => by
  have hc:=L.child h (q := .expr callee) (by simp)
  refine (L.calleeType hc (checkExpr hc) span).bind fun t => ?_
  refine .first (.signature callee t (by simp)) fun f => ?_
  rw [calleeName_mapSpans,Expr.mapSpansAll_length]
  refine .first (.argumentCount _ f _ span) fun _ => ?_
  refine (checkArgs _ 1 (comparedParams f) fun e he => ?_).last fun _ => .pure fun _ => ?_
  · exact L.child (L.child h (q := .argument e) (by simpa using he)) (by simp)
  · exact List.Subset.trans (Signature.recordIds_ret f) (by simp)
 | .index base index span, _, h => by
  refine (checkExpr (L.child h (q := .expr base) (by simp))).value.bind fun a => ?_
  exact (checkExpr (L.child h (by simp))).value.last fun b => .elementType base a b span (by simp)
 | .member base name arrow span, _, h => by
  have hb:=L.child h (q := .expr base) (by simp)
  rw [Expr.mapSpans,CCheck.checkExpr,CCheck.checkExpr,Expr.marks]
  refine .ite ((checkExpr hb).value.last fun t => ?_) ?_
  · exact .first (.arrowTarget t span (by simp)) fun u => .memberType u name span
  · exact (checkExpr hb).last fun t => .memberType t name span
 | .cast type e span, _, h => by
  refine (resolveType (t := type) (L.child h (by simp))).bind fun target => ?_
  refine (checkExpr (L.child h (by simp))).value.last fun source => ?_
  exact .castType source target span (by simp)
 | .sizeofType type span, _, h =>
  (resolveType (t := type) (L.child h (by simp))).last fun t =>
   .first (.sizeOf t span) fun _ => .pure fun _ => List.nil_subset _
 | .sizeofExpr e span, _, h =>
  (checkExpr (L.child h (q := .expr e) (by simp))).last fun t =>
   .first (.sizeOf t span) fun _ => .pure fun _ => List.nil_subset _
 | .comma l r span, _, h =>
  (checkExpr (L.child h (q := .expr l) (by simp))).bind fun _ =>
   (checkExpr (L.child h (by simp))).value
termination_by structural e => e

lemma checkArgs (name:String) (index:Nat) (params:List CType) : ∀ {es:List Expr} {κ:List Nat},
  (∀ e ∈ es, L.Admits (.expr e)) →
  L.Runs κ (Expr.argumentMarks es) (checkArgs name index params es)
   (checkArgs name index params (Expr.mapSpansAll ρ es))
 | [], _, _ => .done
 | e :: es, _, h => by
  obtain ⟨he,hes⟩:=List.forall_mem_cons.mp h
  refine .bind (.argument name index params.head? e (checkExpr he) (evalConst he)) fun _ => ?_
  exact checkArgs name (index + 1) params.tail hes

lemma evalConst : ∀ {e:Expr} {κ:List Nat}, L.Admits (.expr e) →
  L.Runs κ e.evaluated (evalConst e) (evalConst (e.mapSpans ρ))
 | .literal (.int n _), _, _ => .done
 | .literal (.char code _), _, _ => .done
 | .literal (.float x s), _, _ => .fail rfl
 | .literal (.string value s), _, _ => .fail rfl
 | .ident i, _, h => .identConstant (L.known h)
 | .unary op e span, _, h =>
  (evalConst (L.child h (q := .expr e) (by simp))).last fun v => .constant (op.eval? v) span
 | .binary op l r span, _, h => by
  refine (evalConst (L.child h (q := .expr l) (by simp))).bind fun a => .ite .done (.ite .done ?_)
  exact (evalConst (L.child h (q := .expr r) (by simp))).last fun b => .constant _ span
 | .cond test yes no _, _, h => by
  refine (evalConst (L.child h (q := .expr test) (by simp))).bind fun v => .ite ?_ ?_
  · exact (evalConst (L.child h (by simp))).mono (List.sublist_append_left _ _)
  · exact (evalConst (L.child h (by simp))).mono (List.sublist_append_right _ _)
 | .cast type e span, _, h => by
  refine (resolveType (t := type) (L.child h (by simp))).bind fun t => .ite ?_ (.fail rfl)
  exact (evalConst (L.child h (q := .expr e) (by simp))).last fun v => .done
 | .sizeofType type span, _, h =>
  (resolveType (t := type) (L.child h (by simp))).last fun t => .sizeConstant t span
 | .sizeofExpr e span, _, h =>
  (checkExpr (L.child h (q := .expr e) (by simp))).last fun t => .sizeConstant t span
 | .assign _ _ _ span, _, _ => .fail rfl
 | .call _ _ span, _, _ => .fail rfl
 | .index _ _ span, _, _ => .fail rfl
 | .member _ _ _ span, _, _ => .fail rfl
 | .comma _ _ span, _, _ => .fail rfl

lemma resolveType : ∀ {t:TypeExpr} {κ:List Nat}, L.Admits (.form t.form) →
  L.Types κ t.marks (resolveType t) (resolveType (t.mapSpans ρ))
 | ⟨_,_,span⟩, _, h => (resolveForm span h).last fun _ => .pure (by simp)

lemma resolveForm (span:Span) : ∀ {form:TypeForm} {κ:List Nat}, L.Admits (.form form) →
  L.Types κ form.marks (resolveForm span form) (resolveForm (ρ span) (form.mapSpans ρ))
 | .base b, _, _ => .pure (by simp [BaseType.recordIds_type])
 | .record _, _, h => (resolveRecord h).last fun _ => .pure fun _ => List.subset_append_left _ _
 | .enum _, _, h => (resolveEnum h).last fun _ => .pure fun _ => List.nil_subset _
 | .named name, _, h => L.namedType h span
 | .pointer t, _, h =>
  (resolveType (L.child h (by simp))).last fun _ => .pure fun _ => List.subset_append_left _ _
 | .array elem none vla, _, h => by
  refine (resolveType (t := elem) (L.child h (by simp))).last fun t => ?_
  rw [TypeExpr.mapSpans_span]
  exact .first (.arrayElement t elem.span (by simp)) fun _ =>
   .pure fun _ => List.subset_append_left _ _
 | .array elem (some size) vla, _, h => by
  have hsize:=L.child h (q := .expr size) (by simp)
  refine (resolveType (t := elem) (L.child h (by simp))).bind fun t => ?_
  rw [TypeExpr.mapSpans_span,Expr.mapSpans_span]
  refine .first (.arrayElement t elem.span (by simp)) fun t => ?_
  refine .last (.arrayLength size vla (evalConst hsize) (checkExpr hsize)) fun n => ?_
  exact .sizedArray t n size.span (by simp)
 | .function ret params variadic prototyped, _, h => by
  refine (resolveType (t := ret) (L.child h (by simp))).bind fun t => ?_
  refine .first (.returnable t span (by simp)) fun t => ?_
  refine (resolveParams fun p hp => ?_).last fun ps => .pure fun _ => ?_
  · exact L.child (L.child h (q := .param p) (by simpa using hp)) (by simp)
  · exact List.append_subset.mpr ⟨by simp,by simp⟩

lemma resolveParams : ∀ {ps:List Param} {κ:List Nat},
  (∀ p ∈ ps, L.Admits (.form p.type.form)) →
  L.Holds κ (Param.marksAll ps) (resolveParams ps) (resolveParams (Param.mapSpansAll ρ ps))
   CType.recordIdsAll
 | [], _, _ => .pure fun _ => List.nil_subset _
 | p :: ps, _, h => by
  obtain ⟨hp,hps⟩:=List.forall_mem_cons.mp h
  refine (resolveParam hp).bind fun t => (resolveParams hps).last fun ts => .pure fun _ => ?_
  exact List.append_subset.mpr ⟨by simp,by simp⟩

lemma resolveParam : ∀ {p:Param} {κ:List Nat}, L.Admits (.form p.type.form) →
  L.Types κ p.marks (resolveParam p) (resolveParam (p.mapSpans ρ))
 | ⟨name,⟨form,quals,s⟩,span⟩, _, h => by
  cases form with
  | array elem size vla =>
   have helem:=L.child h (q := .form elem.form) (by simp)
   cases size <;> exact (resolveType helem).last fun t =>
    .paramType name ((CType.pointer t).qualify quals) span fun _ => List.subset_append_left _ _
  | _ => exact (resolveType h).last fun _ => .paramType name _ span (by simp)

lemma resolveRecord : ∀ {spec:RecordSpec} {κ:List Nat}, L.Admits (.form (.record spec)) →
  L.Holds κ spec.marks (resolveRecord spec) (resolveRecord (spec.mapSpans ρ)) ([·])
 | ⟨_,_,none,_⟩, _, h => L.referRecord h
 | ⟨_,_,some members,_⟩, _, h =>
  L.defineRecord h (resolveMembers [] fun m hm =>
   L.child (L.child h (q := .member m) (by simpa using hm)) (by simp))

lemma resolveMembers (seen:List String) : ∀ {ms:List Member} {κ:List Nat},
  (∀ m ∈ ms, L.Admits (.form m.type.form)) →
  L.Holds κ (Member.marksAll ms) (resolveMembers seen ms)
   (resolveMembers seen (Member.mapSpansAll ρ ms)) (·.flatMap (·.2.recordIds))
 | [], _, _ => .pure fun _ => List.nil_subset _
 | ⟨name,type,span⟩ :: ms, _, h => by
  obtain ⟨ht,hms⟩:=List.forall_mem_cons.mp h
  refine .first (.freshMember seen name) fun _ => (resolveType ht).bind fun t => ?_
  have hlast:(Member.mapSpansAll ρ ms).isEmpty = ms.isEmpty := by cases ms <;> rfl
  rw [hlast]
  refine .first (.memberOk t ms.isEmpty span) fun _ => ?_
  refine (resolveMembers (name.name :: seen) hms).last fun us => .pure fun _ => ?_
  rw [List.flatMap_cons]
  exact List.append_subset.mpr ⟨by simp,by simp⟩

lemma resolveEnum : ∀ {spec:EnumSpec} {κ:List Nat}, L.Admits (.form (.enum spec)) →
  L.Runs κ spec.marks (resolveEnum spec) (resolveEnum (spec.mapSpans ρ))
 | ⟨_,none,_⟩, _, h => L.referEnum h
 | ⟨_,some es,_⟩, _, h =>
  L.defineEnum h (declareEnumerators 0 fun e he => L.child h (by simpa using he))

lemma declareEnumerators (next:Int64) : ∀ {es:List Enumerator} {κ:List Nat},
  (∀ e ∈ es, L.Admits (.enumerator e)) →
  L.Runs κ (Enumerator.marksAll es) (declareEnumerators next es)
   (declareEnumerators next (Enumerator.mapSpansAll ρ es))
 | [], _, _ => .done
 | ⟨name,none,_⟩ :: es, _, h => by
  obtain ⟨he,hes⟩:=List.forall_mem_cons.mp h
  exact (L.declareConstant he next).first fun _ => declareEnumerators (next + 1) hes
 | ⟨name,some e,_⟩ :: es, _, h => by
  obtain ⟨he,hes⟩:=List.forall_mem_cons.mp h
  refine (evalConst (L.child he (q := .expr e) (by simp))).bind fun v => ?_
  exact (L.declareConstant he v).first fun _ => declareEnumerators (v + 1) hes

end

lemma rvalue {e:Expr} (h:L.Admits (.expr e)) :
  L.Types κ e.marks (rvalue e) (rvalue (e.mapSpans ρ)) :=
 (L.checkExpr h).value

lemma conversion (target:CType) {e:Expr} (h:L.Admits (.expr e)) :
  L.Types κ (e.marks ++ Mark.reread e.mayBeNull e.evaluated) (conversion target e)
   (conversion target (e.mapSpans ρ)) :=
 .convert target e (L.checkExpr h) (L.evalConst h)

lemma test {e:Expr} (h:L.Admits (.expr e)) :
  L.Runs κ e.marks (test e) (test (e.mapSpans ρ)) :=
 .condition e (L.checkExpr h)

lemma plainInitializer (t:CType) {e:Expr} (h:L.Admits (.expr e))
  (ht:L.tracks → t.recordIds ⊆ κ) :
  L.Types κ (e.marks ++ Mark.reread e.mayBeNull e.evaluated) (plainInitializer t e)
   (plainInitializer t (e.mapSpans ρ)) := by
 obtain ⟨kind,q⟩:=t
 unfold Check.plainInitializer
 cases kind with
 | array elem length vla =>
  cases e with
  | literal l =>
   cases l with
   | string text span => exact .ite (.stringInitializer _ _ _ _ span ht ht) (.fail rfl)
   | _ => exact .fail rfl
  | _ => exact .fail rfl
 | _ => exact (L.conversion _ h).last fun _ => .pure fun i => by simp [ht i]

mutual

lemma checkInitializer : ∀ {i:Initializer} {t:CType} {κ:List Nat}, L.Admits (.initializer i) →
  (L.tracks → t.recordIds ⊆ κ) →
  L.Types κ i.marks (checkInitializer t i) (checkInitializer t (i.mapSpans ρ))
 | .expr e, t, _, h, ht => by
  rw [Initializer.mapSpans,CCheck.checkInitializer,CCheck.checkInitializer,Expr.mapSpans_span]
  exact .ite (.fail rfl) (L.plainInitializer t (L.child h (by simp)) ht)
 | .list items span, t, _, h, ht => by
  have hitems:∀ i ∈ items, L.Admits (.initializer i):=fun i hi => L.child h (by simpa using hi)
  rw [Initializer.mapSpans]
  unfold CCheck.checkInitializer
  simp only [Initializer.mapSpansAll_length]
  refine .ite (.fail rfl) ?_
  obtain ⟨kind,q⟩:=t
  cases kind with
  | array elem length vla =>
   dsimp only
   rw [bracedString?_mapSpans]
   cases bracedString? elem items with
   | some p => exact .stringInitializer _ elem length p.1 p.2 ht ht
   | none =>
    have hrest:=(checkItems (t := elem) hitems ht).last (g := CType.recordIds)
     (k := fun _ => pure (withLength ⟨.array elem length vla,q⟩ elem length items.length))
     fun _ => .pure (by cases length <;> exact ht)
    cases length with
    | none => exact hrest
    | some n => exact .first (.atMost _ n _ span) fun _ => hrest
  | record id =>
   refine .first (.recordParts _ id span) fun p => .first (.atMost _ _ _ span) fun _ => ?_
   exact (checkFields hitems (by simp)).last fun _ => .pure fun i => by simp [ht i]
  | _ =>
   match items with
   | [] => exact .fail rfl
   | [item] =>
    exact (checkInitializer (hitems item (by simp)) ht).mono (List.sublist_append_left _ _)
   | _ :: _ :: _ => exact .fail rfl
termination_by structural i => i

lemma checkItems : ∀ {is:List Initializer} {t:CType} {κ:List Nat},
  (∀ i ∈ is, L.Admits (.initializer i)) → (L.tracks → t.recordIds ⊆ κ) →
  L.Runs κ (Initializer.marksAll is) (checkItems t is)
   (checkItems t (Initializer.mapSpansAll ρ is))
 | [], _, _, _, _ => .done
 | i :: is, _, _, h, helem => by
  obtain ⟨hi,his⟩:=List.forall_mem_cons.mp h
  exact (checkInitializer hi helem).bind fun _ => checkItems his fun i => by simp [helem i]

lemma checkFields : ∀ {is:List Initializer} {types:List CType} {κ:List Nat},
  (∀ i ∈ is, L.Admits (.initializer i)) →
  (L.tracks → CType.recordIdsAll types ⊆ κ) →
  L.Runs κ (Initializer.marksAll is) (checkFields types is)
   (checkFields types (Initializer.mapSpansAll ρ is))
 | [], _, _, _, _ => .done
 | i :: is, types, _, h, ht => by
  obtain ⟨hi,his⟩:=List.forall_mem_cons.mp h
  cases types with
  | nil => exact .done
  | cons t ts =>
   have ht i:=List.append_subset.mp (ht i)
   refine (checkInitializer hi fun i => (ht i).1).bind fun _ => checkFields his fun i => ?_
   simp [(ht i).2]

end

end TermLogic

end CCheck
