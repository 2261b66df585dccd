import CCheck.Proofs.Checking.Marks
import CCheck.Proofs.Checking.Moments
import CCheck.Proofs.Layout.Relocation
import CCheck.Proofs.Records.Sizes

/-! # Logics of checking steps

A logic says of a step what all its runs have in common, or of two steps how their runs compare,
where the second one may stand for the first at other places. A logic that the primitive ways of
putting steps together are in keeping with has a rule for each rule of checking. -/

set_option autoImplicit false

namespace CCheck

open Check

variable {α β:Type}

def Cause.ofJump : Cause → Bool
 | .breakOutsideLoop | .continueOutsideLoop | .caseOutsideSwitch | .defaultOutsideSwitch
 | .duplicateDefault | .duplicateCase _ | .undefinedLabel _ => true
 | _ => false

def Cause.isOrdinary (cause:Cause) : Bool := cause.stage = .semantic && !cause.ofJump

def Cause.isUnknownType : Cause → Bool
 | .unknownTypeName _ => true
 | _ => false

def Cause.isPlain (cause:Cause) : Bool := cause.isOrdinary && !cause.isUnknownType

namespace Cause

variable {cause:Cause}

lemma stage_of_isOrdinary (h:cause.isOrdinary = true) : cause.stage = .semantic := by
 rw [isOrdinary,Bool.and_eq_true] at h
 exact of_decide_eq_true h.1

lemma stage_of_ofJump (h:cause.ofJump = true) : cause.stage = .semantic := by
 cases cause <;> first | rfl | cases h

lemma isOrdinary_of_isPlain (h:cause.isPlain = true) : cause.isOrdinary = true :=
 (Bool.and_eq_true_iff.mp h).1

lemma isUnknownType_of_isPlain (h:cause.isPlain = true) : cause.isUnknownType = false :=
 (Bool.not_eq_true' _).mp (Bool.and_eq_true_iff.mp h).2

end Cause

/-! ### States that look alike to a rule -/

def Registry.parts? (r:Registry) (id:Nat) : Option (RecordKind × List CType) :=
 (r.get? id).bind fun d => d.fields.map fun fields => (d.kind,initializedFields d.kind fields)

structure Checker.Sees (c d:Checker) : Prop where
 later : d.records.Extends c.records
 earlier : c.records.Extends d.records
 level : d.symbols.level = c.symbols.level

namespace Checker.Sees

variable {c d:Checker}

lemma of_eq (hrecords:d.records = c.records) (hlevel:d.symbols.level = c.symbols.level) :
  c.Sees d :=
 ⟨hrecords ▸ .refl _,hrecords ▸ .refl _,hlevel⟩

lemma refl (c:Checker) : c.Sees c := of_eq rfl rfl

variable (h:c.Sees d)
include h

lemma isComplete (t:CType) : d.records.isComplete t = c.records.isComplete t :=
 Bool.eq_iff_iff.mpr ⟨h.earlier.isComplete,h.later.isComplete⟩

lemma sizeOf? (t:CType) : d.records.sizeOf? t = c.records.sizeOf? t :=
 Option.ext fun _ => ⟨h.earlier.sizeOf?,h.later.sizeOf?⟩

lemma member? (t:CType) (name:String) : d.records.member? t name = c.records.member? t name :=
 Option.ext fun _ => ⟨h.earlier.member?,h.later.member?⟩

lemma parts? (id:Nat) : d.records.parts? id = c.records.parts? id := by
 have hparts {r r':Registry} {p:RecordKind × List CType} (hr:r'.Extends r)
   (hp:r.parts? id = some p) : r'.parts? id = some p := by
  obtain ⟨d,hd,hfields⟩:=Option.bind_eq_some_iff.mp hp
  obtain ⟨fields,hsome,-⟩:=Option.map_eq_some_iff.mp hfields
  rw [Registry.parts?,hr id d hd (by rw [RecordDef.isComplete,hsome]; rfl)]
  exact hfields
 exact Option.ext fun _ => ⟨hparts h.earlier,hparts h.later⟩

lemma isObjectPointer (t:CType) :
  d.records.isObjectPointer t = c.records.isObjectPointer t := by
 unfold Registry.isObjectPointer
 simp only [h.isComplete]

lemma binaryType? (op:BinOp) (a b:CType) (m n:Bool) :
  op.type? d.records a b m n = op.type? c.records a b m n := by
 unfold BinOp.type?
 simp only [h.isObjectPointer]

lemma unaryType? (op:UnaryOp) (t:CType) : op.type? d.records t = op.type? c.records t := by
 unfold UnaryOp.type?
 simp only [h.isObjectPointer]

end Checker.Sees

lemma arrayLength_of_literals (size:Expr) (u:Check Int64) (x:Check CType) :
  arrayLength size false u x = do
   let n ← u
   if n < 0 then fail (.invalidArraySize (.negative n)) size.span
   else return some n.toNatClampNeg := by
 funext c
 simp only [Check.arrayLength,Check.attempt,Bind.bind,EStateM.bind]
 cases u c <;> rfl

lemma recordParts_eq (t:CType) (id:Nat) (span:Span) :
  recordParts t id span = (do
   match (← get).records.parts? id with
   | some p => return p
   | none => fail (.incompleteType (← typeName t)) span) := by
 unfold Check.recordParts
 congr 1
 funext c
 unfold Registry.parts?
 cases c.records.get? id with
 | none => rfl
 | some d =>
  obtain ⟨kind,tag,fields,size,align⟩:=d
  cases fields <;> rfl

lemma finds_parts {c:Checker} {id i:Nat} {p:RecordKind × List CType}
  (h:c.records.parts? id = some p) (hi:i ∈ CType.recordIdsAll p.2) : c.Finds i := by
 obtain ⟨d,hd,hfields⟩:=Option.bind_eq_some_iff.mp h
 obtain ⟨fields,hsome,rfl⟩:=Option.map_eq_some_iff.mp hfields
 rw [CType.recordIdsAll_eq] at hi
 obtain ⟨u,hu,hi⟩:=List.mem_flatMap.mp hi
 cases hkind : d.kind with
 | struct =>
  rw [hkind] at hu
  obtain ⟨f,hf,rfl⟩:=List.mem_map.mp hu
  exact .field hd hsome hf hi
 | union =>
  rw [hkind] at hu
  obtain ⟨f,hf,rfl⟩:=List.mem_map.mp hu
  exact .field hd hsome (List.mem_of_mem_take hf) hi

/-! ### Logics -/

def Check.Returns (x:Check α) (a:α) : Prop := ∃ c d, x c = .ok a d

/-- A logic of steps. The records `κ` are known before a step, which may meet given marks; the
answer refers to records that a function tells. -/
structure StepLogic (ρ:Relocation) where
 Holds {α:Type} (κ:List Nat) (μ:List Mark) (x y:Check α) (f:α → List Nat) : Prop
 tracks : Prop
 Known : String → Prop
 pure {α κ μ} {f:α → List Nat} {a} : (tracks → f a ⊆ κ) → Holds κ μ (pure a) (pure a) f
 fail {α κ μ cause} {f:α → List Nat} : cause.isPlain = true → ∀ span,
  Holds κ μ (fail cause span) (fail cause (ρ span)) f
 failNaming {α κ μ} {f:α → List Nat} (t:CType) {cause:String → Cause} :
  (∀ name, (cause name).isPlain = true) → ∀ span,
  Holds κ μ (typeName t >>= fun a => Check.fail (cause a) span)
   (typeName t >>= fun a => Check.fail (cause a) (ρ span)) f
 failNamingBoth {α κ μ} {f:α → List Nat} (t u:CType) {cause:String → String → Cause} :
  (∀ a b, (cause a b).isPlain = true) → ∀ span,
  Holds κ μ (typeName t >>= fun a => typeName u >>= fun b => Check.fail (cause a b) span)
   (typeName t >>= fun a => typeName u >>= fun b => Check.fail (cause a b) (ρ span)) f
 bind {α β κ μ ν x y} {f:α → List Nat} {k l:α → Check β} {g} : Holds κ μ x y f →
  (∀ a, x.Returns a → Holds (f a ++ κ) ν (k a) (l a) g) →
  Holds κ (μ ++ ν) (x >>= k) (y >>= l) g
 weaken {α κ κ' μ ν x y} {f:α → List Nat} : Holds κ μ x y f → κ ⊆ κ' →
  μ.Sublist ν → Holds κ' ν x y f
 /-- A rule that looks at complete records may take numbers in hand that it finds there. -/
 look {α κ μ} {k l:Checker → Check α} {f} (new:Checker → List Nat) :
  (∀ c, ∀ id ∈ new c, c.Finds id) →
  (∀ c d, c.Sees d → Holds (new c ++ κ) μ (k c) (l d) f) →
  Holds κ μ (get >>= k) (get >>= l) f
 lookup {α κ μ name} {k l:Option Symbol → Check α} {f} : Known name →
  Holds κ μ (k none) (l none) f →
  (∀ x y : Symbol, y.kind = x.kind → y.type = x.type →
   Holds (x.type.recordIds ++ κ) μ (k (some x)) (l (some y)) f) →
  Holds κ μ (lookup? name >>= k) (lookup? name >>= l) f
 attempt {α β κ μ ν x y} {k l:Except Fault α → Check β} {f} :
  Holds κ μ x y (fun _ => []) → (∀ a, Holds κ ν (k (.ok a)) (l (.ok a)) f) →
  (∀ e e', Holds κ ν (k (.error e)) (l (.error e')) f) →
  Holds κ (.again μ :: ν) (attempt x >>= k) (attempt y >>= l) f

namespace StepLogic

variable {ρ:Relocation} (L:StepLogic ρ) {κ κ':List Nat} {μ ν:List Mark}

abbrev Types (κ:List Nat) (μ:List Mark) (x y:Check CType) : Prop :=
 L.Holds κ μ x y CType.recordIds

abbrev Runs (κ:List Nat) (μ:List Mark) (x y:Check α) : Prop :=
 L.Holds κ μ x y fun _ => []

namespace Holds

variable {L} {f:α → List Nat} {g:β → List Nat} {x y:Check α} {k l:α → Check β}
 {t u:Check CType} {v w:Check Int64} {a b:CType} {span:Span}

attribute [local simp] List.subset_append_of_subset_right

lemma pure {a:α} (h:L.tracks → f a ⊆ κ) : L.Holds κ μ (Pure.pure a) (Pure.pure a) f :=
 L.pure h

lemma done {a:α} : L.Runs κ μ (Pure.pure a) (Pure.pure a) :=
 L.pure fun _ => List.nil_subset _

lemma fail {cause:Cause} (h:cause.isPlain = true) :
  L.Holds κ μ (Check.fail cause span) (Check.fail cause (ρ span)) f :=
 L.fail h span

lemma failNaming {cause:String → Cause} (h:∀ a, (cause a).isPlain = true) :
  L.Holds κ μ (typeName a >>= fun a => Check.fail (cause a) span)
   (typeName a >>= fun a => Check.fail (cause a) (ρ span)) f :=
 L.failNaming a h span

lemma failNamingBoth {cause:String → String → Cause} (h:∀ a b, (cause a b).isPlain = true) :
  L.Holds κ μ (typeName a >>= fun a => typeName b >>= fun b => Check.fail (cause a b) span)
   (typeName a >>= fun a => typeName b >>= fun b => Check.fail (cause a b) (ρ span)) f :=
 L.failNamingBoth a b h span

lemma bind (h:L.Holds κ μ x y f) (hk:∀ a, L.Holds (f a ++ κ) ν (k a) (l a) g) :
  L.Holds κ (μ ++ ν) (x >>= k) (y >>= l) g :=
 L.bind h fun a _ => hk a

lemma mono (h:L.Holds κ μ x y f) (hms:μ.Sublist ν) : L.Holds κ ν x y f :=
 L.weaken h (List.Subset.refl _) hms

lemma last (h:L.Holds κ μ x y f) (hk:∀ a, L.Holds (f a ++ κ) [] (k a) (l a) g) :
  L.Holds κ μ (x >>= k) (y >>= l) g :=
 List.append_nil μ ▸ h.bind hk

lemma first (h:L.Holds κ [] x y f) (hk:∀ a, L.Holds (f a ++ κ) μ (k a) (l a) g) :
  L.Holds κ μ (x >>= k) (y >>= l) g :=
 h.bind hk

lemma ite {c:Prop} [Decidable c] {x' y':Check α} (yes:L.Holds κ μ x y f)
  (no:L.Holds κ μ x' y' f) :
  L.Holds κ μ (if c then x else x') (if c then y else y') f := by
 split
 · exact yes
 · exact no

lemma get {k l:Checker → Check α} (h:∀ c d, c.Sees d → L.Holds κ μ (k c) (l d) f) :
  L.Holds κ μ (MonadState.get >>= k) (MonadState.get >>= l) f :=
 L.look (fun _ => []) (fun _ _ h => nomatch h) h

lemma value (h:L.Types κ μ t u) : L.Types κ μ (value t) (value u) :=
 h.last fun _ => .pure (by simp)

/-! ### Expressions -/

lemma atFileScope : L.Runs κ μ atFileScope atFileScope :=
 .get fun _ _ h => by
  rw [h.level]
  exact .done

lemma isComplete (t:CType) : L.Runs κ μ (isComplete t) (isComplete t) :=
 .get fun _ _ h => by
  rw [h.isComplete]
  exact .done

lemma sizeOf (t:CType) (span:Span) : L.Runs κ μ (sizeOf t span) (sizeOf t (ρ span)) := by
 refine .get fun c d h => ?_
 rw [h.sizeOf?]
 split
 · exact .done
 · exact .failNaming fun _ => rfl

lemma designatesObject {e:Expr} (h:∀ i, e = .ident i → L.Known i.name) :
  L.Runs κ μ (designatesObject e) (designatesObject (e.mapSpans ρ)) := by
 cases e with
 | ident i =>
  refine L.lookup (h i rfl) .done fun x y hkind _ => ?_
  simp only [Option.any_some,hkind]
  exact .done
 | unary op e s => cases op <;> exact .done
 | _ => exact .done

lemma isNull (e:Expr) (t:CType) {x y:Check Int64} (h:L.Runs κ μ x y) :
  L.Runs κ (Mark.reread e.mayBeNull μ) (isNull e t x) (isNull (e.mapSpans ρ) t y) := by
 unfold Check.isNull
 rw [Expr.mapSpans_mayBeNull]
 cases e.mayBeNull with
 | false =>
  rw [Bool.and_false]
  exact .done
 | true => exact .ite (L.attempt h (fun _ => .done) fun _ _ => .done) .done

lemma convert (target:CType) (e:Expr) {x y:Check CType} {u v:Check Int64}
  (hx:L.Types κ μ x y) (hu:∀ {κ}, L.Runs κ ν u v) :
  L.Types κ (μ ++ Mark.reread e.mayBeNull ν) (convert target e x u)
   (convert target (e.mapSpans ρ) y v) := by
 refine hx.value.bind fun source => (isNull e source hu).last fun null => ?_
 rw [Expr.mapSpans_span]
 exact .ite (.pure (by simp)) (.failNamingBoth fun _ _ => rfl)

lemma binaryType (op:BinOp) (a b:CType) (m n:Bool) (span:Span)
  (h:L.tracks → a.recordIds ++ b.recordIds ⊆ κ) :
  L.Types κ μ (binaryType op a b m n span) (binaryType op a b m n (ρ span)) := by
 refine .get fun c d hcd => ?_
 rw [hcd.binaryType?]
 split
 · rename_i t ht
   exact .pure fun i => List.Subset.trans (BinOp.recordIds_type? ht) (h i)
 · exact .failNamingBoth fun _ _ => rfl

lemma unaryType (op:UnaryOp) (t:CType) (span:Span) (ht:L.tracks → t.recordIds ⊆ κ) :
  L.Types κ μ (unaryType op t span) (unaryType op t (ρ span)) := by
 refine .get fun c d h => ?_
 rw [h.unaryType?]
 split
 · rename_i u hu
   exact .pure fun h => List.Subset.trans (UnaryOp.recordIds_type? hu) (ht h)
 · exact .failNaming fun _ => rfl

lemma addressType {e:Expr} (h:∀ i, e = .ident i → L.Known i.name) (t:CType)
  (ht:L.tracks → t.recordIds ⊆ κ) :
  L.Types κ μ (addressType e t) (addressType (e.mapSpans ρ) t) := by
 refine (designatesObject h).first fun b => ?_
 rw [Expr.mapSpans_span]
 exact .ite (.pure ht) (.fail rfl)

lemma modifiable {e:Expr} (h:∀ i, e = .ident i → L.Known i.name) {x y:Check CType}
  (hx:L.Types κ μ x y) : L.Types κ μ (modifiable e x) (modifiable (e.mapSpans ρ) y) := by
 refine hx.last fun t => (designatesObject h).first fun b => ?_
 rw [Expr.mapSpans_span]
 exact .ite (.fail rfl) (.ite (.failNaming fun _ => rfl) (.pure (by simp)))

lemma compound (op:BinOp) (t u:CType) (span:Span) (h:L.tracks → t.recordIds ++ u.recordIds ⊆ κ) :
  L.Types κ μ (compound op t u span) (compound op t u (ρ span)) :=
 (binaryType op t u false false span h).first fun _ =>
  .ite (.pure fun i => by simp [(List.append_subset.mp (h i)).1]) (.failNamingBoth fun _ _ => rfl)

lemma conditionalType (a b:CType) (m n:Bool) (span:Span)
  (h:L.tracks → a.recordIds ++ b.recordIds ⊆ κ) :
  L.Types κ μ (conditionalType a b m n span) (conditionalType a b m n (ρ span)) := by
 unfold Check.conditionalType
 split
 · rename_i t ht
   exact .pure fun i => List.Subset.trans (CType.recordIds_conditional? ht) (h i)
 · exact .failNamingBoth fun _ _ => rfl

lemma condition (e:Expr) {x y:Check CType} (h:L.Types κ μ x y) :
  L.Runs κ μ (condition e x) (condition (e.mapSpans ρ) y) := by
 refine h.value.last fun t => ?_
 rw [Expr.mapSpans_span]
 exact .ite .done (.failNaming fun _ => rfl)

lemma signature (callee:Expr) (t:CType) (ht:L.tracks → t.recordIds ⊆ κ) :
  L.Holds κ μ (signature callee t) (signature (callee.mapSpans ρ) t)
   Signature.recordIds := by
 unfold Check.signature
 rw [Expr.mapSpans_span]
 split
 · rename_i f hf
   obtain ⟨u,hu,hf⟩:=Option.bind_eq_some_iff.mp hf
   refine .pure ?_
   rw [CType.recordIds_signature? hf,CType.recordIds_target? hu]
   exact ht
 · exact .failNaming fun _ => rfl

lemma argumentCount (name:String) (f:Signature) (got:Nat) (span:Span) :
  L.Runs κ μ (argumentCount name f got span) (argumentCount name f got (ρ span)) :=
 .ite .done (.fail rfl)

lemma argument (name:String) (index:Nat) (param:Option CType) (e:Expr) {x y:Check CType}
  {u v:Check Int64} (hx:L.Types κ μ x y) (hu:∀ {κ}, L.Runs κ ν u v) :
  L.Runs κ (μ ++ Mark.reread e.mayBeNull ν) (argument name index param e x u)
   (argument name index param (e.mapSpans ρ) y v) := by
 refine hx.value.bind fun t => ?_
 rw [Expr.mapSpans_span]
 cases param with
 | none => exact .done
 | some p =>
  exact (isNull e t hu).last fun null => .ite .done (.failNamingBoth fun _ _ => rfl)

lemma elementType (base:Expr) (a b:CType) (span:Span)
  (h:L.tracks → a.recordIds ++ b.recordIds ⊆ κ) :
  L.Types κ μ (elementType base a b span) (elementType (base.mapSpans ρ) a b (ρ span)) := by
 unfold Check.elementType
 rw [Expr.mapSpans_span]
 split
 · exact .failNaming fun _ => rfl
 · rename_i t ht
   refine (isComplete t).first fun b => .ite (.failNaming fun _ => rfl) (.pure fun i => ?_)
   exact List.Subset.trans (CType.recordIds_element? ht) (h i)

lemma arrowTarget (t:CType) (span:Span) (ht:L.tracks → t.recordIds ⊆ κ) :
  L.Types κ μ (arrowTarget t span) (arrowTarget t (ρ span)) := by
 unfold Check.arrowTarget
 split
 · rename_i u hu
   exact .pure (CType.recordIds_target? hu ▸ ht)
 · exact .failNaming fun _ => rfl

def memberIds (record:CType) (name:String) (c:Checker) : List Nat :=
 ((c.records.member? record name).map (·.type.recordIds)).getD []

lemma memberType (record:CType) (m:Ident) (span:Span) :
  L.Types κ μ (memberType record m span) (memberType record (m.mapSpan ρ) (ρ span)) := by
 refine .ite (.failNaming fun _ => rfl) ((isComplete record).first fun b => ?_)
 refine .ite (.failNaming fun _ => rfl) ?_
 refine L.look (memberIds record m.name) (fun c id hid => ?_) fun c d h => ?_
 · unfold memberIds at hid
   cases hf : c.records.member? record m.name with
   | none =>
    rw [hf] at hid
    cases hid
   | some f =>
    rw [hf] at hid
    exact Checker.finds_member hf hid
 · rw [Ident.mapSpan_name,h.member?]
   unfold memberIds
   split
   · rename_i f hf
     rw [hf]
     exact .pure (by simp)
   · exact .failNaming fun _ => rfl

lemma castType (source target:CType) (span:Span) (ht:L.tracks → target.recordIds ⊆ κ) :
  L.Types κ μ (castType source target span) (castType source target (ρ span)) :=
 .ite (.failNamingBoth fun _ _ => rfl) (.pure fun h => by simp [ht h])

/-! ### Constants and types -/

lemma constant (v:Option Int64) (span:Span) :
  L.Runs κ μ (constant v span) (constant v (ρ span)) := by
 cases v with
 | some v => exact .done
 | none => exact .fail rfl

lemma identConstant {i:Ident} (h:L.Known i.name) :
  L.Runs κ μ (identConstant i) (identConstant (i.mapSpan ρ)) := by
 refine L.lookup h (.fail rfl) fun x y hkind _ => ?_
 simp only [Option.map_some,hkind]
 split
 · exact .done
 · exact .fail rfl

lemma sizeConstant (t:CType) (span:Span) :
  L.Runs κ μ (sizeConstant t span) (sizeConstant t (ρ span)) :=
 (Holds.sizeOf t span).first fun _ => .done

lemma arrayElement (t:CType) (span:Span) (ht:L.tracks → t.recordIds ⊆ κ) :
  L.Types κ μ (arrayElement t span) (arrayElement t (ρ span)) :=
 (isComplete t).first fun _ => .ite (.failNaming fun _ => rfl) (.pure ht)

lemma arrayLength (size:Expr) (vla:Bool) {u v:Check Int64} {x y:Check CType}
  (hu:L.Runs κ μ u v) (hx:∀ {κ}, L.Types κ ν x y) :
  L.Runs κ (Mark.ofSize vla ν μ) (arrayLength size vla u x)
   (arrayLength (size.mapSpans ρ) vla v y) := by
 have hlength {μ:List Mark} (n:Int64) : L.Runs κ μ
   (if n < 0 then Check.fail (.invalidArraySize (.negative n)) size.span
    else return some n.toNatClampNeg)
   (if n < 0 then Check.fail (.invalidArraySize (.negative n)) (ρ size.span)
    else return some n.toNatClampNeg) :=
  .ite (.fail rfl) .done
 cases vla with
 | false =>
  rw [arrayLength_of_literals,arrayLength_of_literals,Expr.mapSpans_span]
  exact hu.last hlength
 | true =>
  unfold Check.arrayLength
  rw [Expr.mapSpans_span]
  refine L.attempt hu hlength fun _ _ => ?_
  refine atFileScope.first fun b => .ite (.fail rfl) ?_
  exact hx.value.last fun t => .ite .done (.failNaming fun _ => rfl)

lemma sizedArray (elem:CType) (length:Option Nat) (span:Span)
  (h:L.tracks → elem.recordIds ⊆ κ) :
  L.Types κ μ (sizedArray elem length span) (sizedArray elem length (ρ span)) := by
 refine .get fun c d hcd => ?_
 rw [hcd.sizeOf?]
 exact .ite (.fail rfl) (.pure h)

lemma returnable (t:CType) (span:Span) (ht:L.tracks → t.recordIds ⊆ κ) :
  L.Types κ μ (returnable t span) (returnable t (ρ span)) :=
 .ite (.failNaming fun _ => rfl) (.pure ht)

lemma paramType (name:Option Ident) (t:CType) (span:Span) (ht:L.tracks → t.recordIds ⊆ κ) :
  L.Types κ μ (paramType name t span) (paramType (name.map (·.mapSpan ρ)) t (ρ span)) := by
 refine .ite ?_ (.pure ht)
 cases name <;> exact .fail rfl

lemma freshMember (seen:List String) (name:Ident) :
  L.Runs κ μ (freshMember seen name) (freshMember seen (name.mapSpan ρ)) :=
 .ite (.fail rfl) .done

lemma memberOk (t:CType) (isLast:Bool) (span:Span) :
  L.Runs κ μ (memberOk t isLast span) (memberOk t isLast (ρ span)) :=
 (isComplete t).first fun _ => .ite (.failNaming fun _ => rfl) .done

lemma stringInitializer (t elem:CType) (length:Option Nat) (text:String) (span:Span)
  (ht:L.tracks → t.recordIds ⊆ κ) (helem:L.tracks → elem.recordIds ⊆ κ) :
  L.Types κ μ (stringInitializer t elem length text span)
   (stringInitializer t elem length text (ρ span)) := by
 refine .ite (.fail rfl) (.pure ?_)
 cases length with
 | some n => exact ht
 | none =>
  rw [withLength,CType.recordIds_qualify]
  exact helem

def partIds (id:Nat) (c:Checker) : List Nat :=
 ((c.records.parts? id).map (CType.recordIdsAll ·.2)).getD []

lemma recordParts (t:CType) (id:Nat) (span:Span) :
  L.Holds κ μ (recordParts t id span) (recordParts t id (ρ span))
   (CType.recordIdsAll ·.2) := by
 rw [recordParts_eq,recordParts_eq]
 refine L.look (partIds id) (fun c i hi => ?_) fun c d h => ?_
 · unfold partIds at hi
   cases hp : c.records.parts? id with
   | none =>
    rw [hp] at hi
    cases hi
   | some p =>
    rw [hp] at hi
    exact finds_parts hp hi
 · rw [h.parts?]
   unfold partIds
   split
   · rename_i p hp
     rw [hp]
     exact .pure (by simp)
   · exact .failNaming fun _ => rfl

lemma atMost (items limit:Nat) (what:String) (span:Span) :
  L.Runs κ μ (atMost items limit what span) (atMost items limit what (ρ span)) :=
 .ite (.fail rfl) .done

end Holds

end StepLogic

end CCheck
