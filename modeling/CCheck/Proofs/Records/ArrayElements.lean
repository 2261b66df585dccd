import CCheck.Proofs.Records.ObjectSizes

/-! # Elements of arrays

What an array may have for elements is settled where its type is written: no `void`, no functions
and no records without members. An array of unknown length passes for a complete type if its own
elements do, and so may stand inside of another. -/

set_option autoImplicit false

namespace CCheck

open Check

/-! ### Arrays in types -/

inductive CType.Within (u:CType) : CType → Prop
 | refl : Within u u
 | pointer {t:CType} (q:Qualifiers) (h:Within u t) : Within u ⟨.pointer t,q⟩
 | array {t:CType} (n:Option Nat) (vla:Bool) (q:Qualifiers) (h:Within u t) :
   Within u ⟨.array t n vla,q⟩
 | ret {f:Signature} (q:Qualifiers) (h:Within u f.ret) : Within u ⟨.function f,q⟩
 | param {f:Signature} {t:CType} (q:Qualifiers) (ht:t ∈ f.params) (h:Within u t) :
   Within u ⟨.function f,q⟩

/-- What an array may have for elements. If all of them are to be sized, they are no arrays of
unknown length, either. -/
structure Registry.Element (r:Registry) (sized:Bool) (t:CType) : Prop where
 notVoid : t.isVoid = false
 notFunction : t.isFunction = false
 record : ∀ id, t.kind = .record id → ∃ d, r.get? id = some d ∧ d.isComplete = true
 length : sized = true → t.isUnsizedArray = false

def Registry.Elements (r:Registry) (sized:Bool) (t:CType) : Prop :=
 ∀ elem n vla q, CType.Within ⟨.array elem n vla,q⟩ t → r.Element sized elem

namespace Registry

variable {r r':Registry} {sized:Bool} {t:CType}

lemma Element.of_isComplete (h:r.isComplete t = true)
  (hlength:sized = true → t.isUnsizedArray = false) : r.Element sized t := by
 refine ⟨?_,?_,fun id hid => ?_,hlength⟩
 · obtain ⟨k,q⟩:=t
   cases k <;> first | rfl | cases h
 · obtain ⟨k,q⟩:=t
   cases k <;> first | rfl | cases h
 · obtain ⟨k,q⟩:=t
   obtain rfl : k = .record id:=hid
   exact isComplete_record_iff.mp h

lemma Elements.later (h:r.Elements sized t) (hr:r'.Extends r) : r'.Elements sized t := by
 intro elem n vla q hwithin
 obtain ⟨hvoid,hfunction,hrecord,hlength⟩:=h elem n vla q hwithin
 refine ⟨hvoid,hfunction,fun id hid => ?_,hlength⟩
 obtain ⟨d,hd,hcomplete⟩:=hrecord id hid
 exact ⟨d,hr id d hd hcomplete,hcomplete⟩

namespace Elements

lemma requalify {k:TypeKind} {p q:Qualifiers} (h:r.Elements sized ⟨k,p⟩) :
  r.Elements sized ⟨k,q⟩ := by
 intro elem n vla q' hwithin
 cases hwithin with
 | refl => exact h elem n vla p .refl
 | pointer _ hwithin => exact h elem n vla q' (.pointer p hwithin)
 | array m w _ hwithin => exact h elem n vla q' (.array m w p hwithin)
 | ret _ hwithin => exact h elem n vla q' (.ret p hwithin)
 | param _ ht hwithin => exact h elem n vla q' (.param p ht hwithin)

lemma qualify (h:r.Elements sized t) (q:Qualifiers) : r.Elements sized (t.qualify q) := by
 obtain ⟨k,p⟩:=t
 exact h.requalify

lemma pointer (h:r.Elements sized t) : r.Elements sized (.pointer t) := by
 intro elem n vla q hwithin
 cases hwithin with
 | pointer _ hwithin => exact h elem n vla q hwithin

lemma array (h:r.Elements sized t) (helem:r.Element sized t) (length:Option Nat)
  (vla:Bool) : r.Elements sized (.plain (.array t length vla)) := by
 intro elem n vla' q hwithin
 cases hwithin with
 | refl => exact helem
 | array _ _ _ hwithin => exact h elem n vla' q hwithin

lemma function {f:Signature} (hret:r.Elements sized f.ret)
  (hparams:∀ t ∈ f.params, r.Elements sized t) : r.Elements sized (.plain (.function f)) := by
 intro elem n vla q hwithin
 cases hwithin with
 | ret _ hwithin => exact hret elem n vla q hwithin
 | param _ ht hwithin => exact hparams _ ht elem n vla q hwithin

lemma decay (h:r.Elements sized t) : r.Elements sized t.decay := by
 obtain ⟨k,q⟩:=t
 cases k with
 | array elem n vla =>
  refine pointer fun elem' n' vla' q' hwithin => ?_
  exact h elem' n' vla' q' (.array n vla q hwithin)
 | function f => exact h.pointer
 | _ => exact h

end Elements

end Registry

/-! ### Names of types -/

/-- The type that a name stands for has only arrays with such elements. -/
def Symbol.Whole (r:Registry) (x:Symbol) : Prop := x.kind = .type → r.Elements false x.type

structure Checker.Whole (c:Checker) : Prop where
 unique : c.symbols.Unique
 symbols : c.symbols.All (Symbol.Whole c.records)

namespace Checker.Whole

variable {c d:Checker} {x:Symbol}

lemma same (h:c.Whole) (hrecords:d.records = c.records)
  (hsymbols:d.symbols = c.symbols) : d.Whole := by
 refine ⟨hsymbols ▸ h.unique,?_⟩
 rw [hrecords,hsymbols]
 exact h.symbols

lemma grow (h:c.Whole) {r:Registry} (hr:r.Extends c.records) :
  Whole { c with records := r } := by
 refine ⟨h.unique,fun s hs x hx hkind => ?_⟩
 exact (h.symbols s hs x hx hkind).later hr

lemma declare (h:c.Whole) {t:SymbolTable} (hx:x.Whole c.records)
  (ht:c.symbols.declare x = .ok t) : Whole { c with symbols := t } :=
 ⟨h.unique.declare ht,h.symbols.declare hx ht⟩

lemma redeclare (h:c.Whole) {name:String} {g:Symbol → Symbol}
  (hold:c.symbols.lookupLocal? name = some x) (hkind:x.kind ≠ .type)
  (hgname:∀ y, (g y).name = y.name) (hgkind:(g x).kind = x.kind) :
  Whole { c with symbols := c.symbols.updateLocal name g } := by
 refine ⟨h.unique.updateLocal hgname,h.symbols.updateFound h.unique hold fun _ htype => ?_⟩
 exact absurd (hgkind.symm.trans htype) hkind

lemma enterScope (h:c.Whole) : c.enterScope.Whole :=
 ⟨h.unique.enter,h.symbols.enter⟩

lemma leaveScope (h:c.Whole) : c.leaveScope.Whole := by
 cases houter : c.symbols.outer with
 | nil =>
  unfold Checker.leaveScope SymbolTable.exit?
  rw [houter]
  exact h
 | cons s ss =>
  have hinner:Whole { c with symbols := ⟨s,ss⟩ }:=
   ⟨h.unique.exit houter,h.symbols.exit houter⟩
  rw [leaveScope_of_outer houter]
  have hwarned:=warnAboutUnused_keeps (P := Whole)
   (fun d message span hd => hd.same rfl rfl) c.symbols.current.symbols hinner
  exact hwarned.same rfl rfl

lemma leaveFunction (h:c.Whole) (t:CType) : (c.leaveFunction t).Whole := by
 unfold Checker.leaveFunction
 cases hf : c.function with
 | none => exact h
 | some f =>
  have hended:Whole { c with function := none }:=h.same rfl rfl
  have hreported:=List.foldlRecOn (motive := Whole) f.undefinedGotos
   (fun d g => d.report ⟨.undefinedLabel g.name,g.span⟩) hended fun d hd g _ => hd.same rfl rfl
  exact hreported.same rfl rfl

end Checker.Whole

def wholeness : Account where
 rel _ c _ d := c.Whole → d.Whole ∧ d.records.Extends c.records
 refl c h := ⟨h,.refl _⟩
 trans h h' hc := by
  obtain ⟨hd,hextends⟩:=h hc
  obtain ⟨he,hextends'⟩:=h' hd
  exact ⟨he,hextends'.trans hextends⟩
 mono h _ := h
 recover h := h
 refuse c _ _ h := ⟨h,.refl _⟩
 typeRead _ _ h := ⟨h,.refl _⟩
 use c i h := ⟨⟨h.unique.markUsed _,h.symbols.markUsed (fun _ hx => hx) _⟩,.refl _⟩
 callee h _ := h
 call _ _ _ h := ⟨h.same rfl rfl,.refl _⟩
 again h := h
 enumerator h hc := ⟨hc.declare (fun hkind => by cases hkind) h,.refl _⟩
 tag h hc := ⟨⟨hc.unique.declareTag h,hc.symbols.declareTag h⟩,.refl _⟩
 record _ _ _ h := ⟨h.grow (Registry.extends_declare _ _ _),Registry.extends_declare _ _ _⟩
 complete h hc := ⟨hc.grow (Registry.extends_complete h),Registry.extends_complete h⟩
 defineRecord _ h hc := h (hc.same rfl rfl)
 defineEnum _ h hc := h (hc.same rfl rfl)

def Checker.Denotes (c:Checker) (name:String) (t:CType) : Prop :=
 (c.symbols.lookup? name).map Symbol.entity = some (.type,t)

/-- Checking an expression or a type makes no name stand for a type. -/
def meaning : Account where
 rel _ c _ d := d.records.Extends c.records ∧ ∀ name t, d.Denotes name t → c.Denotes name t
 refl c := ⟨.refl _,fun _ _ h => h⟩
 trans h h' := ⟨h'.1.trans h.1,fun name t ht => h.2 name t (h'.2 name t ht)⟩
 mono h _ := h
 recover h := h
 refuse c _ _ := ⟨.refl _,fun _ _ h => h⟩
 typeRead _ _ := ⟨.refl _,fun _ _ h => h⟩
 use c i := by
  refine ⟨.refl _,fun name t ht => ?_⟩
  unfold Checker.Denotes at ht ⊢
  rwa [SymbolTable.map_lookup?,SymbolTable.views_markUsed _ _ fun _ => rfl,
   ← SymbolTable.map_lookup?] at ht
 callee h _ := h
 call _ _ _ := ⟨.refl _,fun _ _ h => h⟩
 again h := h
 enumerator h := by
  refine ⟨.refl _,fun name t ht => ?_⟩
  unfold Checker.Denotes at ht ⊢
  rw [SymbolTable.map_lookup?_declare h] at ht
  split at ht
  · cases ht
  · exact ht
 tag h := by
  refine ⟨.refl _,fun name t ht => ?_⟩
  unfold Checker.Denotes at ht ⊢
  rwa [SymbolTable.map_lookup?,SymbolTable.views_declareTag h,← SymbolTable.map_lookup?] at ht
 record _ _ _ := ⟨Registry.extends_declare _ _ _,fun _ _ h => h⟩
 complete h := ⟨Registry.extends_complete h,fun _ _ h => h⟩
 defineRecord _ h := h
 defineEnum _ h := h

/-! ### Written types -/

def TypeExpr.isOpenArray (e:TypeExpr) : Bool := e.form matches .array _ none false

mutual

/-- No array is written with arrays of unknown length for its elements. A parameter that is
written as an array is a pointer to its elements. -/
def TypeExpr.innerSized : TypeExpr → Bool
 | ⟨form,_,_⟩ => form.innerSized
termination_by structural e => e

def TypeForm.innerSized : TypeForm → Bool
 | .pointer target => target.innerSized
 | .array elem _ _ => !elem.isOpenArray && elem.innerSized
 | .function ret params _ _ => ret.innerSized && Param.innerSizedAll params
 | _ => true

def Param.innerSizedAll : List Param → Bool
 | [] => true
 | ⟨_,⟨.array elem _ _,_,_⟩,_⟩ :: ps => elem.innerSized && Param.innerSizedAll ps
 | ⟨_,type,_⟩ :: ps => type.innerSized && Param.innerSizedAll ps

end

mutual

/-- The names that the resolved type is made from. -/
def TypeExpr.typeNames : TypeExpr → List String
 | ⟨form,_,_⟩ => form.typeNames
termination_by structural e => e

def TypeForm.typeNames : TypeForm → List String
 | .named name => [name]
 | .pointer target => target.typeNames
 | .array elem _ _ => elem.typeNames
 | .function ret params _ _ => ret.typeNames ++ Param.typeNamesAll params
 | _ => []

def Param.typeNamesAll : List Param → List String
 | [] => []
 | ⟨_,type,_⟩ :: ps => type.typeNames ++ Param.typeNamesAll ps

end

def TypeForm.ownNames : TypeForm → List String
 | .named name => [name]
 | _ => []

mutual

/-- The names that are written for the elements of an array. -/
def TypeExpr.elementNames : TypeExpr → List String
 | ⟨form,_,_⟩ => form.elementNames
termination_by structural e => e

def TypeForm.elementNames : TypeForm → List String
 | .pointer target => target.elementNames
 | .array ⟨form,_,_⟩ _ _ => form.ownNames ++ form.elementNames
 | .function ret params _ _ => ret.elementNames ++ Param.elementNamesAll params
 | _ => []

def Param.elementNamesAll : List Param → List String
 | [] => []
 | ⟨_,⟨.array elem _ _,_,_⟩,_⟩ :: ps => elem.elementNames ++ Param.elementNamesAll ps
 | ⟨_,type,_⟩ :: ps => type.elementNames ++ Param.elementNamesAll ps

end

/-- The types that the names stand for have no arrays of unknown length for elements of arrays, and
those for elements are no such arrays themselves. -/
structure Checker.SizedNames (c:Checker) (names elements:List String) : Prop where
 names : ∀ name ∈ names, ∀ t, c.Denotes name t → c.records.Elements true t
 elements : ∀ name ∈ elements, ∀ t, c.Denotes name t → t.isUnsizedArray = false

namespace Checker.SizedNames

variable {c d:Checker} {names names' elements elements':List String}

lemma later {ms:List Mark} {o:Option Fault} (h:c.SizedNames names elements)
  (hd:meaning.rel ms c o d) : d.SizedNames names elements where
 names name hname t ht := (h.names name hname t (hd.2 name t ht)).later hd.1
 elements name hname t ht := h.elements name hname t (hd.2 name t ht)

lemma of_subset (h:c.SizedNames names elements) (hnames:names' ⊆ names)
  (helements:elements' ⊆ elements) : c.SizedNames names' elements' where
 names name hname := h.names name (hnames hname)
 elements name hname := h.elements name (helements hname)

lemma left (h:c.SizedNames (names ++ names') (elements ++ elements')) :
  c.SizedNames names elements :=
 h.of_subset (List.subset_append_left _ _) (List.subset_append_left _ _)

lemma right (h:c.SizedNames (names ++ names') (elements ++ elements')) :
  c.SizedNames names' elements' :=
 h.of_subset (List.subset_append_right _ _) (List.subset_append_right _ _)

end Checker.SizedNames

section

variable {sized:Bool} {c d:Checker} {t:CType}

lemma denotes_of_namedType {name:String} {span:Span} (h:namedType name span c = .ok t d) :
  d = c ∧ c.Denotes name t := by
 have hlooks:meaning.Looks [] (namedType name span):=.namedType name span
 exact ⟨hlooks.eq_of_ok h,namedType_eq_ok h⟩

lemma elements_namedType {name:String} {span:Span} (hc:c.Whole)
  (hsized:sized = true → c.SizedNames [name] []) (h:namedType name span c = .ok t d) :
  d.records.Elements sized t := by
 obtain ⟨rfl,hdenotes⟩:=denotes_of_namedType h
 cases sized with
 | true => exact (hsized rfl).names name (List.mem_singleton_self name) t hdenotes
 | false =>
  obtain ⟨x,hx,hentity⟩:=Option.map_eq_some_iff.mp hdenotes
  obtain ⟨hkind,rfl⟩:=Prod.mk.inj hentity
  exact (hc.symbols.of_lookup? hx).1 hkind

lemma isUnsizedArray_resolveType {e:TypeExpr} (hopen:e.isOpenArray = false)
  (hnames:c.SizedNames [] e.form.ownNames) (h:resolveType e c = .ok t d) :
  t.isUnsizedArray = false := by
 obtain ⟨form,quals,span⟩:=e
 obtain ⟨u,e,hu,hpure⟩:=bind_eq_ok h
 cases hpure
 change u.isUnsizedArray = false
 cases form with
 | base b =>
  cases hu
  cases b <;> rfl
 | record spec =>
  obtain ⟨id,e',_,hpure⟩:=bind_eq_ok hu
  cases hpure
  rfl
 | enum spec =>
  obtain ⟨_,e',_,hpure⟩:=bind_eq_ok hu
  cases hpure
  rfl
 | named name =>
  exact hnames.elements name (List.mem_singleton_self name) _ (denotes_of_namedType hu).2
 | pointer target =>
  obtain ⟨v,e',_,hpure⟩:=bind_eq_ok hu
  cases hpure
  rfl
 | array elem size vla =>
  cases size with
  | none =>
   obtain ⟨v,e',_,hrest⟩:=bind_eq_ok hu
   obtain ⟨w,e'',_,hpure⟩:=bind_eq_ok hrest
   cases hpure
   cases vla with
   | true => rfl
   | false => cases hopen
  | some size =>
   obtain ⟨v,e',_,hrest⟩:=bind_eq_ok hu
   obtain ⟨w,e'',_,hrest'⟩:=bind_eq_ok hrest
   obtain ⟨n, e''',_,hsized⟩:=bind_eq_ok hrest'
   obtain rfl:=sizedArray_eq_ok hsized
   cases n <;> rfl
 | function ret params variadic prototyped =>
  obtain ⟨v,e',_,hrest⟩:=bind_eq_ok hu
  obtain ⟨w,e'',_,hrest'⟩:=bind_eq_ok hrest
  obtain ⟨ts, e''',_,hpure⟩:=bind_eq_ok hrest'
  cases hpure
  rfl

lemma returnable_eq_ok {u:CType} {span:Span} (h:returnable t span c = .ok u d) :
  u = t ∧ d = c := by
 unfold returnable at h
 split at h
 · obtain ⟨_,_,_,hfail⟩:=bind_eq_ok h
   cases hfail
 · cases h
   exact ⟨rfl,rfl⟩

/-- Nothing in the written type makes an array of unknown length an element of an array. -/
def TypeExpr.AllSized (c:Checker) (e:TypeExpr) : Prop :=
 e.innerSized = true ∧ c.SizedNames e.typeNames e.elementNames

def TypeForm.AllSized (c:Checker) (form:TypeForm) : Prop :=
 form.innerSized = true ∧ c.SizedNames form.typeNames form.elementNames

lemma TypeForm.AllSized.elem {elem:TypeExpr} {size:Option Expr} {vla:Bool}
  (h:TypeForm.AllSized c (.array elem size vla)) :
  elem.AllSized c ∧ elem.isOpenArray = false ∧ c.SizedNames [] elem.form.ownNames := by
 obtain ⟨form,quals,span⟩:=elem
 obtain ⟨hinner,hnames⟩:=h
 obtain ⟨hopen,hinner⟩:=Bool.and_eq_true_iff.mp hinner
 refine ⟨⟨hinner,hnames.of_subset (List.Subset.refl _) (List.subset_append_right _ _)⟩,
  Bool.eq_false_of_not_eq_true' hopen,?_⟩
 exact hnames.of_subset (List.nil_subset _) (List.subset_append_left _ _)

mutual

lemma elements_resolveType : ∀ (e:TypeExpr) {c d:Checker} {t:CType},
  (sized = true → e.AllSized c) → c.Whole → resolveType e c = .ok t d →
  d.records.Elements sized t
 | ⟨form,quals,span⟩, c, d, t, hsized, hc, h => by
  obtain ⟨u,e,hu,hpure⟩:=bind_eq_ok h
  cases hpure
  exact (elements_resolveForm span form hsized hc hu).qualify quals
termination_by structural e => e

lemma elements_resolveForm (span:Span) : ∀ (form:TypeForm) {c d:Checker} {t:CType},
  (sized = true → form.AllSized c) → c.Whole →
  resolveForm span form c = .ok t d → d.records.Elements sized t
 | .base b, c, d, t, _, _, h => by
  cases h
  cases b <;> exact fun _ _ _ _ hwithin => nomatch hwithin
 | .record spec, c, d, t, _, _, h => by
  obtain ⟨id,e,_,hpure⟩:=bind_eq_ok h
  cases hpure
  exact fun _ _ _ _ hwithin => nomatch hwithin
 | .enum spec, c, d, t, _, _, h => by
  obtain ⟨_,e,_,hpure⟩:=bind_eq_ok h
  cases hpure
  exact fun _ _ _ _ hwithin => nomatch hwithin
 | .named name, c, d, t, hsized, hc, h => elements_namedType hc (fun hs => (hsized hs).2) h
 | .pointer target, c, d, t, hsized, hc, h => by
  obtain ⟨u,e,hu,hpure⟩:=bind_eq_ok h
  cases hpure
  exact (elements_resolveType target hsized hc hu).pointer
 | .array elem none vla, c, d, t, hsized, hc, h => by
  obtain ⟨u,e,hu,hrest⟩:=bind_eq_ok h
  obtain ⟨v,e',hv,hpure⟩:=bind_eq_ok hrest
  obtain ⟨rfl,rfl,hcomplete⟩:=arrayElement_eq_ok hv
  cases hpure
  refine (elements_resolveType elem (fun hs => (hsized hs).elem.1) hc hu).array
   (.of_isComplete hcomplete fun hs => ?_) none vla
  exact isUnsizedArray_resolveType (hsized hs).elem.2.1 (hsized hs).elem.2.2 hu
 | .array elem (some size) vla, c, d, t, hsized, hc, h => by
  obtain ⟨u,e,hu,hrest⟩:=bind_eq_ok h
  obtain ⟨v,e',hv,hrest'⟩:=bind_eq_ok hrest
  obtain ⟨rfl,rfl,hcomplete⟩:=arrayElement_eq_ok hv
  obtain ⟨n,e'',hn,harray⟩:=bind_eq_ok hrest'
  obtain rfl:=sizedArray_eq_ok harray
  obtain ⟨hextends,-⟩:=(meaning.arrayLength size vla).rel_of_ok hn
  have hlook:meaning.Looks [] (sizedArray v n size.span):=
   .of (.sizedArray v n size.span False.elim)
  obtain rfl:=hlook.eq_of_ok harray
  -- Checking the length may define records, which leaves complete ones as they were.
  refine Registry.Elements.later (r := e'.records) ?_ hextends
  refine (elements_resolveType elem (fun hs => (hsized hs).elem.1) hc hu).array
   (.of_isComplete hcomplete fun hs => ?_) n n.isNone
  exact isUnsizedArray_resolveType (hsized hs).elem.2.1 (hsized hs).elem.2.2 hu
 | .function ret params variadic prototyped, c, d, t, hsized, hc, h => by
  obtain ⟨u,e,hu,hrest⟩:=bind_eq_ok h
  obtain ⟨v,e',hv,hrest'⟩:=bind_eq_ok hrest
  obtain ⟨rfl,rfl⟩:=returnable_eq_ok hv
  obtain ⟨ts,e'',hts,hpure⟩:=bind_eq_ok hrest'
  cases hpure
  have hinner (hs:sized = true):=Bool.and_eq_true_iff.mp (hsized hs).1
  obtain ⟨he,_⟩:=(wholeness.resolveType ret).rel_of_ok hu hc
  have hstays:=(meaning.resolveType ret).rel_of_ok hu
  obtain ⟨hextends,-⟩:=(meaning.resolveParams params).rel_of_ok hts
  have hret:=elements_resolveType ret (fun hs => ⟨(hinner hs).1,(hsized hs).2.left⟩) hc hu
  refine (hret.later hextends).function (elements_resolveParams params (fun hs => ?_) he hts)
  exact ⟨(hinner hs).2,(hsized hs).2.right.later hstays⟩

lemma elements_resolveParams : ∀ (ps:List Param) {c d:Checker} {ts:List CType},
  (sized = true → Param.innerSizedAll ps = true ∧
   c.SizedNames (Param.typeNamesAll ps) (Param.elementNamesAll ps)) → c.Whole →
  resolveParams ps c = .ok ts d → ∀ t ∈ ts, d.records.Elements sized t
 | [], c, d, ts, _, _, h => by
  cases h
  exact fun _ ht => nomatch ht
 | ⟨name,⟨form,quals,s⟩,span⟩ :: ps, c, d, ts, hsized, hc, h => by
  obtain ⟨t,e,ht,hrest⟩:=bind_eq_ok h
  obtain ⟨us,e',hus,hpure⟩:=bind_eq_ok hrest
  cases hpure
  obtain ⟨he,_⟩:=(wholeness.resolveParam ⟨name,⟨form,quals,s⟩,span⟩).rel_of_ok ht hc
  have hstays:=(meaning.resolveParam ⟨name,⟨form,quals,s⟩,span⟩).rel_of_ok ht
  obtain ⟨hextends,-⟩:=(meaning.resolveParams ps).rel_of_ok hus
  have hlook (t:CType) : meaning.Looks [] (paramType name t span):=
   .of (.paramType name t span False.elim)
  have hparam:(sized = true → Param.innerSizedAll ps = true ∧
    c.SizedNames (Param.typeNamesAll ps) (Param.elementNamesAll ps)) ∧
    e.records.Elements sized t := by
   cases form with
   | array elem size vla =>
    have hinner (hs:sized = true):=Bool.and_eq_true_iff.mp (hsized hs).1
    obtain ⟨u,e'',hu,hparam⟩:=bind_eq_ok ht
    obtain rfl:=(hlook _).eq_of_ok hparam
    obtain ⟨rfl,_⟩:=paramType_eq_ok hparam
    have helements:=elements_resolveType elem (fun hs =>
     ⟨(hinner hs).1,(hsized hs).2.left⟩) hc hu
    exact ⟨fun hs => ⟨(hinner hs).2,(hsized hs).2.right⟩,helements.pointer.qualify quals⟩
   | _ =>
    have hinner (hs:sized = true):=Bool.and_eq_true_iff.mp (hsized hs).1
    obtain ⟨u,e'',hu,hparam⟩:=bind_eq_ok ht
    obtain rfl:=(hlook _).eq_of_ok hparam
    obtain ⟨rfl,_⟩:=paramType_eq_ok hparam
    have helements:=elements_resolveType ⟨_,quals,s⟩ (fun hs =>
     ⟨(hinner hs).1,(hsized hs).2.left⟩) hc hu
    exact ⟨fun hs => ⟨(hinner hs).2,(hsized hs).2.right⟩,helements.decay⟩
  refine List.forall_mem_cons.mpr ⟨hparam.2.later hextends,?_⟩
  exact elements_resolveParams ps (fun hs =>
   ⟨(hparam.1 hs).1,(hparam.1 hs).2.later hstays⟩) he hus

end

end

/-! ### Programs -/

section

variable {c:Checker}

lemma wholeness_functions : wholeness.EntersFunctions where
 function hx ht hc := by
  refine ⟨hc.declare (fun hkind => ?_) ht,.refl _⟩
  cases hx.symm.trans hkind
 again hold hfunc hname hkind hc := by
  refine ⟨hc.redeclare hold ?_ hname (hkind _),.refl _⟩
  rw [hfunc]
  nofun

lemma wholeness_enterVariable (v:VarDecl) (t:CType) :
  wholeness.Meets [] (enterVariable v t) := by
 intro c
 refine outcome_enterVariable .refused v t (fun hs => .ok fun hc => ?_)
  fun {old g} _ hold hkind _ hg _ => .ok fun hc => ?_
 · exact ⟨(hc.declare (fun hkind => by cases hkind) hs).same rfl rfl,.refl _⟩
 · have hgname:∀ x, (g x).name = x.name:=fun x => by rw [(hg x).eq]
   have hgkind:(g old).kind = old.kind := by rw [(hg old).eq]
   exact ⟨(hc.redeclare hold (by rw [hkind]; nofun) hgname hgkind).same rfl rfl,.refl _⟩

lemma wholeness_declareVariable (v:VarDecl) :
  wholeness.Meets (v.type.marks ++ v.init.toList.flatMap Initializer.marks)
   (declareVariable v) := by
 refine (wholeness.resolveType v.type).bind fun t => .ite ?_ ?_
 · refine .ite (Account.Looks.fail rfl _).meets ?_
   have hfunction:=wholeness_functions.declareFunction v.name t v.storage false
   exact hfunction.mono (List.nil_sublist _)
 · refine .ite (Account.Looks.fail rfl _).meets
    ((Account.Looks.fileScopeStorage v).andThen fun _ => ?_)
   refine (wholeness.initializedType v t).last fun t =>
    (Account.Looks.definable v t).andThen fun _ => ?_
   exact wholeness_enterVariable v t

lemma wholeness_declareTypedef (v:TypedefDecl) :
  wholeness.Meets (Declaration.marks (.typedef v)) (checkDeclaration (.typedef v)) := by
 intro c
 by_cases hc : c.Whole
 · refine (wholeness.resolveType v.type c).bind fun t e ht => ?_
   refine outcome_declare .refused fun hs => .ok fun he => ⟨he.declare (fun _ => ?_) hs,.refl _⟩
   exact elements_resolveType v.type nofun hc ht
 · cases checkDeclaration (.typedef v) c with
   | ok _ d => exact .ok fun hc' => absurd hc' hc
   | error f d => exact .error fun hc' => absurd hc' hc

lemma wholeness_declaration (dcl:Declaration) :
  wholeness.Meets dcl.marks (checkDeclaration dcl) := by
 cases dcl with
 | var v =>
  refine (wholeness_declareVariable v).mono ?_
  rw [Declaration.marks,← List.append_assoc]
  exact List.sublist_append_left _ _
 | func f =>
  exact (wholeness.resolveType f.type).last fun t =>
   wholeness_functions.declareFunction f.name t f.storage false
 | record spec => exact wholeness.declareRecord spec
 | enum spec => exact wholeness.resolveEnum spec
 | typedef v => exact wholeness_declareTypedef v

def programWholeness : ProgramAccount where
 toAccount := wholeness
 declaration := wholeness_declaration
 heading name t storage := wholeness_functions.declareFunction name t storage true
 param _ hs hc := ⟨hc.declare (fun hkind => by cases hkind) hs,.refl _⟩
 jump _ _ _ h := ⟨h,.refl _⟩
 adjust h hadjusted hc := by
  obtain ⟨hd,hextends⟩:=h hc
  cases hadjusted with
  | flow flow switches => exact ⟨hd.same rfl rfl,hextends⟩
  | function _ => exact ⟨hd.same rfl rfl,hextends⟩
 scope h hc := by
  obtain ⟨hd,hextends⟩:=h hc.enterScope
  refine ⟨hd.leaveScope,?_⟩
  rw [Checker.records_leaveScope]
  exact hextends
 report h hc := by
  obtain ⟨hd,hextends⟩:=h hc
  exact ⟨hd.same rfl rfl,hextends⟩
 warn _ _ _ hc := ⟨hc.same rfl rfl,.refl _⟩
 enterFunction _ _ _ hc := ⟨hc.same rfl rfl,.refl _⟩
 leaveFunction c t hc := by
  refine ⟨hc.leaveFunction t,?_⟩
  rw [Checker.records_leaveFunction]
  exact .refl _

lemma whole_after {α:Type} {ms:List Mark} {x:Check α} (hx:wholeness.Meets ms x)
  (hc:c.Whole) : (x.after c).Whole := by
 have hends:=hx c
 unfold Check.after
 generalize x c = o at hends
 cases hends with
 | ok state => exact (state hc).1
 | error state => exact (state hc).1

lemma whole_start (warnUnused:Bool) : (Checker.start warnUnused).Whole := by
 refine ⟨.start,fun s hs x hx => ?_⟩
 cases List.mem_singleton.mp hs
 cases hx

/-- In every state that checking comes to, arrays in an accepted type have elements that are neither
`void` nor functions nor incomplete records. They are not arrays of unknown length, either, unless an
array of such arrays is written in the type, or a name in it stands for one or is written for the
elements of an array and stands for an array of unknown length. -/
theorem array_elements_settled (c:Checker) :
  (∀ warnUnused : Bool, (Checker.start warnUnused).Whole) ∧
  (c.Whole →
   c.enterScope.Whole ∧ c.leaveScope.Whole ∧
   (∀ e, ((checkExpr e).after c).Whole) ∧
   (∀ e, ((resolveType e).after c).Whole) ∧
   (∀ dcl, ((checkDeclaration dcl).after c).Whole) ∧
   (∀ s, ((checkStmt s).after c).Whole) ∧
   (∀ e, ((checkExternal e).after c).Whole) ∧
   ∀ u : ProgramUnit, (c.analyze u).Whole) ∧
  ∀ (sized:Bool) (d:Checker) (e:TypeExpr) (t:CType), c.Whole →
   (sized = true → e.AllSized c) → resolveType e c = .ok t d →
   d.records.Elements sized t := by
 refine ⟨whole_start,fun hc => ⟨hc.enterScope,hc.leaveScope,?_⟩,
  fun sized d e t hc hsized => elements_resolveType e hsized hc⟩
 exact ⟨fun e => whole_after (wholeness.checkExpr e) hc,
  fun e => whole_after (wholeness.resolveType e) hc,
  fun dcl => whole_after (wholeness_declaration dcl) hc,
  fun s => whole_after (programWholeness.statements.checkStmt s) hc,
  fun e => whole_after (programWholeness.checkExternal e) hc,
  fun u => (programWholeness.analyze c u hc).1⟩

/-- The type `row[]`, as it is written. -/
def TypeExpr.rows : TypeExpr :=
 ⟨.array ⟨.named "row",.none,⟨0,3,1,1⟩⟩ none false,.none,⟨3,5,1,4⟩⟩

/-- The name of an array of known length may be written for the elements of another. -/
theorem array_elements_settled_rows :
  ∃ u t d, parse "typedef int row[3];" = .ok u ∧
   resolveType .rows ((Checker.start true).analyze u) = .ok t d ∧
   d.records.Elements true t := by
 have h:(parse "typedef int row[3];").toOption.bind (fun u =>
   some ((((Checker.start true).analyze u).symbols.lookup? "row").map Symbol.entity,
    ((resolveType .rows).run' ((Checker.start true).analyze u)).isSome)) =
   some (some (.type,.plain (.array .int (some 3) false)),true) := by
  decide +kernel
 obtain ⟨u,hu,h⟩:=exists_unit h
 obtain ⟨hrow,hresolved⟩:=Prod.mk.inj (Option.some.inj h)
 have hwhole:=((array_elements_settled (.start true)).2.1 (whole_start true)).2.2.2.2.2.2.2 u
 generalize hc : (Checker.start true).analyze u = c at hrow hresolved hwhole
 delta EStateM.run' EStateM.run at hresolved
 cases ht : resolveType .rows c with
 | error f d =>
  rw [ht] at hresolved
  cases hresolved
 | ok t d =>
  refine ⟨u,t,d,hu,hc ▸ ht,(array_elements_settled c).2.2 true d .rows t hwhole (fun _ => ?_) ht⟩
  have hnames (t:CType) (ht:c.Denotes "row" t) : t = .plain (.array .int (some 3) false) :=
   (Prod.mk.inj (Option.some.inj (ht.symm.trans hrow))).2
  refine ⟨rfl,fun name hname t ht => ?_,fun name hname t ht => ?_⟩
  all_goals
   obtain rfl:=List.mem_singleton.mp hname
   obtain rfl:=hnames t ht
  · refine Registry.Elements.array ?_ (.of_isComplete rfl fun _ => rfl) (some 3) false
    exact fun _ _ _ _ hwithin => nomatch hwithin
  · rfl

/-- An array of arrays of unknown length is accepted, and takes no room. -/
theorem open_elements_accepted :
  (check "int a[2][];" "" true).analysis.map (fun a =>
   (a.errorCount,a.globals.map fun x => (x.type,a.records.sizeOf? x.type))) =
  some (0,[(.plain (.array (.plain (.array .int none false)) (some 2) false),some 0)]) := by
 decide +kernel

end

end CCheck
