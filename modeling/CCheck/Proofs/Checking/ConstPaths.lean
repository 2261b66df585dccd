import CCheck.Analysis.Expression
import Mathlib.Tactic.Lemma

/-! # Constant objects and their parts

What a path from a constant variable through members and array elements designates can be modified
exactly if the way to it goes through an array whose elements are not constant, and no constant
member comes after. -/

set_option autoImplicit false

namespace CCheck

variable {α β:Type} {s:Checker} {i:Ident} {e:Expr}

variable {op:UnaryOp} {s':Checker} {t:CType} {type:Check CType}

/-! ### Outcomes of a check -/

namespace Check

def Ensures (x:Check α) (s:Checker) (Q:α → Checker → Prop) : Prop :=
 ∀ a s', x s = .ok a s' → Q a s'

def Fails (x:Check α) (s:Checker) : Prop := ∃ f s', x s = .error f s'

variable {x:Check α} {k:α → Check β} {Q:α → Checker → Prop} {Q':β → Checker → Prop}

lemma Ensures.fails (h:Ensures x s fun _ _ => False) : Fails x s := by
 cases hx : x s with
 | ok a s' => exact (h a s' hx).elim
 | error f s' => exact ⟨f,s',hx⟩

lemma Ensures.mono {Q'':α → Checker → Prop} (h:Ensures x s Q)
  (hQ:∀ a s', Q a s' → Q'' a s') : Ensures x s Q'' :=
 fun a s' hx => hQ a s' (h a s' hx)

lemma ensures_pure {a:α} (h:Q a s) : Ensures (pure a) s Q := by
 intro b s' hb
 cases hb
 exact h

lemma ensures_fail (cause:Cause) (span:Span) : Ensures (fail cause span) s Q := by
 intro a s' h
 cases h

lemma ensures_bind (h:∀ a t, x s = .ok a t → Ensures (k a) t Q') :
  Ensures (x >>= k) s Q' := by
 intro b s' hb
 cases hx : x s with
 | ok a t =>
  refine h a t hx b s' ?_
  simpa only [bind,EStateM.bind,hx] using hb
 | error f t => simp only [bind,EStateM.bind,hx,reduceCtorEq] at hb

lemma bind_ok {a:α} {t:Checker} (h:x s = .ok a t) : (x >>= k) s = k a t := by
 simp only [bind,EStateM.bind,h]

end Check

open Check

/-! ### Access paths -/

inductive AccessPath (s:Checker) (i:Ident) : Expr → Prop where
 | ident : AccessPath s i (.ident i)
 | member {b:Expr} (name:Ident) (span:Span) (h:AccessPath s i b) :
    AccessPath s i (.member b name false span)
 | index {b:Expr} (k:Expr) (span:Span) (h:AccessPath s i b)
    (array:Ensures (checkExpr b) s fun t _ => t.isArray = true) :
    AccessPath s i (.index b k span)

/-- What a path from a constant variable leads to is constant: no element that is not has come
in between, or a constant member has come after it. -/
def KeepsConst (s:Checker) : Expr → Prop
 | .ident _ => True
 | .member b name _ _ =>
  KeepsConst s b ∨ ∃ t s' f, checkExpr b s = .ok t s' ∧
   s'.records.member? t name.name = some f ∧ f.type.isConst = true
 | .index b _ _ => ∃ elem length vla q s',
   checkExpr b s = .ok ⟨.array elem length vla,q⟩ s' ∧ elem.isConst = true
 | _ => False
termination_by structural e => e

lemma identType_eq {x:Symbol} (hi:s.symbols.lookup? i.name = some x) (hx:x.kind = .var) :
  identType i s = .ok x.type s := by
 have hlookup:lookup? i.name s = .ok (some x) s := by
  rw [← hi]
  rfl
 unfold identType
 rw [bind_ok hlookup]
 dsimp only
 rw [hx]
 rfl

lemma value_eq_ok
  (h:value type s = .ok t s') : ∃ u, type s = .ok u s' ∧ t = u.value := by
 have hvalue:Ensures (value type) s fun t s' => ∃ u, type s = .ok u s' ∧ t = u.value:=
  ensures_bind fun u _ hu => ensures_pure ⟨u,hu,rfl⟩
 exact hvalue t s' h

lemma eq_array (h:t.isArray = true) :
  ∃ elem length vla q, t = ⟨.array elem length vla,q⟩ := by
 obtain ⟨kind,q⟩:=t
 cases kind with
 | array elem length vla => exact ⟨elem,length,vla,q,rfl⟩
 | _ => cases h

lemma isConst_qualify (t:CType) (q:Qualifiers) :
  (t.qualify q).isConst = (t.isConst || q.isConst) := rfl

lemma ensures_memberType (t:CType) (name:Ident) (span:Span) :
  Ensures (memberType t name span) s fun u _ =>
   ∃ f, s.records.member? t name.name = some f ∧ u = f.type.qualify t.quals := by
 unfold memberType
 split
 · exact ensures_bind fun _ _ _ => ensures_fail _ _
 · refine ensures_bind fun complete t hcomplete => ?_
   cases hcomplete
   split
   · exact ensures_bind fun _ _ _ => ensures_fail _ _
   · refine ensures_bind fun state t hstate => ?_
     cases hstate
     split
     · rename_i f hf
       exact ensures_pure ⟨f,hf,rfl⟩
     · exact ensures_bind fun _ _ _ => ensures_fail _ _

lemma element?_pointer {elem u:CType} (h:(CType.pointer elem).element? t = some u) :
  u = elem := by
 have htarget:(CType.pointer elem).target? = some elem:=rfl
 unfold CType.element? at h
 rw [htarget] at h
 cases ht : t.target? with
 | none =>
  rw [ht] at h
  cases hinteger : t.isInteger with
  | true =>
   rw [hinteger] at h
   exact (Option.some.inj h).symm
  | false =>
   rw [hinteger] at h
   cases h
 | some v =>
  rw [ht] at h
  cases h

lemma ensures_elementType (base:Expr) (elem t:CType) (span:Span) :
  Ensures (elementType base (.pointer elem) t span) s fun u _ => u = elem := by
 unfold elementType
 split
 · exact ensures_bind fun _ _ _ => ensures_fail _ _
 · rename_i u hu
   refine ensures_bind fun complete t' _ => ?_
   split
   · exact ensures_bind fun _ _ _ => ensures_fail _ _
   · exact ensures_pure (element?_pointer hu)

lemma checkExpr_member (b:Expr) (name:Ident) (span:Span) :
  checkExpr (.member b name false span) = (do memberType (← checkExpr b) name span) := rfl

lemma checkExpr_index (b k:Expr) (span:Span) :
  checkExpr (.index b k span) = (do
   let t ← value (checkExpr b)
   let u ← value (checkExpr k)
   elementType b t u span) := rfl

lemma AccessPath.isConst_iff {x:Symbol} (hi:s.symbols.lookup? i.name = some x)
  (hvar:x.kind = .var) (hconst:x.type.isConst = true) (he:AccessPath s i e) :
  Ensures (checkExpr e) s fun t _ => t.isConst = true ↔ KeepsConst s e := by
 -- every operand on the way is checked first, so all are checked in the state `s`
 induction he with
 | ident =>
  refine ensures_bind fun t s' ht => ?_
  rw [identType_eq hi hvar] at ht
  cases ht
  refine ensures_bind fun _ _ _ => ensures_pure ?_
  exact ⟨fun _ => trivial,fun _ => hconst⟩
 | member name span _ ih =>
  rw [checkExpr_member]
  refine ensures_bind fun t s' ht => ?_
  refine (ensures_memberType t name span).mono ?_
  rintro _ _ ⟨f,hf,rfl⟩
  rw [isConst_qualify,Bool.or_eq_true]
  have hbase:t.quals.isConst = true ↔ KeepsConst s _:=ih t s' ht
  unfold KeepsConst
  constructor
  · rintro (hfield | hrecord)
    · exact .inr ⟨t,s',f,ht,hf,hfield⟩
    · exact .inl (hbase.mp hrecord)
  · rintro (hkept | ⟨t',s'',f',ht',hf',hfield⟩)
    · exact .inr (hbase.mpr hkept)
    · rw [ht] at ht'
      cases ht'
      rw [hf] at hf'
      cases hf'
      exact .inl hfield
 | index k span _ array ih =>
  rw [checkExpr_index]
  refine ensures_bind fun _ s' hvalue => ensures_bind fun u _ _ => ?_
  obtain ⟨t,ht,rfl⟩:=value_eq_ok hvalue
  obtain ⟨elem,length,vla,q,rfl⟩:=eq_array (array t s' ht)
  refine (ensures_elementType _ elem u span).mono fun v _ hv => ?_
  rw [hv]
  unfold KeepsConst
  constructor
  · intro helem
    exact ⟨elem,length,vla,q,s',ht,helem⟩
  · rintro ⟨elem',length',vla',q',s'',ht',helem⟩
    rw [ht] at ht'
    cases ht'
    exact helem

/-! ### Modifications -/

lemma ensures_modifiable (target:Expr)
  (h:Ensures type s fun t _ => t.isConst = true) :
  Ensures (modifiable target type) s fun _ _ => False := by
 unfold modifiable
 refine ensures_bind fun t s' ht => ensures_bind fun object _ _ => ?_
 rw [h t s' ht]
 split
 · exact ensures_fail _ _
 · exact ensures_bind fun _ _ _ => ensures_fail _ _

lemma modifiable_eq_ok (target:Expr)
  (htype:type s = .ok t s') (hobject:designatesObject target s' = .ok true s')
  (harray:t.isArray = false) (hfunction:t.isFunction = false) (hconst:t.isConst = false) :
  modifiable target type s = .ok t.unqualified s' := by
 unfold modifiable
 rw [bind_ok htype,bind_ok hobject,harray,hfunction,hconst]
 rfl

lemma AccessPath.ensures_storeType {x:Symbol} (hi:s.symbols.lookup? i.name = some x)
  (hvar:x.kind = .var) (hconst:x.type.isConst = true) (he:AccessPath s i e)
  (h:Ensures (checkExpr e) s fun t _ => t.isConst = true) :
  Ensures (storeType e (checkExpr e)) s fun t _ => t.isConst = true := by
 cases he with
 | ident =>
  show Ensures (identType i) s fun t _ => t.isConst = true
  intro t s' ht
  rw [identType_eq hi hvar] at ht
  cases ht
  exact hconst
 | member => exact h
 | index => exact h

lemma AccessPath.designatesObject (he:AccessPath s i e) (hne:∀ j, e ≠ .ident j)
  (s':Checker) : Check.designatesObject e s' = .ok true s' := by
 cases he with
 | ident => exact absurd rfl (hne i)
 | member => rfl
 | index => rfl

lemma ensures_assign (op:AssignOp) (v:Expr) (span:Span)
  (h:Ensures (checkExpr e) s fun t _ => t.isConst = true)
  (hstore:Ensures (storeType e (checkExpr e)) s fun t _ => t.isConst = true) :
  Ensures (checkExpr (.assign op e v span)) s fun _ _ => False := by
 rw [checkExpr]
 split
 · exact ensures_bind fun t s' ht => (ensures_modifiable e hstore t s' ht).elim
 · exact ensures_bind fun t s' ht => (ensures_modifiable e h t s' ht).elim

lemma checkExpr_increment (hop:op.isIncrement = true) (e:Expr) (span:Span) :
  checkExpr (.unary op e span) = (do unaryType op (← modifiable e (checkExpr e)) span) := by
 cases op with
 | preInc | preDec | postInc | postDec => rfl
 | _ => cases hop

lemma ensures_increment (span:Span) (hop:op.isIncrement = true)
  (h:Ensures (checkExpr e) s fun t _ => t.isConst = true) :
  Ensures (checkExpr (.unary op e span)) s fun _ _ => False := by
 rw [checkExpr_increment hop]
 exact ensures_bind fun t s' ht => (ensures_modifiable e h t s' ht).elim

/-- A constant object cannot be modified through an access path that keeps it constant, and
can be through every other one, unless the path leads to an array. -/
theorem modification_through_path (s:Checker) (i:Ident) (x:Symbol) (e:Expr)
  (hi:s.symbols.lookup? i.name = some x) (hvar:x.kind = .var)
  (hconst:x.type.isConst = true) (he:AccessPath s i e) :
  (KeepsConst s e →
   (∀ op v span, Fails (checkExpr (.assign op e v span)) s) ∧
   ∀ op span, op.isIncrement = true → Fails (checkExpr (.unary op e span)) s) ∧
  (¬KeepsConst s e → ∀ t s', checkExpr e s = .ok t s' → t.isArray = false →
   t.isFunction = false → modifiable e (checkExpr e) s = .ok t.unqualified s') := by
 have hiff:=he.isConst_iff hi hvar hconst
 constructor
 · intro hkept
   have hpath:Ensures (checkExpr e) s fun t _ => t.isConst = true:=
    hiff.mono fun _ _ h => h.mpr hkept
   constructor
   · intro op v span
     exact (ensures_assign op v span hpath (he.ensures_storeType hi hvar hconst hpath)).fails
   · intro op span hop
     exact (ensures_increment span hop hpath).fails
 · intro hlost t s' ht harray hfunction
   have hnot:t.isConst = false := by
    rw [Bool.eq_false_iff]
    exact fun h => hlost ((hiff t s' ht).mp h)
   refine modifiable_eq_ok e ht (he.designatesObject ?_ s') harray hfunction hnot
   rintro j rfl
   exact hlost trivial

/-- The state after `struct S { int n; int a[1]; }; const struct S s;`. -/
def constantStruct : Checker :=
 { Checker.start true with
   records :=
    ⟨[⟨.struct,some "S",some [⟨"n",.int,0⟩,⟨"a",.array .int (some 1),4⟩],8,4⟩]⟩
   symbols :=
    ⟨⟨[⟨"s",.var,(CType.record 0).qualify .const,none,0,true,false,false,.nowhere⟩],
     [("S",.record 0)]⟩,[]⟩ }

def arrayMember : Expr := .member (.ident ⟨"s",.nowhere⟩) ⟨"a",.nowhere⟩ false .nowhere

def firstElement : Expr :=
 .index arrayMember (.literal (.int ⟨0,.decimal,false,0⟩ .nowhere)) .nowhere

/-- The member `s.n` is as constant as `s`. -/
theorem modification_through_path_member :
  (∀ op v span, Fails (checkExpr
   (.assign op (.member (.ident ⟨"s",.nowhere⟩) ⟨"n",.nowhere⟩ false .nowhere) v span))
   constantStruct) ∧
  ∀ op span, op.isIncrement = true → Fails (checkExpr
   (.unary op (.member (.ident ⟨"s",.nowhere⟩) ⟨"n",.nowhere⟩ false .nowhere) span))
   constantStruct :=
 (modification_through_path constantStruct ⟨"s",.nowhere⟩ _ _ rfl rfl rfl
  (.member _ _ .ident)).1 (Or.inl trivial)

/-- The element `s.a[0]` is not: `s.a[0] = 1` is accepted. -/
theorem constant_struct_element_assigned :
  (∃ x, constantStruct.symbols.lookup? "s" = some x ∧ x.kind = .var ∧ x.type.isConst = true) ∧
   AccessPath constantStruct ⟨"s",.nowhere⟩ firstElement ∧
   ∃ t s', checkExpr (.assign .assign firstElement
    (.literal (.int ⟨1,.decimal,false,0⟩ .nowhere)) .nowhere) constantStruct =
     .ok t s' := by
 refine ⟨⟨_,rfl,rfl,rfl⟩,.index _ _ (.member _ _ .ident) ?_,_,_,rfl⟩
 intro t s' ht
 cases ht
 rfl

end CCheck
