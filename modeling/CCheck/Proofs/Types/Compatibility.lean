import CCheck.CType.Conversion
import Mathlib.Tactic.Lemma

/-! # Compatible types

Compatibility is reflexive and symmetric, but a type that leaves something open is compatible with
types that are not so with each other: a function without a parameter list, an array without a
length. -/

set_option autoImplicit false

namespace CCheck

lemma lengthsAgree_refl (n:Option Nat) : lengthsAgree n n = true := by
 cases n with
 | none => rfl
 | some n => exact beq_self_eq_true n

lemma lengthsAgree_comm (n m:Option Nat) : lengthsAgree n m = lengthsAgree m n := by
 cases n with
 | none => cases m <;> rfl
 | some n =>
  cases m with
  | none => rfl
  | some m => exact Bool.beq_comm

lemma lengthsAgree_trans {n m k:Option Nat} (hm:n.isSome → m.isSome)
  (h:lengthsAgree n m) (h':lengthsAgree m k) : lengthsAgree n k := by
 cases n <;> cases m <;> cases k <;> simp_all [lengthsAgree]

lemma CType.sizeOf_decay_lt (t:CType) (ts:List CType) :
  sizeOf t.decay.kind < sizeOf (t :: ts) := by
 have hts:1 ≤ sizeOf ts := by cases ts <;> simp +arith
 obtain ⟨k,q⟩:=t
 cases k <;> simp +arith [CType.decay,CType.pointer,CType.plain,hts]

/-! ### Reflexivity and symmetry -/

mutual

lemma CType.compatible_refl (t:CType) : t.compatible t = true := by
 obtain ⟨k,q⟩:=t
 simp only [CType.compatible,beq_self_eq_true,k.compatible_refl,Bool.and_self]
termination_by sizeOf t

lemma TypeKind.compatible_refl (k:TypeKind) : k.compatible k = true := by
 cases k with
 | pointer t => exact t.compatible_refl
 | array t n v =>
  simp only [TypeKind.compatible,t.compatible_refl,lengthsAgree_refl,Bool.and_self]
 | function f => exact f.compatible_refl
 | _ => simp [TypeKind.compatible]
termination_by sizeOf k

lemma Signature.compatible_refl (f:Signature) : f.compatible f = true := by
 obtain ⟨ret,params,variadic,prototyped⟩:=f
 simp only [Signature.compatible,ret.compatible_refl,CType.paramsCompatible_refl params,
  beq_self_eq_true,Bool.and_self,Bool.or_true]
termination_by sizeOf f

lemma CType.paramsCompatible_refl (ts:List CType) : CType.paramsCompatible ts ts = true := by
 cases ts with
 | nil => rfl
 | cons t ts =>
  have:=t.sizeOf_decay_lt ts
  simp only [CType.paramsCompatible_cons,CType.compatibleUnqualified,
   t.decay.kind.compatible_refl,CType.paramsCompatible_refl ts,Bool.and_self]
termination_by sizeOf ts

end

mutual

lemma CType.compatible_comm (t u:CType) : t.compatible u = u.compatible t := by
 obtain ⟨k,q⟩:=t
 obtain ⟨l,r⟩:=u
 simp only [CType.compatible,k.compatible_comm l,Bool.beq_comm (a := q)]
termination_by sizeOf t

lemma TypeKind.compatible_comm (k l:TypeKind) : k.compatible l = l.compatible k := by
 cases k with
 | pointer t =>
  cases l with
  | pointer u => exact t.compatible_comm u
  | _ => rfl
 | array t n v =>
  cases l with
  | array u m w => simp only [TypeKind.compatible,t.compatible_comm u,lengthsAgree_comm n]
  | _ => rfl
 | function f =>
  cases l with
  | function g => exact f.compatible_comm g
  | _ => rfl
 | int r s =>
  cases l with
  | int r' s' => simp only [TypeKind.compatible,Bool.beq_comm (a := r),Bool.beq_comm (a := s)]
  | _ => rfl
 | float k =>
  cases l with
  | float k' => exact Bool.beq_comm
  | _ => rfl
 | record i =>
  cases l with
  | record j => exact Bool.beq_comm
  | _ => rfl
 | _ => cases l <;> rfl
termination_by sizeOf k

lemma Signature.compatible_comm (f g:Signature) : f.compatible g = g.compatible f := by
 obtain ⟨ret,params,variadic,prototyped⟩:=f
 obtain ⟨ret',params',variadic',prototyped'⟩:=g
 simp only [Signature.compatible,ret.compatible_comm ret',
  CType.paramsCompatible_comm params params',Bool.beq_comm (a := variadic),
  Bool.beq_comm (a := params.length),Bool.or_comm (!prototyped)]
termination_by sizeOf f

lemma CType.paramsCompatible_comm (ts us:List CType) :
  CType.paramsCompatible ts us = CType.paramsCompatible us ts := by
 cases ts with
 | nil => cases us <;> simp only [CType.paramsCompatible]
 | cons t ts =>
  cases us with
  | nil => simp only [CType.paramsCompatible]
  | cons u us =>
   have:=t.sizeOf_decay_lt ts
   simp only [CType.paramsCompatible_cons,CType.compatibleUnqualified,
    t.decay.kind.compatible_comm u.decay.kind,CType.paramsCompatible_comm ts us]
termination_by sizeOf ts

end

/-! ### Comparing as a recursion

Parameters are compared as what they decay to, which for a function is a type that holds the
parameter itself. The kind of the first type gets smaller all the same: a parameter is at least
one list cell below the function that has it. -/

namespace CType

inductive Asks : CType × CType → CType × CType → Prop
 | pointer (t u:CType) (q r:Qualifiers) : Asks (t,u) (⟨.pointer t,q⟩,⟨.pointer u,r⟩)
 | array (t u:CType) (n m:Option Nat) (v w:Bool) (q r:Qualifiers) :
   Asks (t,u) (⟨.array t n v,q⟩,⟨.array u m w,r⟩)
 | ret (f g:Signature) (q r:Qualifiers) :
   Asks (f.ret,g.ret) (⟨.function f,q⟩,⟨.function g,r⟩)
 | param (f g:Signature) (q r:Qualifiers) {p:CType × CType} (h:p ∈ f.params.zip g.params) :
   Asks (p.1.decay,p.2.decay) (⟨.function f,q⟩,⟨.function g,r⟩)

/-- One round of comparing two types but for their outermost qualifiers, with the answers to what
is asked on the way. -/
def comparing (ask:CType → CType → Bool) (t u:CType) : Bool :=
 match t.kind, u.kind with
 | .void, .void => true
 | .bool, .bool => true
 | .int r s, .int r' s' => r == r' && s == s'
 | .float k, .float l => k == l
 | .pointer t, .pointer u => t.quals == u.quals && ask t u
 | .array t n _, .array u m _ => (t.quals == u.quals && ask t u) && lengthsAgree n m
 | .function f, .function g =>
  (f.ret.quals == g.ret.quals && ask f.ret g.ret) &&
   (!f.prototyped || !g.prototyped ||
    (f.variadic == g.variadic && f.params.length == g.params.length &&
     (f.params.zip g.params).all fun p => ask p.1.decay p.2.decay))
 | .record i, .record j => i == j
 | _, _ => false

lemma sizeOf_decay_lt_of_mem {t:CType} {ts:List CType} (h:t ∈ ts) :
  sizeOf t.decay.kind < sizeOf ts := by
 induction ts with
 | nil => cases h
 | cons u us ih =>
  cases h with
  | head => exact t.sizeOf_decay_lt us
  | tail _ h => exact Nat.lt_trans (ih h) (by simp +arith)

lemma Asks.lt {p q:CType × CType} (h:Asks p q) : sizeOf p.1.kind < sizeOf q.1.kind := by
 have hkind:∀ t : CType, sizeOf t.kind < sizeOf t:=fun ⟨k,q⟩ => by simp +arith
 cases h with
 | pointer t => exact Nat.lt_trans (hkind t) (by simp +arith)
 | array t => exact Nat.lt_trans (hkind t) (by simp +arith)
 | ret f g =>
  obtain ⟨ret,params,variadic,prototyped⟩:=f
  exact Nat.lt_trans (hkind ret) (by simp +arith)
 | param f g q r h =>
  have hlt:=sizeOf_decay_lt_of_mem (List.of_mem_zip h).1
  obtain ⟨ret,params,variadic,prototyped⟩:=f
  exact Nat.lt_trans hlt (by simp +arith)

lemma wellFounded_asks : WellFounded Asks :=
 Subrelation.wf Asks.lt (measure fun p:CType × CType => sizeOf p.1.kind).wf

lemma comparing_congr {ask ask':CType → CType → Bool} {t u:CType}
  (h:∀ p, Asks p (t,u) → ask p.1 p.2 = ask' p.1 p.2) :
  comparing ask t u = comparing ask' t u := by
 obtain ⟨k,q⟩:=t
 obtain ⟨l,r⟩:=u
 cases k with
 | pointer t =>
  cases l with
  | pointer u => exact congrArg (_ && ·) (h _ (.pointer t u q r))
  | _ => rfl
 | array t n v =>
  cases l with
  | array u m w => exact congrArg (_ && · && _) (h _ (.array t u n m v w q r))
  | _ => rfl
 | function f =>
  cases l with
  | function g =>
   have hret:ask f.ret g.ret = ask' f.ret g.ret:=h _ (.ret f g q r)
   have hparams:((f.params.zip g.params).all fun p => ask p.1.decay p.2.decay) =
     (f.params.zip g.params).all fun p => ask' p.1.decay p.2.decay := by
    rw [Bool.eq_iff_iff,List.all_eq_true,List.all_eq_true]
    exact forall₂_congr fun p hp => by rw [h _ (.param f g q r hp)]
   simp only [comparing,hret,hparams]
  | _ => rfl
 | _ => cases l <;> rfl

lemma paramsCompatible_eq_all (ts us:List CType) :
  paramsCompatible ts us =
   (ts.zip us).all fun p => p.1.decay.compatibleUnqualified p.2.decay := by
 induction ts generalizing us with
 | nil => cases us <;> simp [paramsCompatible]
 | cons t ts ih =>
  cases us with
  | nil => simp [paramsCompatible]
  | cons u us => rw [paramsCompatible_cons,ih,List.zip_cons_cons,List.all_cons]

lemma compatible_eq (t u:CType) :
  t.compatible u = (t.quals == u.quals && t.compatibleUnqualified u) := by
 obtain ⟨k,q⟩:=t
 rfl

lemma compatibleUnqualified_eq (t u:CType) :
  t.compatibleUnqualified u = comparing compatibleUnqualified t u := by
 obtain ⟨k,q⟩:=t
 obtain ⟨l,r⟩:=u
 cases k with
 | pointer t =>
  cases l with
  | pointer u => exact compatible_eq t u
  | _ => rfl
 | array t n v =>
  cases l with
  | array u m w => exact congrArg (· && _) (compatible_eq t u)
  | _ => rfl
 | function f =>
  cases l with
  | function g =>
   obtain ⟨ret,params,variadic,prototyped⟩:=f
   simp only [compatibleUnqualified,TypeKind.compatible,Signature.compatible,comparing,
    paramsCompatible_eq_all,compatible_eq ret]
  | _ => rfl
 | _ => cases l <;> rfl

lemma eq_compatibleUnqualified {ask:CType → CType → Bool}
  (h:∀ t u, ask t u = comparing ask t u) : ask = compatibleUnqualified := by
 have hpair (p:CType × CType) : ask p.1 p.2 = p.1.compatibleUnqualified p.2 := by
  induction p using wellFounded_asks.induction with
  | _ p ih => rw [h,compatibleUnqualified_eq,comparing_congr ih]
 exact funext fun t => funext fun u => hpair (t,u)

/-- Every type is compatible with itself, the order of two types does not matter, and comparing
comes to an end on every two types: what a comparison asks about is well-founded, so that one
function only answers what its rounds answer. -/
theorem compatible_reflexive_symmetric :
  (∀ t : CType, t.compatible t = true ∧ t.compatibleUnqualified t = true) ∧
  (∀ t u : CType, t.compatible u = u.compatible t ∧
   t.compatibleUnqualified u = u.compatibleUnqualified t) ∧
  (∀ t u : CType, t.compatible u = (t.quals == u.quals && t.compatibleUnqualified u)) ∧
  WellFounded Asks ∧
  (∀ (ask ask':CType → CType → Bool) (t u:CType),
   (∀ p, Asks p (t,u) → ask p.1 p.2 = ask' p.1 p.2) →
    comparing ask t u = comparing ask' t u) ∧
  (∀ ask : CType → CType → Bool,
   (∀ t u, ask t u = comparing ask t u) ↔ ask = compatibleUnqualified) := by
 refine ⟨fun t => ⟨t.compatible_refl,t.kind.compatible_refl⟩,fun t u => ?_,compatible_eq,
  wellFounded_asks,fun _ _ _ _ => comparing_congr,fun ask => ⟨eq_compatibleUnqualified,?_⟩⟩
 · exact ⟨t.compatible_comm u,t.kind.compatible_comm u.kind⟩
 · rintro rfl
   exact compatibleUnqualified_eq

end CType

/-! ### Types that leave nothing open -/

mutual

/-- Every array in the type has a length and every function a parameter list. The array or the
function that a parameter is written as counts for what it decays to. -/
def CType.definite : CType → Bool
 | ⟨k,_⟩ => k.definite
termination_by structural t => t

def TypeKind.definite : TypeKind → Bool
 | .pointer t => t.definite
 | .array t n _ => n.isSome && t.definite
 | .function f => f.definite
 | _ => true

def Signature.definite : Signature → Bool
 | ⟨ret,params,_,prototyped⟩ =>
  prototyped && (ret.definite && CType.paramsDefinite params)

def CType.paramsDefinite : List CType → Bool
 | [] => true
 | ⟨.array elem _ _,_⟩ :: ts => elem.definite && CType.paramsDefinite ts
 | ⟨k,_⟩ :: ts => k.definite && CType.paramsDefinite ts

end

lemma CType.paramsDefinite_cons (t:CType) (ts:List CType) :
  CType.paramsDefinite (t :: ts) = (t.decay.kind.definite && CType.paramsDefinite ts) := by
 obtain ⟨k,q⟩:=t
 cases k <;> rfl

def TypeKind.isBasic (k:TypeKind) : Bool :=
 k matches .void | .bool | .int .. | .float _ | .record _

lemma TypeKind.eq_of_compatible {j k:TypeKind} (hk:k.isBasic = true)
  (h:j.compatible k = true) : j = k := by
 cases j <;> cases k <;> simp_all [TypeKind.compatible,TypeKind.isBasic]

lemma CType.kind_compatible {t u:CType} (h:t.compatible u = true) :
  t.kind.compatible u.kind = true := by
 obtain ⟨k,q⟩:=t
 obtain ⟨j,r⟩:=u
 exact (Bool.and_eq_true_iff.mp h).2

lemma CType.isFunction_of_compatible {t u:CType} (h:t.compatible u = true) :
  t.isFunction = u.isFunction := by
 have hkind:=kind_compatible h
 obtain ⟨k,q⟩:=t
 obtain ⟨j,r⟩:=u
 cases k <;> cases j <;> first | rfl | cases hkind

lemma CType.isArray_of_compatible {t u:CType} (h:t.compatible u = true) :
  t.isArray = u.isArray := by
 have hkind:=kind_compatible h
 obtain ⟨k,q⟩:=t
 obtain ⟨j,r⟩:=u
 cases k <;> cases j <;> first | rfl | cases hkind

mutual

lemma CType.compatible_trans {a m b:CType} :
  m.definite = true → a.compatible m = true → m.compatible b = true → a.compatible b = true := by
 obtain ⟨j,p⟩:=a
 obtain ⟨k,q⟩:=m
 obtain ⟨l,r⟩:=b
 intro hm h h'
 simp only [CType.compatible,Bool.and_eq_true,beq_iff_eq] at h h' ⊢
 exact ⟨h.1.trans h'.1,TypeKind.compatible_trans hm h.2 h'.2⟩
termination_by sizeOf m

lemma TypeKind.compatible_trans {j k l:TypeKind} :
  k.definite = true → j.compatible k = true → k.compatible l = true → j.compatible l = true := by
 cases k with
 | pointer t =>
  cases j with
  | pointer s =>
   cases l with
   | pointer u => exact CType.compatible_trans (m := t)
   | _ => exact fun _ _ h => nomatch h
  | _ => exact fun _ h => nomatch h
 | array t n v =>
  cases j with
  | array s m w =>
   cases l with
   | array u o x =>
    simp only [TypeKind.compatible,TypeKind.definite,Bool.and_eq_true]
    exact fun ht h h' => ⟨CType.compatible_trans ht.2 h.1 h'.1,
     lengthsAgree_trans (fun _ => ht.1) h.2 h'.2⟩
   | _ => exact fun _ _ h => nomatch h
  | _ => exact fun _ h => nomatch h
 | function f =>
  cases j with
  | function e =>
   cases l with
   | function g =>
    obtain ⟨ret,params,variadic,prototyped⟩:=f
    simp only [TypeKind.definite,Signature.definite,Bool.and_eq_true]
    exact fun hf h h' =>
     Signature.compatible_trans hf.2.1 (fun _ => hf.2.2) (fun _ => hf.1) h h'
   | _ => exact fun _ _ h => nomatch h
  | _ => exact fun _ h => nomatch h
 | _ =>
  intro _ h h'
  rw [TypeKind.eq_of_compatible rfl h]
  exact h'
termination_by sizeOf k

lemma Signature.compatible_trans {e f g:Signature} :
  f.ret.definite = true → (f.prototyped = true → CType.paramsDefinite f.params = true) →
   (e.prototyped = true → f.prototyped = true) →
   e.compatible f = true → f.compatible g = true → e.compatible g = true := by
 obtain ⟨a,ps,v,p⟩:=e
 obtain ⟨m,qs,w,q⟩:=f
 obtain ⟨b,rs,x,r⟩:=g
 simp only [Signature.compatible,Bool.and_eq_true,Bool.or_eq_true,Bool.not_eq_true',
  beq_iff_eq]
 rintro hm hqs hstated ⟨hret,hlists⟩ ⟨hret',hlists'⟩
 refine ⟨CType.compatible_trans hm hret hret',?_⟩
 -- A signature without a prototype agrees with every list of parameters.
 cases p with
 | false => exact .inl (.inl rfl)
 | true =>
  obtain rfl:=hstated rfl
  obtain ⟨⟨rfl,hlength⟩,hparams⟩:=hlists.resolve_left (by decide)
  obtain (hq | hr) | ⟨⟨rfl,hlength'⟩,hparams'⟩:=hlists'
  · cases hq
  · exact .inl (.inr hr)
  · exact .inr ⟨⟨rfl,hlength.trans hlength'⟩,
     CType.paramsCompatible_trans (hqs rfl) hlength hlength' hparams hparams'⟩
termination_by sizeOf f

lemma CType.paramsCompatible_trans {ts us vs:List CType} :
  CType.paramsDefinite us = true → ts.length = us.length → us.length = vs.length →
   CType.paramsCompatible ts us = true → CType.paramsCompatible us vs = true →
   CType.paramsCompatible ts vs = true := by
 cases us with
 | nil =>
  intro _ hts _ _ h
  rw [List.length_eq_zero_iff.mp hts]
  exact h
 | cons u us =>
  cases ts with
  | nil => exact fun _ h => nomatch h
  | cons t ts =>
   cases vs with
   | nil => exact fun _ _ h => nomatch h
   | cons v vs =>
    have:=u.sizeOf_decay_lt us
    simp only [CType.paramsCompatible_cons,CType.paramsDefinite_cons,
     CType.compatibleUnqualified,Bool.and_eq_true,List.length_cons,
     Nat.add_right_cancel_iff]
    exact fun hu hlength hlength' h h' => ⟨TypeKind.compatible_trans hu.1 h.1 h'.1,
     CType.paramsCompatible_trans hu.2 hlength hlength' h.2 h'.2⟩
termination_by sizeOf us

end

def TypeKind.isStated : TypeKind → Bool
 | .array _ n _ => n.isSome
 | .function f => f.prototyped
 | _ => true

/-- Nothing is open but the length of the array itself, or the parameters of the function
itself. -/
def TypeKind.settled : TypeKind → Bool
 | .array t _ _ => t.definite
 | .function f => f.ret.definite && (!f.prototyped || CType.paramsDefinite f.params)
 | k => k.definite

/-- The first type has what the second one states: it is compatible and leaves no more to other
declarations. -/
structure CType.Covers (m t:CType) : Prop where
 compatible : t.compatible m = true
 stated : t.kind.isStated = true → m.kind.isStated = true

namespace CType

variable {m t u:CType}

lemma Covers.refl (t:CType) : t.Covers t := ⟨t.compatible_refl,id⟩

lemma Covers.trans_settled (h:m.Covers t) (hm:m.kind.settled = true)
  (h':m.compatible u = true) : t.compatible u = true := by
 obtain ⟨hcompatible,hstated⟩:=h
 obtain ⟨j,p⟩:=t
 obtain ⟨k,q⟩:=m
 obtain ⟨l,r⟩:=u
 simp only [CType.compatible,Bool.and_eq_true,beq_iff_eq] at hcompatible h' ⊢
 refine ⟨hcompatible.1.trans h'.1,?_⟩
 replace hcompatible := hcompatible.2
 replace h' := h'.2
 cases k with
 | array b n v =>
  cases j with
  | array a o w =>
   cases l with
   | array c m x =>
    simp only [TypeKind.compatible,Bool.and_eq_true] at hcompatible h' ⊢
    exact ⟨CType.compatible_trans hm hcompatible.1 h'.1,
     lengthsAgree_trans hstated hcompatible.2 h'.2⟩
   | _ => cases h'
  | _ => cases hcompatible
 | function f =>
  cases j with
  | function e =>
   cases l with
   | function g =>
    obtain ⟨hret,hparams⟩:=Bool.and_eq_true_iff.mp hm
    refine Signature.compatible_trans hret (fun hf => ?_) hstated hcompatible h'
    rwa [hf,Bool.not_true,Bool.false_or] at hparams
   | _ => cases h'
  | _ => cases hcompatible
 | _ => exact TypeKind.compatible_trans hm hcompatible h'

end CType

end CCheck
