import CCheck.Grammar.Stream
import CCheck.Proofs.Naming.Mentions

/-! # What reading does to the names

A step of reading may add names to the innermost scope and looks at the other scopes only. -/

set_option autoImplicit false

namespace CCheck

variable {α β:Type} {top:NameScope} {below:List NameScope}

namespace TypeNames

def Hides (d:NameScope) : Prop := ∀ p ∈ d, p.2 = false

lemma isType_cons (s:NameScope) (ss:List NameScope) (name:String) :
  (TypeNames.mk (s :: ss)).isType name =
   (s.lookup name).getD ((TypeNames.mk ss).isType name) := by
 simp only [isType,List.findSome?_cons]
 cases s.lookup name <;> rfl

lemma isType_openScope (n:TypeNames) (name:String) :
  n.openScope.isType name = n.isType name :=
 isType_cons [] n.scopes name

lemma isType_declared (name:String) (isType:Bool) (other:String) :
  (TypeNames.mk (((name,isType) :: top) :: below)).isType other =
   if other = name then isType else (TypeNames.mk (top :: below)).isType other := by
 rw [isType_cons,isType_cons,List.lookup_cons]
 by_cases h : other = name
 · rw [if_pos h,h,beq_self_eq_true]
   rfl
 · rw [if_neg h,beq_false_of_ne h]

lemma Hides.isType {d:NameScope} (h:Hides d) {name:String}
  (htype:(TypeNames.mk ((d ++ top) :: below)).isType name = true) :
  (TypeNames.mk (top :: below)).isType name = true := by
 induction d with
 | nil => exact htype
 | cons p d ih =>
  obtain ⟨other,isType⟩:=p
  have hfalse:isType = false:=h (other,isType) List.mem_cons_self
  rw [List.cons_append,isType_declared,hfalse] at htype
  split at htype
  · cases htype
  · exact ih (fun p hp => h p (List.mem_cons_of_mem _ hp)) htype

lemma Hides.append {d d':NameScope} (h:Hides d) (h':Hides d') : Hides (d' ++ d) := by
 intro p hp
 rcases List.mem_append.mp hp with hp | hp
 · exact h' p hp
 · exact h p hp

end TypeNames

open TypeNames

/-! ### Outcomes of reading -/

namespace Parser

/-- Started with the names `n`, the step ends with them, whatever the outcome. -/
def Keeps (n:TypeNames) (p:Parser α) : Prop :=
 ∀ s, s.names = n → (∀ a s', p s = .ok a s' → s'.names = n) ∧
  ∀ f s', p s = .error f s' → s'.names = n

/-- Started with the scopes `top` and `below`, the step adds names to `top`, whatever the outcome,
and leaves the scopes below alone. -/
def Adds (top:NameScope) (below:List NameScope) (p:Parser α) : Prop :=
 ∀ s, s.names = ⟨top :: below⟩ →
  (∀ a s', p s = .ok a s' → ∃ d, s'.names = ⟨(d ++ top) :: below⟩) ∧
  ∀ f s', p s = .error f s' → ∃ d, s'.names = ⟨(d ++ top) :: below⟩

/-- Started with the scopes `top` and `below`, the step adds names to `top`, whatever the outcome,
and leaves the scopes below alone. If it succeeds, its answer and the added names satisfy `Q`. If it
fails, each of the added names is an identifier among the tokens it has passed before the fault. -/
def Declares (top:NameScope) (below:List NameScope) (p:Parser α)
  (Q:α → NameScope → Prop) : Prop :=
 ∀ s, s.names = ⟨top :: below⟩ →
  (∀ a s', p s = .ok a s' → ∃ d, s'.names = ⟨(d ++ top) :: below⟩ ∧ Q a d) ∧
  ∀ f s', p s = .error f s' → ∃ d new, s'.names = ⟨(d ++ top) :: below⟩ ∧
   s'.stream.passed = new ++ s.stream.passed ∧ ∀ x ∈ d, ∃ t ∈ new, t.kind = .ident x.1

variable {n:TypeNames} {p:Parser α} {k:α → Parser β} {Q:α → NameScope → Prop}

namespace Keeps

lemma pure (a:α) : Keeps n (pure a) := by
 refine fun s hs => ⟨fun b s' h => ?_,fun f s' h => ?_⟩
 · cases h
   exact hs
 · cases h

lemma bind (h:Keeps n p) (hk:∀ a, Keeps n (k a)) : Keeps n (p >>= k) := by
 intro s hs
 simp only [Bind.bind,EStateM.bind]
 cases hrun : p s with
 | ok a t => exact hk a t ((h s hs).1 a t hrun)
 | error f t =>
  refine ⟨fun b s' hb => ?_,fun g s' hg => ?_⟩
  · cases hb
  · cases hg
    exact (h s hs).2 f t hrun

end Keeps

lemma Declares.adds (h:Declares top below p Q) : Adds top below p := by
 refine fun s hs => ⟨fun a s' ha => ?_,fun f s' hf => ?_⟩
 · obtain ⟨d,hd,-⟩:=(h s hs).1 a s' ha
   exact ⟨d,hd⟩
 · obtain ⟨d,_,hd,-⟩:=(h s hs).2 f s' hf
   exact ⟨d,hd⟩

end Parser

/-! ### Mentions and names -/

def TypesIn (n:TypeNames) (ms:List Mention) : Prop :=
 ∀ m ∈ ms, m.use = .type → n.isType m.name = true

/-- What has been read explains what happened to the names: all type names among the mentions
are types of the names at the start, and what was added are the enumerators among them. -/
structure Accounts (top:NameScope) (below:List NameScope) (ms:List Mention)
  (d:NameScope) : Prop where
 types : TypesIn ⟨top :: below⟩ ms
 added : ∀ p, p ∈ d ↔ ∃ m ∈ ms, m.IsLocal ∧ p = (m.name,false)

namespace Accounts

variable {ms ms':List Mention} {d d':NameScope}

lemma hides (h:Accounts top below ms d) : Hides d := by
 intro p hp
 obtain ⟨m,-,-,rfl⟩:=(h.added p).mp hp
 rfl

lemma nil : Accounts top below [] [] where
 types m hm := by cases hm
 added p := by simp only [List.not_mem_nil,false_and,exists_false]

lemma congr (h:Accounts top below ms d) (hms:∀ m, m ∈ ms' ↔ m ∈ ms) :
  Accounts top below ms' d where
 types m hm := h.types m ((hms m).mp hm)
 added p := by simp only [h.added p,hms]

lemma append (h:Accounts top below ms d) (h':Accounts (d ++ top) below ms' d') :
  Accounts top below (ms ++ ms') (d' ++ d) where
 types m hm htype := by
  rcases List.mem_append.mp hm with hm | hm
  · exact h.types m hm htype
  · exact h.hides.isType (h'.types m hm htype)
 added p := by
  simp only [List.mem_append,h.added p,h'.added p,or_and_right,exists_or]
  exact or_comm

lemma eq_nil (h:Accounts top below ms d) (hms:∀ m ∈ ms, m.use ≠ .constant) : d = [] := by
 rw [List.eq_nil_iff_forall_not_mem]
 intro p hp
 obtain ⟨m,hm,hlocal,-⟩:=(h.added p).mp hp
 exact hms m hm hlocal.1

lemma constant (name:String) : Accounts top below [.of name .constant] [(name,false)] where
 types m hm htype := by
  rw [List.mem_singleton] at hm
  rw [hm] at htype
  cases htype
 added p := by
  simp only [List.mem_singleton,exists_eq_left,Mention.IsLocal,Mention.of,true_and]

lemma value (name:String) : Accounts top below [.of name .value] [] where
 types m hm htype := by
  rw [List.mem_singleton] at hm
  rw [hm] at htype
  cases htype
 added p := by
  simp only [List.mem_singleton,exists_eq_left,Mention.IsLocal,Mention.of,List.not_mem_nil,
   reduceCtorEq,false_and]

lemma type {name:String} (h:(TypeNames.mk (top :: below)).isType name = true) :
  Accounts top below [.of name .type] [] where
 types m hm _ := by
  rw [List.mem_singleton] at hm
  rw [hm]
  exact h
 added p := by
  simp only [List.mem_singleton,exists_eq_left,Mention.IsLocal,Mention.of,List.not_mem_nil,
   reduceCtorEq,false_and]

lemma toExpr (h:Accounts top below ms d) : Accounts top below (ms.map .toExpr) d where
 types m hm htype := by
  obtain ⟨m',hm',rfl⟩:=List.mem_map.mp hm
  exact h.types m' hm' htype
 added p := by
  rw [h.added p]
  constructor
  · rintro ⟨m,hm,hlocal,rfl⟩
    exact ⟨m.toExpr,List.mem_map_of_mem hm,hlocal,rfl⟩
  · rintro ⟨_,hm,hlocal,rfl⟩
    obtain ⟨m,hm',rfl⟩:=List.mem_map.mp hm
    exact ⟨m,hm',hlocal,rfl⟩

end Accounts

lemma Accounts.toParams {ms:List Mention} (h:TypesIn ⟨[] :: top :: below⟩ ms) :
  Accounts top below (ms.map .toParams) [] where
 types m hm htype := by
  obtain ⟨m',hm',rfl⟩:=List.mem_map.mp hm
  exact (isType_openScope ⟨top :: below⟩ m'.name).symm.trans (h m' hm' htype)
 added p := by
  constructor
  · intro hp
    cases hp
  · rintro ⟨_,hm,⟨-,hout⟩,-⟩
    obtain ⟨m,-,rfl⟩:=List.mem_map.mp hm
    cases hout

end CCheck
