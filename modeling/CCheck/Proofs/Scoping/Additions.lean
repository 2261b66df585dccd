import CCheck.Proofs.Scoping.ScopeStack
import Mathlib.Data.List.Forall2

/-! # Additions to scopes

The scopes of a table keep their symbols in place while others are added behind those of the current
one. -/

set_option autoImplicit false

namespace CCheck

/-! ### What becomes of a symbol -/

structure Symbol.Becoming (R:Symbol → Symbol → Prop) : Prop where
 refl : ∀ x, R x x
 trans : ∀ ⦃x y z⦄, R x y → R y z → R x z
 used : ∀ x, R x x.used

def Symbol.KeptAs (x y:Symbol) : Prop := y = x ∨ y = x.used

lemma Symbol.becoming_keptAs : Becoming KeptAs where
 refl _ := Or.inl rfl
 trans := by
  rintro x y z (rfl | rfl) (rfl | rfl)
  · exact Or.inl rfl
  · exact Or.inr rfl
  · exact Or.inr rfl
  · exact Or.inr rfl
 used _ := Or.inr rfl

def Symbol.Renewed (x y:Symbol) : Prop :=
 ∃ t, (t = x.type ∨ x.kind = .func) ∧ KeptAs { x with type := t } y

lemma Symbol.KeptAs.renewed {x y:Symbol} (h:x.KeptAs y) : x.Renewed y :=
 ⟨x.type,.inl rfl,h⟩

lemma Symbol.becoming_renewed : Becoming Renewed where
 refl x := (becoming_keptAs.refl x).renewed
 trans := by
  rintro x y z ⟨t,ht,hy⟩ ⟨u,hu,hz⟩
  have hkind:y.kind = x.kind := by rcases hy with rfl | rfl <;> rfl
  have htype:y.type = t := by rcases hy with rfl | rfl <;> rfl
  refine ⟨u,?_,?_⟩
  · rcases hu with rfl | hfunc
    · exact ht.imp_left htype.trans
    · exact .inr (hkind ▸ hfunc)
  · rcases hy with rfl | rfl
    · exact hz
    · exact Or.inr (hz.elim id id)
 used x := (becoming_keptAs.used x).renewed

lemma Symbol.Renewed.same {x y:Symbol} (h:x.Renewed y) :
  y = { x with type := y.type,isUsed := y.isUsed } := by
 obtain ⟨t,-,rfl | rfl⟩:=h <;> rfl

lemma Symbol.Renewed.name {x y:Symbol} (h:x.Renewed y) : y.name = x.name := by
 rw [h.same]

/-! ### Lists of symbols -/

lemma forall₂_trans {α:Type} {R:α → α → Prop} (htrans:∀ ⦃x y z⦄, R x y → R y z → R x z)
  ⦃xs ys zs:List α⦄ (h:List.Forall₂ R xs ys) (h':List.Forall₂ R ys zs) :
  List.Forall₂ R xs zs := by
 induction h generalizing zs with
 | nil => exact h'
 | cons hxy _ ih =>
  cases h' with
  | cons hyz hrest => exact .cons (htrans hxy hyz) (ih hrest)

lemma exists_left_of_forall₂ {α:Type} {R:α → α → Prop} {xs ys:List α} {y:α}
  (h:List.Forall₂ R xs ys) (hy:y ∈ ys) : ∃ x ∈ xs, R x y := by
 induction h with
 | nil => cases hy
 | cons hxy _ ih =>
  rcases List.mem_cons.mp hy with rfl | hy
  · exact ⟨_,List.mem_cons_self,hxy⟩
  · obtain ⟨x,hx,hR⟩:=ih hy
    exact ⟨x,List.mem_cons_of_mem _ hx,hR⟩

lemma map_eq_of_forall₂ {α β:Type} {R:α → α → Prop} {f:α → β}
  (hf:∀ x y, R x y → f y = f x) {xs ys:List α} (h:List.Forall₂ R xs ys) :
  ys.map f = xs.map f := by
 induction h with
 | nil => rfl
 | cons hxy _ ih => rw [List.map_cons,List.map_cons,hf _ _ hxy,ih]

namespace Symbol.Becoming

variable {R:Symbol → Symbol → Prop} {xs ys zs own own':List Symbol}

lemma forall₂_refl (hR:Becoming R) (xs:List Symbol) : List.Forall₂ R xs xs :=
 List.forall₂_same.mpr fun x _ => hR.refl x

lemma scopes_refl (hR:Becoming R) (ss:List Scope) :
  List.Forall₂ (List.Forall₂ R) (ss.map (·.symbols)) (ss.map (·.symbols)) :=
 List.forall₂_same.mpr fun xs _ => hR.forall₂_refl xs

lemma append_trans (hR:Becoming R) (h:List.Forall₂ R (xs ++ own) ys)
  (h':List.Forall₂ R (ys ++ own') zs) : List.Forall₂ R (xs ++ (own ++ own')) zs := by
 rw [← List.append_assoc]
 exact forall₂_trans hR.trans (List.rel_append h (hR.forall₂_refl own')) h'

lemma append_drop (hR:Becoming R) (h:List.Forall₂ R (xs ++ own) ys) :
  List.Forall₂ R own (ys.drop xs.length) ∧ List.Forall₂ R (xs ++ ys.drop xs.length) ys := by
 have htake:=List.forall₂_take xs.length h
 have hdrop:=List.forall₂_drop xs.length h
 rw [List.take_left] at htake
 rw [List.drop_left] at hdrop
 refine ⟨hdrop,?_⟩
 calc List.Forall₂ R (xs ++ ys.drop xs.length) (ys.take xs.length ++ ys.drop xs.length) :=
     List.rel_append htake (hR.forall₂_refl _)
   _ = ys := List.take_append_drop _ _

end Symbol.Becoming

/-! ### Tables -/

namespace SymbolTable

/-- The symbols of the second table are those of the first one, in their places, with others behind
those of the current scope. -/
structure Gains (R:Symbol → Symbol → Prop) (own:List Symbol) (t u:SymbolTable) : Prop where
 current : List.Forall₂ R (t.current.symbols ++ own) u.current.symbols
 outer : List.Forall₂ (List.Forall₂ R) (t.outer.map (·.symbols)) (u.outer.map (·.symbols))

namespace Gains

variable {R S:Symbol → Symbol → Prop} {own own':List Symbol} {t u v:SymbolTable}

lemma of_symbols (hR:Symbol.Becoming R) (hcurrent:u.current.symbols = t.current.symbols)
  (houter:u.outer = t.outer) : t.Gains R [] u := by
 refine ⟨?_,?_⟩
 · rw [hcurrent,List.append_nil]
   exact hR.forall₂_refl _
 · rw [houter]
   exact hR.scopes_refl _

lemma refl (hR:Symbol.Becoming R) (t:SymbolTable) : t.Gains R [] t := of_symbols hR rfl rfl

lemma trans (hR:Symbol.Becoming R) (h:t.Gains R own u) (h':u.Gains R own' v) :
  t.Gains R (own ++ own') v :=
 ⟨hR.append_trans h.current h'.current,
  forall₂_trans (forall₂_trans hR.trans) h.outer h'.outer⟩

lemma mono (h:t.Gains R own u) (hRS:∀ x y, R x y → S x y) : t.Gains S own u :=
 ⟨h.current.imp hRS,h.outer.imp fun _ _ hs => hs.imp hRS⟩

lemma level_eq (h:t.Gains R own u) : u.level = t.level := by
 have hlength:=h.outer.length_eq
 rw [List.length_map,List.length_map] at hlength
 exact hlength.symm

lemma map_current {β:Type} {f:Symbol → β} (h:t.Gains R own u)
  (hf:∀ x y, R x y → f y = f x) :
  u.current.symbols.map f = (t.current.symbols ++ own).map f :=
 map_eq_of_forall₂ hf h.current

lemma map_outer {β:Type} {f:Symbol → β} (h:t.Gains R own u)
  (hf:∀ x y, R x y → f y = f x) :
  u.outer.map (·.symbols.map f) = t.outer.map (·.symbols.map f) := by
 have hmap:=map_eq_of_forall₂ (fun _ _ hs => map_eq_of_forall₂ hf hs) h.outer
 rwa [List.map_map,List.map_map] at hmap

/-! ### Operations -/

lemma update_scope (hR:Symbol.Becoming R) {s:Scope} {name:String} {g:Symbol → Symbol}
  (hg:∀ x ∈ s.symbols, x.name = name → R x (g x)) :
  List.Forall₂ R s.symbols (s.update name g).symbols := by
 refine List.forall₂_map_right_iff.mpr (List.forall₂_same.mpr fun x hx => ?_)
 split
 · rename_i hname
   exact hg x hx (eq_of_beq hname)
 · exact hR.refl x

lemma updateLocal (hR:Symbol.Becoming R) {name:String} {g:Symbol → Symbol}
  (hg:∀ x ∈ t.current.symbols, x.name = name → R x (g x)) :
  t.Gains R [] (t.updateLocal name g) := by
 refine ⟨?_,(refl hR t).outer⟩
 rw [List.append_nil]
 exact update_scope hR hg

lemma updateIn_used (hR:Symbol.Becoming R) (name:String) (ss:List Scope) :
  List.Forall₂ (List.Forall₂ R) (ss.map (·.symbols))
   ((updateIn name Symbol.used ss).map (·.symbols)) := by
 induction ss with
 | nil => exact .nil
 | cons s ss ih =>
  rw [updateIn]
  split
  · exact .cons (update_scope hR fun x _ _ => hR.used x)
     (hR.scopes_refl ss)
  · exact .cons (hR.forall₂_refl _) ih

lemma markUsed (hR:Symbol.Becoming R) (t:SymbolTable) (name:String) :
  t.Gains R [] (t.markUsed name) := by
 unfold SymbolTable.markUsed update
 split
 · exact updateLocal hR fun x _ _ => hR.used x
 · exact ⟨(refl hR t).current,updateIn_used hR name t.outer⟩

lemma declare (hR:Symbol.Becoming R) {x:Symbol} (h:t.declare x = .ok u) :
  t.Gains R [{ x with level := t.level }] u := by
 rw [declare_eq] at h
 split at h
 · cases h
 · cases h
   exact ⟨hR.forall₂_refl _,(refl hR t).outer⟩

lemma declareTag (hR:Symbol.Becoming R) {name:String} {tag:Tag} {span:Span}
  (h:t.declareTag name tag span = .ok u) : t.Gains R [] u := by
 rw [declareTag_eq] at h
 split at h
 · cases h
 · cases h
   exact of_symbols hR rfl rfl

lemma exit {s:Scope} {ss:List Scope} (h:t.enter.Gains R own u)
  (houter:u.outer = s :: ss) :
  List.Forall₂ R own u.current.symbols ∧ t.Gains R [] ⟨s,ss⟩ := by
 have hscopes:=h.outer
 rw [houter] at hscopes
 cases hscopes with
 | cons hs hss =>
  refine ⟨h.current,?_,hss⟩
  rw [List.append_nil]
  exact hs

lemma added (hR:Symbol.Becoming R) (h:t.Gains R own u) :
  List.Forall₂ R own (u.current.symbols.drop t.current.symbols.length) ∧
   t.Gains R (u.current.symbols.drop t.current.symbols.length) u := by
 obtain ⟨hown,hcurrent⟩:=hR.append_drop h.current
 exact ⟨hown,hcurrent,h.outer⟩

end Gains

end SymbolTable

end CCheck
