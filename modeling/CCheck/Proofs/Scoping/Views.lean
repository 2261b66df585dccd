import CCheck.Proofs.Scoping.ScopeStack

/-! # Views of a symbol table

A view of a scope lists its names with one aspect of each symbol, say its kind. -/

set_option autoImplicit false

namespace CCheck

variable {β:Type} (f:Symbol → β)

variable {g:Symbol → Symbol} {x:Symbol}

def Scope.view (s:Scope) : List (String × β) := s.symbols.map fun x => (x.name,f x)

def SymbolTable.views (t:SymbolTable) : List (List (String × β)) := t.scopes.map (·.view f)

lemma Scope.lookup_view (s:Scope) (name:String) :
  (s.view f).lookup name = (s.find? name).map f := by
 unfold Scope.view Scope.find?
 induction s.symbols with
 | nil => rfl
 | cons x xs ih =>
  rw [List.map_cons,List.lookup_cons,List.find?_cons,ih,BEq.comm]
  cases x.name == name <;> rfl

lemma findSome?_view (ss:List Scope) (name:String) :
  (ss.map (·.view f)).findSome? (·.lookup name) = (ss.findSome? (·.find? name)).map f := by
 induction ss with
 | nil => rfl
 | cons s ss ih =>
  rw [List.map_cons,List.findSome?_cons,List.findSome?_cons,ih,Scope.lookup_view]
  cases s.find? name <;> rfl

namespace SymbolTable

variable {f} {t t':SymbolTable} {name:String}

lemma map_lookup? (t:SymbolTable) (name:String) :
  (t.lookup? name).map f = (t.views f).findSome? (·.lookup name) :=
 (findSome?_view f t.scopes name).symm

lemma views_cons (t:SymbolTable) :
  t.views f = t.current.view f :: t.outer.map (·.view f) := rfl

lemma view_update (s:Scope) (name:String)
  (hname:∀ x, (g x).name = x.name) (hf:∀ x, f (g x) = f x) :
  (s.update name g).view f = s.view f := by
 unfold Scope.view Scope.update
 rw [List.map_map]
 refine List.map_congr_left fun x _ => ?_
 rw [Function.comp_apply]
 split
 · rw [hname,hf]
 · rfl

lemma view_updateIn (name:String)
  (hname:∀ x, (g x).name = x.name) (hf:∀ x, f (g x) = f x) (ss:List Scope) :
  (updateIn name g ss).map (·.view f) = ss.map (·.view f) := by
 induction ss with
 | nil => rfl
 | cons s ss ih =>
  rw [updateIn]
  split
  · rw [List.map_cons,List.map_cons,view_update s name hname hf]
  · rw [List.map_cons,List.map_cons,ih]

lemma views_update (t:SymbolTable) (name:String)
  (hname:∀ x, (g x).name = x.name) (hf:∀ x, f (g x) = f x) :
  (t.update name g).views f = t.views f := by
 unfold views
 rw [scopes_update,view_updateIn name hname hf]

lemma views_updateLocal (t:SymbolTable) (name:String)
  (hname:∀ x, (g x).name = x.name) (hf:∀ x, f (g x) = f x) :
  (t.updateLocal name g).views f = t.views f := by
 rw [views_cons,views_cons,updateLocal,view_update t.current name hname hf]

lemma views_markUsed (t:SymbolTable) (name:String) (hf:∀ x : Symbol, f x.used = f x) :
  (t.markUsed name).views f = t.views f :=
 views_update t name (fun _ => rfl) hf

lemma declare_eq_ok (h:t.declare x = .ok t') :
  t.lookupLocal? x.name = none ∧ t'.outer = t.outer ∧
   t'.current.view f = t.current.view f ++ [(x.name,f { x with level := t.level })] := by
 rw [declare_eq] at h
 split at h
 · cases h
 · cases h
   refine ⟨Option.not_isSome_iff_eq_none.mp ‹_›,rfl,?_⟩
   unfold Scope.view
   rw [List.map_append]
   rfl

lemma views_declareTag {tag:Tag} {span:Span} (h:t.declareTag name tag span = .ok t') :
  t'.views f = t.views f := by
 rw [declareTag_eq] at h
 split at h
 · cases h
 · cases h
   rfl

lemma map_lookup?_declare (h:t.declare x = .ok t') (name:String) :
  (t'.lookup? name).map f =
   if name = x.name then some (f { x with level := t.level }) else (t.lookup? name).map f := by
 obtain ⟨hnone,houter,hview⟩:=declare_eq_ok (f := f) h
 have hfresh:(t.current.view f).lookup x.name = none := by
  rw [Scope.lookup_view]
  exact congrArg (Option.map f) hnone
 rw [map_lookup?,map_lookup?,views_cons,views_cons,hview,houter,List.findSome?_cons,
  List.findSome?_cons,List.lookup_append]
 by_cases hname : name = x.name
 · rw [if_pos hname,hname,hfresh]
   simp only [List.lookup_cons,beq_self_eq_true,Option.none_or]
 · rw [if_neg hname]
   simp only [List.lookup_cons,beq_false_of_ne hname,List.lookup_nil,Option.or_none]

end SymbolTable

end CCheck
