import CCheck.Proofs.Scoping.ScopeStack
import CCheck.Scope.Indexed

/-! # The index of a scope

Names lead through the index of a scope to the positions of their symbols, and keep doing so
whatever is declared, changed, entered and left. A table with indexes does therefore what one
without them does that searches its symbols in order. -/

set_option autoImplicit false

namespace CCheck

variable {f:Symbol → Symbol} {name:String}

namespace IndexedScope

variable {s s':IndexedScope} {x:Symbol}

/-- A name is entered in the index with a position exactly if the symbol there has that name. -/
def Consistent (s:IndexedScope) : Prop :=
 ∀ name i, s.index.lookup name = some i ↔ s.symbols[i]?.map (·.name) = some name

/-- The scope without its index. -/
def scope (s:IndexedScope) : Scope := ⟨s.symbols.toList,s.tags⟩

lemma consistent_empty : IndexedScope.empty.Consistent := fun name i => by
 simp [empty]

namespace Consistent

lemma position (h:s.Consistent) {i:Nat} (hx:s.symbols[i]? = some x) :
  s.index.lookup x.name = some i :=
 (h x.name i).mpr (by rw [hx,Option.map_some])

lemma symbol (h:s.Consistent) {i:Nat} (hi:s.index.lookup name = some i) :
  ∃ x, s.symbols[i]? = some x ∧ x.name = name :=
 Option.map_eq_some_iff.mp ((h name i).mp hi)

lemma lookup_eq_none (h:s.Consistent) (hname:s.find? name = none) :
  s.index.lookup name = none := by
 cases hi : s.index.lookup name with
 | none => rfl
 | some i =>
  obtain ⟨x,hx,-⟩:=h.symbol hi
  rw [find?,hi] at hname
  exact absurd (hx.symm.trans hname) (Option.some_ne_none x)

lemma find?_eq (h:s.Consistent) (name:String) : s.find? name = s.scope.find? name := by
 have hposition:∀ y ∈ s.symbols.toList, ∃ i : Nat, s.symbols[i]? = some y := by
  intro y hy
  obtain ⟨i,hi⟩:=List.mem_iff_getElem?.mp hy
  exact ⟨i,Array.getElem?_toList ▸ hi⟩
 unfold find? Scope.find? scope
 cases hi : s.index.lookup name with
 | none =>
  refine (List.find?_eq_none.mpr fun y hy hname => ?_).symm
  obtain ⟨i,hy⟩:=hposition y hy
  have hfound:=h.position hy
  rw [beq_iff_eq.mp hname,hi] at hfound
  cases hfound
 | some i =>
  obtain ⟨x,hx,rfl⟩:=h.symbol hi
  dsimp only
  rw [hx]
  cases hfind : s.symbols.toList.find? (·.name == x.name) with
  | none =>
   have hmem:x ∈ s.symbols.toList:=List.mem_iff_getElem?.mpr ⟨i,Array.getElem?_toList ▸ hx⟩
   exact absurd (beq_self_eq_true x.name) (List.find?_eq_none.mp hfind x hmem)
  | some y =>
   -- the symbol that the search finds is entered with its own position, so it is the same one
   obtain ⟨j,hy⟩:=hposition y (List.mem_of_find?_eq_some hfind)
   have hname:y.name = x.name := by simpa using List.find?_some hfind
   have hj:=h.position hy
   rw [hname,hi] at hj
   cases hj
   exact hx.symm.trans hy

lemma push (h:s.Consistent) (hx:s.find? x.name = none) : (s.push x).Consistent := by
 intro name i
 have hnone:=h.lookup_eq_none hx
 unfold IndexedScope.push
 rw [List.lookup_cons,Array.getElem?_push]
 by_cases hname : name = x.name
 · subst hname
   rw [beq_self_eq_true]
   by_cases hi : i = s.symbols.size
   · simp [hi]
   · rw [if_neg hi,← h x.name i,hnone]
     simpa using Ne.symm hi
 · rw [beq_false_of_ne hname]
   by_cases hi : i = s.symbols.size
   · subst hi
     have hold:=h name s.symbols.size
     rw [Array.getElem?_size] at hold
     simpa [hold] using Ne.symm hname
   · rw [if_neg hi]
     exact h name i

lemma modify (h:s.Consistent) (hf:∀ x, (f x).name = x.name) (i:Nat) :
  Consistent { s with symbols := s.symbols.modify i f } := by
 intro name j
 have hsame:((s.symbols.modify i f)[j]?).map (·.name) = s.symbols[j]?.map (·.name) := by
  rw [Array.getElem?_modify]
  split
  · rw [Option.map_map]
    exact congrArg (Option.map · _) (funext hf)
  · rfl
 rw [hsame]
 exact h name j

lemma scope_modify (h:s.Consistent) {i:Nat} (hi:s.index.lookup name = some i) :
  scope { s with symbols := s.symbols.modify i f } = s.scope.update name f := by
 refine congrArg (Scope.mk · s.tags) (List.ext_getElem? fun j => ?_)
 rw [List.getElem?_map,Array.getElem?_toList,Array.getElem?_modify,scope,Array.getElem?_toList]
 cases hx : s.symbols[j]? with
 | none => simp
 | some x =>
  have hj:=h.position hx
  by_cases hname : x.name = name
  · rw [hname,hi] at hj
    cases hj
    simp [hname]
  · have hij:i ≠ j := by
     rintro rfl
     obtain ⟨y,hy,hyname⟩:=h.symbol hi
     cases hx.symm.trans hy
     exact hname hyname
    simp [hij,hname]

lemma modify?_some (h:s.Consistent) (hs:s.modify? name f = some s') :
  (s.find? name).isSome ∧ s'.scope = s.scope.update name f ∧
   ((∀ x, (f x).name = x.name) → s'.Consistent) := by
 unfold modify? at hs
 cases hi : s.index.lookup name with
 | none =>
  rw [hi] at hs
  cases hs
 | some i =>
  rw [hi] at hs
  cases hs
  obtain ⟨x,hx,-⟩:=h.symbol hi
  have hfind:s.find? name = some x := by
   rw [find?,hi]
   exact hx
  rw [hfind]
  exact ⟨rfl,h.scope_modify hi,fun hf => h.modify hf i⟩

lemma modify?_none (h:s.Consistent) (hs:s.modify? name f = none) :
  s.find? name = none ∧ s.scope.update name f = s.scope := by
 have hfind:s.find? name = none := by
  unfold modify? at hs
  unfold find?
  cases hi : s.index.lookup name with
  | none => rfl
  | some i =>
   rw [hi] at hs
   cases hs
 refine ⟨hfind,congrArg (Scope.mk · s.tags) ?_⟩
 rw [h.find?_eq] at hfind
 refine (List.map_congr_left fun x hx => ?_).trans (List.map_id' _)
 exact if_neg (List.find?_eq_none.mp hfind x hx)

end Consistent

end IndexedScope

namespace IndexedTable

open IndexedScope (scope)

variable {t t':IndexedTable} {ss ss':List IndexedScope}

/-- The table without its indexes. -/
def table (t:IndexedTable) : SymbolTable := ⟨t.current.scope,t.outer.map scope⟩

lemma scopes_table (t:IndexedTable) : t.table.scopes = t.scopes.map scope := rfl

def AllConsistent (ss:List IndexedScope) : Prop := ∀ s ∈ ss, s.Consistent

/-! ### Searching and changing the nearest symbol -/

lemma findSome?_eq (h:AllConsistent ss) (name:String) :
  ss.findSome? (·.find? name) = (ss.map scope).findSome? (·.find? name) := by
 induction ss with
 | nil => rfl
 | cons s ss ih =>
  obtain ⟨hs,hss⟩:=List.forall_mem_cons.mp h
  rw [List.map_cons,List.findSome?_cons,List.findSome?_cons,hs.find?_eq,ih hss]

lemma modifyIn?_some (h:AllConsistent ss) (hf:∀ x, (f x).name = x.name)
  (hss:modifyIn? name f ss = some ss') :
  AllConsistent ss' ∧ ss'.map scope = SymbolTable.updateIn name f (ss.map scope) ∧
   (ss.findSome? (·.find? name)).isSome := by
 induction ss generalizing ss' with
 | nil => cases hss
 | cons s ss ih =>
  obtain ⟨hs,hrest⟩:=List.forall_mem_cons.mp h
  rw [modifyIn?] at hss
  rw [List.map_cons,SymbolTable.updateIn,← hs.find?_eq,List.findSome?_cons]
  cases hmodified : s.modify? name f with
  | some s' =>
   rw [hmodified] at hss
   cases hss
   obtain ⟨hfound,hscope,hs'⟩:=hs.modify?_some hmodified
   obtain ⟨x,hx⟩:=Option.isSome_iff_exists.mp hfound
   rw [if_pos hfound,List.map_cons,hscope,hx]
   exact ⟨List.forall_mem_cons.mpr ⟨hs' hf,hrest⟩,rfl,rfl⟩
  | none =>
   rw [hmodified] at hss
   obtain ⟨rest,hlater,rfl⟩:=Option.map_eq_some_iff.mp hss
   obtain ⟨hrest',hmap,hfound⟩:=ih hrest hlater
   rw [(hs.modify?_none hmodified).1,List.map_cons,hmap]
   exact ⟨List.forall_mem_cons.mpr ⟨hs,hrest'⟩,rfl,hfound⟩

lemma modifyIn?_none (h:AllConsistent ss) (hss:modifyIn? name f ss = none) :
  SymbolTable.updateIn name f (ss.map scope) = ss.map scope ∧
   ss.findSome? (·.find? name) = none := by
 induction ss with
 | nil => exact ⟨rfl,rfl⟩
 | cons s ss ih =>
  obtain ⟨hs,hrest⟩:=List.forall_mem_cons.mp h
  rw [modifyIn?] at hss
  rw [List.map_cons,SymbolTable.updateIn,← hs.find?_eq,List.findSome?_cons]
  cases hmodified : s.modify? name f with
  | some s' =>
   rw [hmodified] at hss
   cases hss
  | none =>
   rw [hmodified] at hss
   obtain ⟨hmap,hfound⟩:=ih hrest (Option.map_eq_none_iff.mp hss)
   rw [(hs.modify?_none hmodified).1,hmap]
   exact ⟨rfl,hfound⟩

lemma scopes_modify? (t:IndexedTable) (name:String) (f:Symbol → Symbol) :
  (t.modify? name f).map scopes = modifyIn? name f t.scopes := by
 unfold modify? modifyLocal? scopes
 rw [modifyIn?]
 cases t.current.modify? name f with
 | some s => rfl
 | none => cases modifyIn? name f t.outer <;> rfl

lemma modify?_some (h:AllConsistent t.scopes) (hf:∀ x, (f x).name = x.name)
  (ht:t.modify? name f = some t') :
  AllConsistent t'.scopes ∧ t'.table = t.table.update name f ∧ (t.lookup? name).isSome := by
 have hscopes:=t.scopes_modify? name f
 rw [ht] at hscopes
 obtain ⟨hall,hmap,hfound⟩:=modifyIn?_some h hf hscopes.symm
 refine ⟨hall,SymbolTable.eq_of_scopes ?_,hfound⟩
 rw [SymbolTable.scopes_update,scopes_table,scopes_table,hmap]

lemma modify?_none (h:AllConsistent t.scopes) (ht:t.modify? name f = none) :
  t.table.update name f = t.table ∧ t.lookup? name = none := by
 have hscopes:=t.scopes_modify? name f
 rw [ht] at hscopes
 obtain ⟨hmap,hfound⟩:=modifyIn?_none h hscopes.symm
 refine ⟨SymbolTable.eq_of_scopes ?_,hfound⟩
 rw [SymbolTable.scopes_update,scopes_table,hmap]

/-! ### Operations -/

lemma lookup?_table (h:AllConsistent t.scopes) (name:String) :
  t.lookup? name = t.table.lookup? name :=
 findSome?_eq h name

lemma modify?_table (h:AllConsistent t.scopes) (name:String) {f:Symbol → Symbol}
  (hf:∀ x, (f x).name = x.name) :
  (t.modify? name f).isSome = (t.table.lookup? name).isSome ∧
   ((t.modify? name f).getD t).table = t.table.update name f := by
 rw [← lookup?_table h]
 cases ht : t.modify? name f with
 | some t' =>
  obtain ⟨-,htable,hfound⟩:=modify?_some h hf ht
  exact ⟨hfound.symm,htable⟩
 | none =>
  obtain ⟨htable,hfound⟩:=modify?_none h ht
  rw [hfound]
  exact ⟨rfl,htable.symm⟩

lemma find?_current (h:AllConsistent t.scopes) (name:String) :
  t.table.current.find? name = t.current.find? name :=
 ((h t.current List.mem_cons_self).find?_eq name).symm

lemma table_push (t:IndexedTable) (x:Symbol) :
  table { t with current := t.current.push x } =
   { t.table with current := { t.table.current with symbols := t.table.current.symbols ++ [x] } } :=
 congrArg (SymbolTable.mk · _) (congrArg (Scope.mk · _) (Array.toList_push ..))

lemma table_declare (h:AllConsistent t.scopes) (x:Symbol) :
  (t.declare x).map table = t.table.declare x := by
 have hlevel:t.table.level = t.level:=List.length_map _
 rw [SymbolTable.declare_eq,find?_current h,hlevel,declare,lookupLocal?]
 cases t.current.find? x.name with
 | some _ => rfl
 | none => exact congrArg Except.ok (t.table_push _)

lemma table_declareTag (t:IndexedTable) (name:String) (tag:Tag) (span:Span) :
  (t.declareTag name tag span).map table = t.table.declareTag name tag span := by
 have htag:t.table.current.tag? name = t.current.tag? name:=rfl
 rw [SymbolTable.declareTag_eq,htag,declareTag,tagLocal?]
 cases t.current.tag? name <;> rfl

lemma table_exit? (t:IndexedTable) :
  t.exit?.map (fun p => (p.1.scope,p.2.table)) = t.table.exit? := by
 obtain ⟨current,outer⟩:=t
 cases outer <;> rfl

def apply (t:IndexedTable) : TableOp → IndexedTable
 | .enter => t.enter
 | .exit => (t.exit?.map (·.2)).getD t
 | .declare x => (t.declare x).toOption.getD t
 | .markUsed name => (t.markUsed? name).getD t
 | .declareTag name tag span => (t.declareTag name tag span).toOption.getD t

def run (t:IndexedTable) (ops:List TableOp) : IndexedTable := ops.foldl apply t

lemma getD_toOption {x:Except Fault IndexedTable} {y:Except Fault SymbolTable}
  (h:x.map table = y) : (x.toOption.getD t).table = y.toOption.getD t.table := by
 subst h
 cases x <;> rfl

lemma table_apply (h:AllConsistent t.scopes) (op:TableOp) :
  (t.apply op).table = t.table.apply op := by
 cases op with
 | enter => rfl
 | exit =>
  obtain ⟨current,outer⟩:=t
  cases outer <;> rfl
 | declare x => exact getD_toOption (table_declare h x)
 | markUsed name => exact (modify?_table h name Symbol.used_name).2
 | declareTag name tag span => exact getD_toOption (t.table_declareTag name tag span)

lemma consistent_apply (h:AllConsistent t.scopes) (op:TableOp) :
  AllConsistent (t.apply op).scopes := by
 obtain ⟨hcurrent,houter⟩:=List.forall_mem_cons.mp h
 cases op with
 | enter => exact List.forall_mem_cons.mpr ⟨IndexedScope.consistent_empty,h⟩
 | exit =>
  obtain ⟨current,outer⟩:=t
  cases outer with
  | nil => exact h
  | cons s ss => exact houter
 | declare x =>
  show AllConsistent ((t.declare x).toOption.getD t).scopes
  unfold declare lookupLocal?
  cases hx : t.current.find? x.name with
  | some _ => exact h
  | none => exact List.forall_mem_cons.mpr ⟨hcurrent.push hx,houter⟩
 | markUsed name =>
  show AllConsistent ((t.markUsed? name).getD t).scopes
  cases ht : t.markUsed? name with
  | some t' => exact (modify?_some h Symbol.used_name ht).1
  | none => exact h
 | declareTag name tag span =>
  show AllConsistent ((t.declareTag name tag span).toOption.getD t).scopes
  unfold declareTag tagLocal?
  cases t.current.tag? name with
  | some _ => exact h
  | none => exact List.forall_mem_cons.mpr ⟨hcurrent,houter⟩

lemma run_keeps (h:AllConsistent t.scopes) (ops:List TableOp) :
  AllConsistent (t.run ops).scopes ∧ (t.run ops).table = t.table.run ops := by
 induction ops generalizing t with
 | nil => exact ⟨h,rfl⟩
 | cons op ops ih =>
  obtain ⟨hall,htable⟩:=ih (consistent_apply h op)
  rw [table_apply h op] at htable
  exact ⟨hall,htable⟩

/-- A table with indexes does what one without them does, and every index leads to the symbols of
its scope. -/
structure Implements (t:IndexedTable) (u:SymbolTable) : Prop where
 consistent : AllConsistent t.scopes
 view : t.table = u
 level : t.level = u.level
 globals : t.globals.toList = u.globals
 lookupLocal : ∀ name, t.lookupLocal? name = u.lookupLocal? name
 lookup : ∀ name, t.lookup? name = u.lookup? name
 tagLocal : ∀ name, t.tagLocal? name = u.tagLocal? name
 tag : ∀ name, t.tag? name = u.tag? name
 enter : t.enter.table = u.enter
 exit : t.exit?.map (fun p => (p.1.scope,p.2.table)) = u.exit?
 declare : ∀ x, (t.declare x).map table = u.declare x
 declareTag : ∀ name tag span, (t.declareTag name tag span).map table = u.declareTag name tag span
 modifyLocal : ∀ name f, (t.modifyLocal? name f).isSome = (u.lookupLocal? name).isSome ∧
  ((t.modifyLocal? name f).getD t).table = u.updateLocal name f
 modify : ∀ name f, (∀ x, (f x).name = x.name) →
  (t.modify? name f).isSome = (u.lookup? name).isSome ∧
   ((t.modify? name f).getD t).table = u.update name f
 markUsed : ∀ name, (t.markUsed? name).isSome = (u.lookup? name).isSome ∧
  ((t.markUsed? name).getD t).table = u.markUsed name

lemma tag?_table (t:IndexedTable) (name:String) : t.tag? name = t.table.tag? name := by
 unfold tag? SymbolTable.tag?
 rw [scopes_table,List.findSome?_map]
 rfl

lemma globals_table (t:IndexedTable) : t.globals.toList = t.table.globals := by
 unfold globals SymbolTable.globals SymbolTable.globalScope table
 rw [List.getLast?_map]
 cases t.outer.getLast? <;> rfl

lemma modifyLocal?_table (h:AllConsistent t.scopes) (name:String) (f:Symbol → Symbol) :
  (t.modifyLocal? name f).isSome = (t.table.lookupLocal? name).isSome ∧
   ((t.modifyLocal? name f).getD t).table = t.table.updateLocal name f := by
 have hcurrent:=h t.current List.mem_cons_self
 rw [SymbolTable.lookupLocal?,find?_current h,modifyLocal?]
 cases hmodified : t.current.modify? name f with
 | some s =>
  obtain ⟨hfound,hscope,-⟩:=hcurrent.modify?_some hmodified
  exact ⟨hfound.symm,congrArg (SymbolTable.mk · _) hscope⟩
 | none =>
  obtain ⟨hfind,hscope⟩:=hcurrent.modify?_none hmodified
  rw [hfind]
  exact ⟨rfl,congrArg (SymbolTable.mk · _) hscope.symm⟩

lemma implements (h:AllConsistent t.scopes) : t.Implements t.table where
 consistent := h
 view := rfl
 level := (List.length_map _).symm
 globals := t.globals_table
 lookupLocal name := (find?_current h name).symm
 lookup := lookup?_table h
 tagLocal _ := rfl
 tag := t.tag?_table
 enter := rfl
 exit := t.table_exit?
 declare := table_declare h
 declareTag := t.table_declareTag
 modifyLocal := modifyLocal?_table h
 modify name _ hf := modify?_table h name hf
 markUsed name := modify?_table h name Symbol.used_name

lemma implements_start (ops:List TableOp) :
  (start.run ops).Implements (SymbolTable.start.run ops) := by
 have hstart:AllConsistent start.scopes:=
  List.forall_mem_singleton.mpr IndexedScope.consistent_empty
 obtain ⟨hall,htable⟩:=run_keeps hstart ops
 exact htable ▸ implements hall

end IndexedTable

end CCheck
