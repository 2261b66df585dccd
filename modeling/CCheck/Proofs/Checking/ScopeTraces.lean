import CCheck.Proofs.Checking.Rejections
import CCheck.Proofs.Checking.UnusedWarnings

/-! # Traces of scopes

What is declared while a function is checked is a tree: symbols and labels one after another, and
inner scopes among them. -/

set_option autoImplicit false

namespace CCheck

open Check

/-! ### Trees of declarations -/

inductive ScopeItem where
 | symbol (x:Symbol)
 | label (x:Symbol)
 | block (items:List ScopeItem)

namespace ScopeItem

def own? (depth:Nat) : ScopeItem → Option Symbol
 | symbol x => some { x with level := depth }
 | label _ => none
 | block _ => none

def own (depth:Nat) (items:List ScopeItem) : List Symbol := items.filterMap (own? depth)

mutual

def endedIn (depth:Nat) : ScopeItem → List Symbol
 | symbol _ => []
 | label _ => []
 | block items => ended (depth + 1) items ++ own (depth + 1) items

def ended (depth:Nat) : List ScopeItem → List Symbol
 | [] => []
 | i :: is => endedIn depth i ++ ended depth is

end

mutual

def declaredIn (depth:Nat) : ScopeItem → List Symbol
 | symbol x => [{ x with level := depth }]
 | label _ => []
 | block items => declared (depth + 1) items

def declared (depth:Nat) : List ScopeItem → List Symbol
 | [] => []
 | i :: is => declaredIn depth i ++ declared depth is

end

mutual

def labelsIn : ScopeItem → List Symbol
 | symbol _ => []
 | label x => [x]
 | block items => labels items

def labels : List ScopeItem → List Symbol
 | [] => []
 | i :: is => labelsIn i ++ labels is

end

mutual

def DistinctIn (depth:Nat) : ScopeItem → Prop
 | symbol _ => True
 | label _ => True
 | block items => ((own (depth + 1) items).map (·.name)).Nodup ∧ Distinct (depth + 1) items

def Distinct (depth:Nat) : List ScopeItem → Prop
 | [] => True
 | i :: is => DistinctIn depth i ∧ Distinct depth is

end

variable {depth:Nat} {items items':List ScopeItem}

lemma own_append : own depth (items ++ items') = own depth items ++ own depth items' :=
 List.filterMap_append

lemma ended_append : ended depth (items ++ items') = ended depth items ++ ended depth items' := by
 induction items with
 | nil => rfl
 | cons i is ih => rw [List.cons_append,ended,ended,ih,List.append_assoc]

lemma labels_append : labels (items ++ items') = labels items ++ labels items' := by
 induction items with
 | nil => rfl
 | cons i is ih => rw [List.cons_append,labels,labels,ih,List.append_assoc]

lemma Distinct.append (h:Distinct depth items) (h':Distinct depth items') :
  Distinct depth (items ++ items') := by
 induction items with
 | nil => exact h'
 | cons i is ih => exact ⟨h.1,ih h.2⟩

lemma own_symbols (xs:List Symbol) :
  own depth (xs.map symbol) = xs.map ({ · with level := depth }) := by
 rw [own,List.filterMap_map]
 exact congrFun (List.filterMap_eq_map (f := ({ · with level := depth }))) xs

lemma ended_symbols (xs:List Symbol) : ended depth (xs.map symbol) = [] := by
 induction xs with
 | nil => rfl
 | cons x xs ih => exact ih

lemma labels_symbols (xs:List Symbol) : labels (xs.map symbol) = [] := by
 induction xs with
 | nil => rfl
 | cons x xs ih => exact ih

lemma distinct_symbols (xs:List Symbol) : Distinct depth (xs.map symbol) := by
 induction xs with
 | nil => trivial
 | cons x xs ih => exact ⟨trivial,ih⟩

lemma own_labels (xs:List Symbol) : own depth (xs.map label) = [] := by
 induction xs with
 | nil => rfl
 | cons x xs ih => exact ih

lemma ended_labels (xs:List Symbol) : ended depth (xs.map label) = [] := by
 induction xs with
 | nil => rfl
 | cons x xs ih => exact ih

lemma labels_labels (xs:List Symbol) : labels (xs.map label) = xs := by
 induction xs with
 | nil => rfl
 | cons x xs ih => exact congrArg (x :: ·) ih

lemma distinct_labels (xs:List Symbol) : Distinct depth (xs.map label) := by
 induction xs with
 | nil => trivial
 | cons x xs ih => exact ⟨trivial,ih⟩

mutual

lemma perm_declaredIn : ∀ (depth:Nat) (i:ScopeItem),
  (endedIn depth i ++ (own? depth i).toList).Perm (declaredIn depth i)
 | _, symbol _ => .refl _
 | _, label _ => .refl _
 | depth, block items => by
  rw [endedIn,own?,Option.toList_none,List.append_nil,declaredIn]
  exact perm_declared (depth + 1) items
termination_by structural _ i => i

lemma perm_declared : ∀ (depth:Nat) (items:List ScopeItem),
  (ended depth items ++ own depth items).Perm (declared depth items)
 | _, [] => .refl _
 | depth, i :: is => by
  have hown:own depth (i :: is) = (own? depth i).toList ++ own depth is := by
   unfold own
   rw [List.filterMap_cons]
   cases own? depth i <;> rfl
  rw [ended,declared,hown]
  refine .trans ?_ ((perm_declaredIn depth i).append (perm_declared depth is))
  rw [List.append_assoc,List.append_assoc]
  exact .append_left _ ((List.perm_append_comm_assoc _ _ _))
termination_by structural _ items => items

end

end ScopeItem

namespace Checker

def unusedWarnings (warnUnused:Bool) (xs:List Symbol) : List Diagnostic :=
 if warnUnused then
  (xs.filter isUnusedVariable).map fun x => .warning ("unused variable '" ++ x.name ++ "'") x.span
 else []

lemma unusedWarnings_append (warnUnused:Bool) (xs ys:List Symbol) :
  unusedWarnings warnUnused (xs ++ ys) =
   unusedWarnings warnUnused xs ++ unusedWarnings warnUnused ys := by
 unfold unusedWarnings
 split
 · rw [List.filter_append,List.map_append]
 · rfl

lemma unusedWarnings_nil (warnUnused:Bool) : unusedWarnings warnUnused [] = [] := by
 unfold unusedWarnings
 split <;> rfl

lemma filter_unusedWarnings (warnUnused:Bool) (xs:List Symbol) :
  (unusedWarnings warnUnused xs).filter (·.tellsUnused) = unusedWarnings warnUnused xs := by
 unfold unusedWarnings
 split
 · refine List.filter_eq_self.mpr fun d hd => ?_
   obtain ⟨x,_,rfl⟩:=List.mem_map.mp hd
   exact Diagnostic.tellsUnused_variable x.name x.span
 · rfl

lemma warnAboutUnused_eq (c:Checker) (xs:List Symbol) :
  ∃ n, c.warnAboutUnused xs =
   { c with
     diagnostics := c.diagnostics ++ unusedWarnings c.warnUnused xs
     warningCount := n } := by
 unfold warnAboutUnused unusedWarnings
 split
 · rename_i hwarn
   clear hwarn
   induction xs.filter isUnusedVariable generalizing c with
   | nil => exact ⟨c.warningCount,by rw [List.map_nil,List.append_nil]; rfl⟩
   | cons x xs ih =>
    obtain ⟨n,hn⟩ := ih (c.warn ("unused variable '" ++ x.name ++ "'") x.span)
    refine ⟨n,?_⟩
    rw [List.foldl_cons,hn,List.map_cons]
    simp only [warn,List.append_assoc,List.singleton_append]
 · exact ⟨c.warningCount,by rw [List.append_nil]⟩

lemma leaveScope_eq {c:Checker} {s:Scope} {ss:List Scope} (h:c.symbols.outer = s :: ss) :
  ∃ n, c.leaveScope =
   { c with
     symbols := ⟨s,ss⟩
     function := c.function.map fun f =>
      { f with locals := f.locals ++ c.symbols.current.symbols }
     diagnostics := c.diagnostics ++ unusedWarnings c.warnUnused c.symbols.current.symbols
     warningCount := n } := by
 obtain ⟨n,hn⟩:=warnAboutUnused_eq { c with symbols := ⟨s,ss⟩ } c.symbols.current.symbols
 refine ⟨n,?_⟩
 rw [leaveScope_of_outer h,hn]
 rfl

end Checker

/-! ### Collecting -/

/-- What a state has got with the declarations of some items. The symbols of the scopes that have
ended are the `locals` of the function, and those that are unused have been told. -/
structure Checker.Collects (items:List ScopeItem) (locals:List Symbol) (c d:Checker) :
  Prop where
 symbols : c.symbols.Gains Symbol.Renewed (ScopeItem.own c.symbols.level items) d.symbols
 unique : c.symbols.Unique → d.symbols.Unique
 ended : List.Forall₂ Symbol.Renewed (ScopeItem.ended c.symbols.level items) locals
 distinct : c.symbols.Unique → ScopeItem.Distinct c.symbols.level items
 function : ∀ f, c.function = some f → ∃ g, d.function = some g ∧ g.name = f.name ∧
  g.locals = f.locals ++ locals ∧ g.labels = f.labels ++ ScopeItem.labels items
 labels : ∀ x ∈ ScopeItem.labels items, x.kind = .label
 diagnostics : ∃ new, d.diagnostics = c.diagnostics ++ new ∧
  new.filter (·.tellsUnused) = unusedWarnings c.warnUnused locals
 functions : d.functions = c.functions
 initialized : d.initialized = c.initialized
 warnUnused : d.warnUnused = c.warnUnused

structure Checker.InBody (c:Checker) : Prop where
 function : ∃ f, c.function = some f
 level : 0 < c.symbols.level
 unique : c.symbols.Unique

namespace Checker.Collects

variable {items items':List ScopeItem} {locals locals':List Symbol} {c d e:Checker}

lemma inBody (h:c.Collects items locals d) (hc:c.InBody) : d.InBody := by
 obtain ⟨f,hf⟩:=hc.function
 obtain ⟨g,hg,-⟩:=h.function f hf
 exact ⟨⟨g,hg⟩,h.symbols.level_eq.symm ▸ hc.level,h.unique hc.unique⟩

lemma trans (h:c.Collects items locals d) (h':d.Collects items' locals' e) :
  c.Collects (items ++ items') (locals ++ locals') e where
 symbols := by
  rw [ScopeItem.own_append]
  exact h.symbols.trans Symbol.becoming_renewed (h.symbols.level_eq ▸ h'.symbols)
 unique hc := h'.unique (h.unique hc)
 ended := by
  rw [ScopeItem.ended_append]
  exact List.rel_append h.ended (h.symbols.level_eq ▸ h'.ended)
 distinct hc := (h.distinct hc).append (h.symbols.level_eq ▸ h'.distinct (h.unique hc))
 function f hf := by
  obtain ⟨g,hg,hname,hlocals,hlabels⟩:=h.function f hf
  obtain ⟨g',hg',hname',hlocals',hlabels'⟩:=h'.function g hg
  refine ⟨g',hg',hname'.trans hname,?_,?_⟩
  · rw [hlocals',hlocals,List.append_assoc]
  · rw [hlabels',hlabels,ScopeItem.labels_append,List.append_assoc]
 labels := by
  rw [ScopeItem.labels_append]
  exact List.forall_mem_append.mpr ⟨h.labels,h'.labels⟩
 diagnostics := by
  obtain ⟨new,hnew,hunused⟩:=h.diagnostics
  obtain ⟨new',hnew',hunused'⟩:=h'.diagnostics
  refine ⟨new ++ new',by rw [hnew',hnew,List.append_assoc],?_⟩
  rw [List.filter_append,hunused,hunused',h.warnUnused,unusedWarnings_append]
 functions := h'.functions.trans h.functions
 initialized := h'.initialized.trans h.initialized
 warnUnused := h'.warnUnused.trans h.warnUnused

lemma stamped {own:List Symbol} {level:Nat} (h:∀ x ∈ own, x.level = level) :
  own.map ({ · with level }) = own := by
 refine (List.map_congr_left fun x hx => ?_).trans (List.map_id own)
 rw [← h x hx]
 rfl

lemma of_symbols (own:List Symbol) (hlevel:∀ x ∈ own, x.level = c.symbols.level)
  (hcontext:c.SameContext d) (hgains:c.symbols.Gains Symbol.Renewed own d.symbols)
  (hunique:c.symbols.Unique → d.symbols.Unique) : c.Collects (own.map .symbol) [] d where
 symbols := by
  rw [ScopeItem.own_symbols,stamped hlevel]
  exact hgains
 unique := hunique
 ended := by
  rw [ScopeItem.ended_symbols]
  exact .nil
 distinct _ := ScopeItem.distinct_symbols own
 function f hf := by
  refine ⟨f,?_,rfl,(List.append_nil _).symm,?_⟩
  · rw [hcontext]
    exact hf
  · rw [ScopeItem.labels_symbols,List.append_nil]
 labels := by
  rw [ScopeItem.labels_symbols]
  exact List.forall_mem_nil _
 diagnostics := ⟨[],by rw [hcontext,List.append_nil],(unusedWarnings_nil _).symm⟩
 functions := by rw [hcontext]
 initialized := by rw [hcontext]
 warnUnused := by rw [hcontext]

lemma reread {own:List Symbol} (h:c.Collects (own.map .symbol) [] d) :
  c.Collects ((d.symbols.current.symbols.drop c.symbols.current.symbols.length).map .symbol)
   [] d := by
 have hsymbols:=h.symbols
 rw [ScopeItem.own_symbols] at hsymbols
 obtain ⟨hrenewed,hgains⟩:=hsymbols.added Symbol.becoming_renewed
 refine ⟨?_,h.unique,?_,fun _ => ScopeItem.distinct_symbols _,fun f hf => ?_,?_,
  h.diagnostics,h.functions,h.initialized,h.warnUnused⟩
 · rw [ScopeItem.own_symbols,stamped fun y hy => ?_]
   · exact hgains
   · obtain ⟨x,hx,hxy⟩:=exists_left_of_forall₂ hrenewed hy
     obtain ⟨z,_,rfl⟩:=List.mem_map.mp hx
     rw [hxy.same]
 · rw [ScopeItem.ended_symbols]
   exact .nil
 · have hfunction:=h.function f hf
   rw [ScopeItem.labels_symbols] at hfunction ⊢
   exact hfunction
 · rw [ScopeItem.labels_symbols]
   exact List.forall_mem_nil _

lemma refl (c:Checker) : c.Collects [] [] c :=
 of_symbols [] (List.forall_mem_nil _) rfl (.refl Symbol.becoming_renewed _) id

lemma declare {x:Symbol} {s:SymbolTable} (h:c.symbols.declare x = .ok s) :
  c.Collects [.symbol { x with level := c.symbols.level }] [] { c with symbols := s } :=
 of_symbols [_] (List.forall_mem_singleton.mpr rfl) rfl
  (.declare Symbol.becoming_renewed h) fun hc => hc.declare h

lemma note {g:FunctionContext → FunctionContext} (xs:List Symbol)
  (hg:∀ f, (g f).name = f.name ∧ (g f).locals = f.locals ∧ (g f).labels = f.labels ++ xs)
  (hxs:∀ x ∈ xs, x.kind = .label) :
  c.Collects (xs.map .label) [] { c with function := c.function.map g } where
 symbols := by
  rw [ScopeItem.own_labels]
  exact .refl Symbol.becoming_renewed _
 unique := id
 ended := by
  rw [ScopeItem.ended_labels]
  exact .nil
 distinct _ := ScopeItem.distinct_labels xs
 function f hf := by
  obtain ⟨hname,hlocals,hlabels⟩:=hg f
  refine ⟨g f,congrArg (Option.map g) hf,hname,hlocals.trans (List.append_nil _).symm,?_⟩
  rw [hlabels,ScopeItem.labels_labels]
 labels := by
  rw [ScopeItem.labels_labels]
  exact hxs
 diagnostics := ⟨[],(List.append_nil _).symm,(unusedWarnings_nil _).symm⟩
 functions := rfl
 initialized := rfl
 warnUnused := rfl

lemma tell (h:c.Collects items locals d) {x:Diagnostic} (hx:x.tellsUnused = false)
  (errors warnings:Nat) (last:Option String) :
  c.Collects items locals { d with
   diagnostics := d.diagnostics ++ [x]
   errorCount := errors
   warningCount := warnings
   lastMessage := last } where
 __ := h
 diagnostics := by
  obtain ⟨new,hnew,hunused⟩:=h.diagnostics
  refine ⟨new ++ [x],by rw [hnew,List.append_assoc],?_⟩
  rw [List.filter_append,hunused,List.filter_singleton,hx]
  exact List.append_nil _

lemma report (h:c.Collects items locals d) (f:Fault) :
  c.Collects items locals (d.report f) :=
 h.tell (Diagnostic.tellsUnused_ofFault f) _ _ _

lemma warnCase (h:c.Collects items locals d) {message:String} (hm:IsCaseWarning message)
  (span:Span) : c.Collects items locals (d.warn message span) :=
 h.tell (Diagnostic.tellsUnused_case hm span) _ _ _

lemma flow (h:c.Collects items locals d) (flow:Flow) (switches:List SwitchFrame) :
  c.Collects items locals { d with flow,switches } := { h with }

lemma of_flow {flow:Flow} {switches:List SwitchFrame}
  (h:{ c with flow,switches }.Collects items locals d) : c.Collects items locals d :=
 { h with }

lemma block (h:c.enterScope.Collects items locals d) :
  c.Collects [.block items] (locals ++ d.symbols.current.symbols) d.leaveScope := by
 cases houter : d.symbols.outer with
 | nil =>
  have hlevel:=h.symbols.level_eq
  rw [SymbolTable.level,houter] at hlevel
  cases hlevel
 | cons s ss =>
  obtain ⟨hown,hgains⟩:=h.symbols.exit houter
  obtain ⟨n,hn⟩:=leaveScope_eq houter
  rw [hn]
  refine ⟨hgains,fun hc => (h.unique hc.enter).exit houter,?_,fun hc => ?_,fun f hf => ?_,
   ?_,?_,h.functions,h.initialized,h.warnUnused⟩
  · rw [ScopeItem.ended,ScopeItem.endedIn,ScopeItem.ended,List.append_nil]
    exact List.rel_append h.ended hown
  · have hnames:=h.unique hc.enter _ List.mem_cons_self
    rw [Scope.names,map_eq_of_forall₂ (fun _ _ hxy => hxy.name) hown] at hnames
    exact ⟨⟨hnames,h.distinct hc.enter⟩,trivial⟩
  · obtain ⟨g,hg,hname,hlocals,hlabels⟩:=h.function f hf
    refine ⟨_,congrArg (Option.map _) hg,hname,?_,?_⟩
    · exact (congrArg (· ++ _) hlocals).trans (List.append_assoc _ _ _)
    · rw [ScopeItem.labels,ScopeItem.labelsIn,ScopeItem.labels,List.append_nil]
      exact hlabels
  · rw [ScopeItem.labels,ScopeItem.labelsIn,ScopeItem.labels,List.append_nil]
    exact h.labels
  · obtain ⟨new,hnew,hunused⟩:=h.diagnostics
    refine ⟨new ++ unusedWarnings c.warnUnused d.symbols.current.symbols,?_,?_⟩
    · rw [hnew,h.warnUnused,List.append_assoc]
      rfl
    · rw [List.filter_append,hunused,filter_unusedWarnings,unusedWarnings_append]
      rfl

end Checker.Collects

end CCheck
