import CCheck.Proofs.Scoping.Index

/-! # Blocks

What happens between entering a scope and leaving it again reaches the scopes around it only
by marks: on names that were used while no scope inside had declared them. -/

set_option autoImplicit false

namespace CCheck

/-- The operations enter and leave scopes in pairs, after `depth` scopes that are still to
be left. -/
def Balanced : Nat → List TableOp → Prop
 | depth, [] => depth = 0
 | depth, .enter :: ops => Balanced (depth + 1) ops
 | 0, .exit :: _ => False
 | depth + 1, .exit :: ops => Balanced depth ops
 | depth, .declare _ :: ops => Balanced depth ops
 | depth, .markUsed _ :: ops => Balanced depth ops
 | depth, .declareTag .. :: ops => Balanced depth ops

/-- The names that are marked while no scope of the block has declared them. What the scopes
have declared so far comes first, from the inside out. -/
def escaping : List (List String) → List TableOp → List String
 | _, [] => []
 | inner, .enter :: ops => escaping ([] :: inner) ops
 | inner, .exit :: ops => escaping inner.tail ops
 | inner, .declare x :: ops => escaping (inner.modifyHead (x.name :: ·)) ops
 | inner, .markUsed name :: ops =>
  if inner.any (·.contains name) then escaping inner ops else name :: escaping inner ops
 | inner, .declareTag .. :: ops => escaping inner ops

structure Scope.MarkedBy (names:List String) (s s':Scope) : Prop where
 tags : s'.tags = s.tags
 symbols : List.Forall₂ (fun x x' => x' = x ∨ x.name ∈ names ∧ x' = x.used) s.symbols s'.symbols

namespace SymbolTable

variable {t:SymbolTable} {inner ss:List Scope} {bs:List (List String)} {name:String}

/-! ### Marks -/

def markAll (names:List String) (ss:List Scope) : List Scope :=
 names.foldl (fun ss name => updateIn name Symbol.used ss) ss

lemma scopes_foldl_markUsed (t:SymbolTable) (names:List String) :
  (names.foldl markUsed t).scopes = markAll names t.scopes := by
 induction names generalizing t with
 | nil => rfl
 | cons name names ih =>
  rw [List.foldl_cons,ih,markAll,markAll,List.foldl_cons]
  exact congrArg (markAll names) (t.scopes_update name Symbol.used)

lemma markedBy_refl (ss:List Scope) (names:List String) :
  List.Forall₂ (Scope.MarkedBy names) ss ss := by
 refine List.forall₂_same.mpr fun s _ => ⟨rfl,?_⟩
 exact List.forall₂_same.mpr fun x _ => .inl rfl

lemma markedBy_used {names:List String} {x x':Symbol}
  (h:x' = x ∨ x.name ∈ names ∧ x' = x.used) (hname:name ∈ names) :
  (if x'.name == name then x'.used else x') = x ∨
   x.name ∈ names ∧ (if x'.name == name then x'.used else x') = x.used := by
 have hsame:x'.name = x.name ∧ x'.used = x.used := by
  obtain rfl | ⟨-,rfl⟩:=h
  · exact ⟨rfl,rfl⟩
  · exact ⟨rfl,rfl⟩
 by_cases heq : x'.name = name
 · rw [if_pos (beq_iff_eq.mpr heq)]
   exact .inr ⟨hsame.1 ▸ heq ▸ hname,hsame.2⟩
 · rw [if_neg (by simpa using heq)]
   exact h

lemma markedBy_updateIn {names:List String} {ss ss':List Scope}
  (h:List.Forall₂ (Scope.MarkedBy names) ss ss') (hname:name ∈ names) :
  List.Forall₂ (Scope.MarkedBy names) ss (updateIn name Symbol.used ss') := by
 induction h with
 | nil => exact .nil
 | @cons s s' ss ss' h tail ih =>
  unfold updateIn
  split
  · refine .cons ⟨h.tags,?_⟩ tail
    refine List.forall₂_map_right_iff.mpr (h.symbols.imp fun x x' hx => ?_)
    exact markedBy_used hx hname
  · exact .cons h ih

lemma markedBy_markAll (names:List String) (ss:List Scope) :
  List.Forall₂ (Scope.MarkedBy names) ss (markAll names ss) := by
 have hsome:∀ (some:List String) (ss':List Scope), (∀ name ∈ some, name ∈ names) →
   List.Forall₂ (Scope.MarkedBy names) ss ss' →
   List.Forall₂ (Scope.MarkedBy names) ss (markAll some ss') := by
  intro some
  induction some with
  | nil => exact fun ss' _ h => h
  | cons name some ih =>
   intro ss' hmem h
   refine ih _ (fun other hother => hmem other (List.mem_cons_of_mem name hother)) ?_
   exact markedBy_updateIn h (hmem name List.mem_cons_self)
 exact hsome names ss (fun _ h => h) (markedBy_refl ss names)

lemma length_markAll (names:List String) (ss:List Scope) :
  (markAll names ss).length = ss.length :=
 (markedBy_markAll names ss).length_eq.symm

lemma names_updateIn (name:String) (ss:List Scope) :
  (updateIn name Symbol.used ss).map Scope.names = ss.map Scope.names := by
 induction ss with
 | nil => rfl
 | cons s ss ih =>
  unfold updateIn
  split
  · rw [List.map_cons,List.map_cons,s.names_used]
  · rw [List.map_cons,List.map_cons,ih]

lemma updateIn_append (name:String) (g:Symbol → Symbol) (inner ss:List Scope) :
  updateIn name g (inner ++ ss) =
   if inner.any (·.names.contains name) then updateIn name g inner ++ ss
   else inner ++ updateIn name g ss := by
 induction inner with
 | nil => rfl
 | cons s inner ih =>
  have hfind:(s.find? name).isSome = s.names.contains name := by
   rw [Bool.eq_iff_iff,Scope.find?_isSome,List.contains_iff_mem]
  rw [List.cons_append,updateIn,updateIn,List.any_cons,hfind,ih]
  cases s.names.contains name with
  | true => rfl
  | false =>
   cases inner.any (·.names.contains name) <;> rfl

/-! ### The scopes of a block -/

def DeclareAll (inner:List Scope) (bs:List (List String)) : Prop :=
 List.Forall₂ (fun s b => ∀ name, name ∈ s.names ↔ name ∈ b) inner bs

def Inside (t:SymbolTable) (bs:List (List String)) (ss:List Scope) : Prop :=
 ∃ inner, t.scopes = inner ++ ss ∧ DeclareAll inner bs

lemma DeclareAll.any_contains (h:DeclareAll inner bs) (name:String) :
  inner.any (·.names.contains name) = bs.any (·.contains name) := by
 induction h with
 | nil => rfl
 | cons h _ ih =>
  have hhead:∀ name, name ∈ _ ↔ name ∈ _:=h
  rw [List.any_cons,List.any_cons,ih,Bool.eq_iff_iff,Bool.or_eq_true,Bool.or_eq_true,
   List.contains_iff_mem,List.contains_iff_mem,hhead]

lemma DeclareAll.updateIn (h:DeclareAll inner bs) (name:String) :
  DeclareAll (SymbolTable.updateIn name Symbol.used inner) bs := by
 induction h with
 | nil => exact List.Forall₂.nil
 | @cons s b inner bs h tail ih =>
  unfold SymbolTable.updateIn
  split
  · refine List.Forall₂.cons ?_ tail
    rw [s.names_used]
    exact h
  · exact List.Forall₂.cons h ih

namespace Inside

variable {b b':List String}

lemma innermost (h:t.Inside (b :: bs) ss) :
  (∀ name, name ∈ t.current.names ↔ name ∈ b) ∧
   ∃ inner, t.outer = inner ++ ss ∧ DeclareAll inner bs := by
 obtain ⟨_,hscopes,hnames⟩:=h
 cases hnames with
 | cons hcurrent houter =>
  obtain ⟨rfl,hss⟩:=List.cons.inj hscopes
  exact ⟨hcurrent,_,hss,houter⟩

lemma of_scopes {s:Scope} (hscopes:t.scopes = s :: (inner ++ ss))
  (hcurrent:∀ name, name ∈ s.names ↔ name ∈ b) (hnames:DeclareAll inner bs) :
  t.Inside (b :: bs) ss :=
 ⟨s :: inner,hscopes,List.Forall₂.cons hcurrent hnames⟩

lemma enter (h:t.Inside bs ss) : (t.apply .enter).Inside ([] :: bs) ss := by
 obtain ⟨inner,hscopes,hnames⟩:=h
 have hentered:(t.apply .enter).scopes = .empty :: (inner ++ ss) := by
  rw [t.apply_enter,hscopes]
 exact of_scopes hentered (fun _ => Iff.rfl) hnames

lemma exit (h:t.Inside (b :: b' :: bs) ss) : (t.apply .exit).Inside (b' :: bs) ss := by
 obtain ⟨-,inner,houter,hnames⟩:=h.innermost
 have hne:t.outer ≠ [] := by
  cases hnames
  rw [houter,List.cons_append]
  exact List.cons_ne_nil _ _
 exact ⟨inner,by rw [t.apply_exit,if_neg hne,houter],hnames⟩

lemma declare (h:t.Inside (b :: bs) ss) (x:Symbol) :
  (t.apply (.declare x)).Inside ((x.name :: b) :: bs) ss := by
 obtain ⟨hcurrent,inner,houter,hnames⟩:=h.innermost
 have hscopes:=t.apply_declare x
 rw [houter] at hscopes
 refine of_scopes hscopes (fun name => ?_) hnames
 rw [List.mem_cons,← hcurrent]
 by_cases hbound : (t.current.find? x.name).isSome = true
 · rw [if_pos hbound]
   have hmem:=Scope.find?_isSome.mp hbound
   constructor
   · exact .inr
   · rintro (rfl | hname)
     · exact hmem
     · exact hname
 · rw [if_neg hbound,Scope.names_concat,List.mem_append,List.mem_singleton,or_comm]

lemma declareTag (h:t.Inside (b :: bs) ss) (name:String) (tag:Tag) (span:Span) :
  (t.apply (.declareTag name tag span)).Inside (b :: bs) ss := by
 obtain ⟨hcurrent,inner,houter,hnames⟩:=h.innermost
 have hscopes:=t.apply_declareTag name tag span
 rw [houter] at hscopes
 refine of_scopes hscopes ?_ hnames
 split
 · exact hcurrent
 · exact hcurrent

lemma markUsed (h:t.Inside bs ss) (name:String) :
  (t.apply (.markUsed name)).Inside bs
   (if bs.any (·.contains name) then ss else SymbolTable.updateIn name Symbol.used ss) := by
 obtain ⟨inner,hscopes,hnames⟩:=h
 unfold Inside
 rw [t.apply_markUsed,hscopes,updateIn_append,hnames.any_contains]
 by_cases hbound : bs.any (·.contains name) = true
 · rw [if_pos hbound,if_pos hbound]
   exact ⟨_,rfl,hnames.updateIn name⟩
 · rw [if_neg hbound,if_neg hbound]
   exact ⟨inner,rfl,hnames⟩

lemma run {ops:List TableOp} {depth:Nat} (h:t.Inside bs ss)
  (hdepth:bs.length = depth + 1) (hops:Balanced depth ops) :
  ∃ b, (t.run ops).Inside [b] (markAll (escaping bs ops) ss) := by
 -- the block's own scope and `depth` others are open, each with a list of `bs`
 induction ops generalizing t bs ss depth with
 | nil =>
  obtain rfl : depth = 0:=hops
  obtain ⟨b,rfl⟩:=List.length_eq_one_iff.mp hdepth
  exact ⟨b,h⟩
 | cons op ops ih =>
  obtain ⟨b,bs,rfl⟩:=List.exists_cons_of_length_eq_add_one hdepth
  cases op with
  | enter => exact ih h.enter (congrArg Nat.succ hdepth) hops
  | exit =>
   cases depth with
   | zero => exact absurd hops id
   | succ depth =>
    have hlength:bs.length = depth + 1:=Nat.succ.inj hdepth
    obtain ⟨b',bs,rfl⟩:=List.exists_cons_of_length_eq_add_one hlength
    exact ih h.exit hlength hops
  | declare x => exact ih (h.declare x) hdepth hops
  | declareTag name tag span => exact ih (h.declareTag name tag span) hdepth hops
  | markUsed name =>
   obtain ⟨b',hrun⟩:=ih (h.markUsed name) hdepth hops
   refine ⟨b',?_⟩
   unfold escaping
   split
   · rename_i hbound
     rwa [if_pos hbound] at hrun
   · rename_i hbound
     rwa [if_neg hbound] at hrun

end Inside

lemma run_block (t:SymbolTable) {ops:List TableOp} (hops:Balanced 0 ops) :
  t.run (.enter :: ops ++ [.exit]) = (escaping [[]] ops).foldl SymbolTable.markUsed t := by
 have hstart:(t.apply .enter).Inside [[]] t.scopes:=
  ⟨[.empty],rfl,List.Forall₂.cons (fun _ => Iff.rfl) .nil⟩
 obtain ⟨b,hrun⟩:=hstart.run rfl hops
 obtain ⟨-,inner,houter,hnames⟩:=hrun.innermost
 cases hnames
 have hne:((t.apply .enter).run ops).outer ≠ [] := by
  intro hnil
  have hlength:=congrArg List.length (houter.symm.trans hnil)
  rw [List.nil_append,length_markAll] at hlength
  cases hlength
 apply eq_of_scopes
 rw [scopes_foldl_markUsed]
 calc (t.run (.enter :: ops ++ [.exit])).scopes
     = (((t.apply .enter).run ops).apply .exit).scopes := by
       unfold run
       rw [List.foldl_append,List.foldl_cons,List.foldl_cons,List.foldl_nil]
   _ = markAll (escaping [[]] ops) t.scopes := by
       rw [apply_exit,if_neg hne,houter,List.nil_append]

lemma names_globalScope (t:SymbolTable) :
  (t.scopes.map Scope.names).getLast? = some t.globalScope.names := by
 have hlast:t.scopes.getLast? = some t.globalScope:=List.getLast?_cons
 rw [List.getLast?_map,hlast,Option.map_some]

lemma globalScope_of_current {t':SymbolTable} {s:Scope} (h:t'.scopes = s :: t.outer)
  (hs:t.current.names <+: s.names) : t.globalScope.names <+: t'.globalScope.names := by
 obtain ⟨rfl,houter⟩:=List.cons.inj h
 unfold globalScope
 rw [houter]
 cases t.outer.getLast? with
 | none => exact hs
 | some global => exact List.prefix_refl _

lemma globalScope_apply (t:SymbolTable) (op:TableOp) :
  t.globalScope.names <+: (t.apply op).globalScope.names := by
 cases op with
 | enter =>
  have hsame:(t.apply .enter).globalScope = t.globalScope:=
   congrArg (Option.getD · _) List.getLast?_cons
  rw [hsame]
 | exit =>
  obtain ⟨current,outer⟩:=t
  cases outer with
  | nil => exact List.prefix_refl _
  | cons s ss =>
   have hsame:SymbolTable.globalScope ⟨current,s :: ss⟩ = SymbolTable.globalScope ⟨s,ss⟩:=
    congrArg (Option.getD · _) List.getLast?_cons
   rw [hsame]
   exact List.prefix_refl _
 | declare x =>
  refine globalScope_of_current (t.apply_declare x) ?_
  split
  · exact List.prefix_refl _
  · rw [Scope.names_concat]
    exact List.prefix_append _ _
 | markUsed name =>
  have hnames:=(t.apply (.markUsed name)).names_globalScope
  rw [apply_markUsed,names_updateIn,names_globalScope] at hnames
  rw [Option.some.inj hnames]
 | declareTag name tag span =>
  refine globalScope_of_current (t.apply_declareTag name tag span) ?_
  split
  · exact List.prefix_refl _
  · exact List.prefix_refl _

lemma globalScope_run (t:SymbolTable) (ops:List TableOp) :
  t.globalScope.names <+: (t.run ops).globalScope.names := by
 induction ops generalizing t with
 | nil => exact List.prefix_refl _
 | cons op ops ih => exact (t.globalScope_apply op).trans (ih _)

end SymbolTable

/-- A table does what a stack of finite maps does. -/
structure SymbolTable.Refines (t:SymbolTable) (s:ScopeStack) : Prop where
 lookup : ∀ name, t.lookup? name = s.lookup? name
 tag : ∀ name, t.tag? name = s.tag? name
 declare : ∀ x, t.declare x = .error ⟨.redeclaration x.name,x.span⟩ ↔ s.Binds x.name
 declare_ok : ∀ x, (∃ t', t.declare x = .ok t') ↔ ¬s.Binds x.name
 declareTag : ∀ name tag span,
  t.declareTag name tag span = .error ⟨.redefinition name,span⟩ ↔ s.BindsTag name
 declareTag_ok : ∀ name tag span,
  (∃ t', t.declareTag name tag span = .ok t') ↔ ¬s.BindsTag name
 scopes : HoldAll t.scopes s.frames
 exit : t.exit? = none ↔ t.level = 0
 globals : ∀ ops, t.globalScope.names <+: (t.run ops).globalScope.names
 block : ∀ ops, Balanced 0 ops →
  t.run (.enter :: ops ++ [.exit]) = (escaping [[]] ops).foldl SymbolTable.markUsed t ∧
   List.Forall₂ (Scope.MarkedBy (escaping [[]] ops)) t.scopes
    (t.run (.enter :: ops ++ [.exit])).scopes

namespace HoldAll

variable {t:SymbolTable} {s:ScopeStack}

lemma binds_iff (h:HoldAll t.scopes s.frames) (name:String) :
  s.Binds name ↔ (t.current.find? name).isSome := by
 obtain ⟨frames⟩:=s
 cases h with
 | cons hcurrent _ => simp [ScopeStack.Binds,hcurrent.mem_names]

lemma bindsTag_iff (h:HoldAll t.scopes s.frames) (name:String) :
  s.BindsTag name ↔ (t.current.tag? name).isSome := by
 obtain ⟨frames⟩:=s
 cases h with
 | cons hcurrent _ => simp [ScopeStack.BindsTag,hcurrent.mem_tags]

lemma guarded_iff {p:Prop} [Decidable p] (f:Fault) (t:SymbolTable) :
  ((if p then Except.error f else .ok t) = .error f ↔ p) ∧
   ((∃ t', (if p then Except.error f else .ok t) = .ok t') ↔ ¬p) := by
 by_cases h : p
 · simp [h]
 · simp [h]

lemma refines (h:HoldAll t.scopes s.frames) : t.Refines s where
 lookup name := h.find? name
 tag name := h.tag? name
 declare x := by
  rw [t.declare_eq,h.binds_iff]
  exact (guarded_iff _ _).1
 declare_ok x := by
  rw [t.declare_eq,h.binds_iff]
  exact (guarded_iff _ _).2
 declareTag name tag span := by
  rw [t.declareTag_eq,h.bindsTag_iff]
  exact (guarded_iff _ _).1
 declareTag_ok name tag span := by
  rw [t.declareTag_eq,h.bindsTag_iff]
  exact (guarded_iff _ _).2
 scopes := h
 exit := by
  obtain ⟨current,outer⟩:=t
  cases outer <;> simp [SymbolTable.exit?,SymbolTable.level]
 globals := t.globalScope_run
 block ops hops := by
  have hblock:=t.run_block hops
  refine ⟨hblock,?_⟩
  rw [hblock,SymbolTable.scopes_foldl_markUsed]
  exact SymbolTable.markedBy_markAll _ _

end HoldAll

/-- Whatever operations come, a new table does what a new stack of finite maps does; and a new table
with indexes does what it does, where every index leads to the symbols of its scope. -/
theorem SymbolTable.run_refines (ops:List TableOp) :
  (IndexedTable.start.run ops).Implements (SymbolTable.start.run ops) ∧
   (SymbolTable.start.run ops).Refines (ScopeStack.start.run ops) :=
 ⟨IndexedTable.implements_start ops,(holdAll_start ops).refines⟩

end CCheck
