import CCheck.Scope
import Mathlib.Data.Finmap

/-! # Symbol tables as stacks of finite maps

Every sequence of operations does to a symbol table what it does to a stack of finite maps,
one for each scope that has been entered and not yet left. -/

set_option autoImplicit false

namespace CCheck

def Symbol.used (x:Symbol) : Symbol := { x with isUsed := true }

lemma Symbol.used_name (x:Symbol) : x.used.name = x.name := rfl

inductive TableOp where
 | enter
 | exit
 | declare (x:Symbol)
 | markUsed (name:String)
 | declareTag (name:String) (tag:Tag) (span:Span)

namespace SymbolTable

def apply (t:SymbolTable) : TableOp → SymbolTable
 | .enter => t.enter
 | .exit => (t.exit?.map (·.2)).getD t
 | .declare x => (t.declare x).toOption.getD t
 | .markUsed name => t.markUsed name
 | .declareTag name tag span => (t.declareTag name tag span).toOption.getD t

def run (t:SymbolTable) (ops:List TableOp) : SymbolTable := ops.foldl apply t

end SymbolTable

/-! ### Stacks of finite maps -/

structure Frame where
 names : Finmap fun _ : String => Symbol
 order : List String
 tags : Finmap fun _ : String => Tag

namespace Frame

def empty : Frame := ⟨∅,[],∅⟩

def declare (f:Frame) (x:Symbol) : Frame :=
 if x.name ∈ f.names then f
 else { f with names := f.names.insert x.name x,order := f.order ++ [x.name] }

def declareTag (f:Frame) (name:String) (tag:Tag) : Frame :=
 if name ∈ f.tags then f else { f with tags := f.tags.insert name tag }

def mark (f:Frame) (name:String) (x:Symbol) : Frame :=
 { f with names := f.names.insert name x.used }

end Frame

structure ScopeStack where
 frames : List Frame

namespace ScopeStack

def start : ScopeStack := ⟨[.empty]⟩

def lookup? (s:ScopeStack) (name:String) : Option Symbol :=
 s.frames.findSome? (·.names.lookup name)

def tag? (s:ScopeStack) (name:String) : Option Tag :=
 s.frames.findSome? (·.tags.lookup name)

def Binds (s:ScopeStack) (name:String) : Prop := ∃ f ∈ s.frames.head?, name ∈ f.names

def BindsTag (s:ScopeStack) (name:String) : Prop := ∃ f ∈ s.frames.head?, name ∈ f.tags

def mark (name:String) : List Frame → List Frame
 | [] => []
 | f :: fs =>
  match f.names.lookup name with
  | some x => f.mark name x :: fs
  | none => f :: mark name fs

def apply (s:ScopeStack) (op:TableOp) : ScopeStack :=
 match op, s.frames with
 | .enter, fs => ⟨.empty :: fs⟩
 | .exit, _ :: f :: fs => ⟨f :: fs⟩
 | .declare x, f :: fs => ⟨f.declare { x with level := fs.length } :: fs⟩
 | .markUsed name, fs => ⟨mark name fs⟩
 | .declareTag name tag _, f :: fs => ⟨f.declareTag name tag :: fs⟩
 | _, _ => s

def run (s:ScopeStack) (ops:List TableOp) : ScopeStack := ops.foldl apply s

end ScopeStack

/-! ### One scope -/

def Scope.names (s:Scope) : List String := s.symbols.map (·.name)

/-- A scope with `level` others around it holds what a frame does. -/
structure Scope.Holds (s:Scope) (level:Nat) (f:Frame) : Prop where
 names : ∀ name, s.find? name = f.names.lookup name
 tags : ∀ name, s.tag? name = f.tags.lookup name
 order : s.names = f.order
 nodup : s.names.Nodup
 level : ∀ x ∈ s.symbols, x.level = level

namespace Scope

variable {s:Scope} {f:Frame} {level:Nat} {name:String}

lemma holds_empty (level:Nat) : Scope.empty.Holds level .empty where
 names _ := rfl
 tags _ := rfl
 order := rfl
 nodup := List.Pairwise.nil
 level x hx := by cases hx

lemma find?_isSome : (s.find? name).isSome ↔ name ∈ s.names := by
 simp [find?,names]

lemma name_of_find? {x:Symbol} (h:s.find? name = some x) : x.name = name := by
 simpa using List.find?_some h

lemma find?_update (s:Scope) (name other:String) {g:Symbol → Symbol}
  (hg:∀ x, (g x).name = x.name) :
  (s.update name g).find? other =
   (s.find? other).map fun x => if x.name == name then g x else x := by
 have hnames:((fun x:Symbol => x.name == other) ∘ fun x => if x.name == name then g x else x) =
   fun x => x.name == other := by
  funext x
  rw [Function.comp_apply,apply_ite Symbol.name,hg,ite_self]
 unfold find? update
 rw [List.find?_map,hnames]

lemma names_concat (s:Scope) (x:Symbol) :
  names { s with symbols := s.symbols ++ [x] } = s.names ++ [x.name] :=
 List.map_append

lemma names_used (s:Scope) (name:String) : (s.update name Symbol.used).names = s.names := by
 unfold update names
 rw [List.map_map]
 refine List.map_congr_left fun y _ => ?_
 rw [Function.comp_apply,apply_ite Symbol.name,Symbol.used_name,ite_self]

namespace Holds

lemma mem_names (h:s.Holds level f) : name ∈ f.names ↔ (s.find? name).isSome := by
 rw [h.names,Finmap.lookup_isSome]

lemma mem_tags (h:s.Holds level f) : name ∈ f.tags ↔ (s.tag? name).isSome := by
 rw [h.tags,Finmap.lookup_isSome]

lemma declare (h:s.Holds level f) {x:Symbol} (hx:s.find? x.name = none)
  (hlevel:x.level = level) :
  Holds { s with symbols := s.symbols ++ [x] } level (f.declare x) := by
 have hnew:x.name ∉ f.names := by
  rw [h.mem_names,hx]
  simp
 unfold Frame.declare
 rw [if_neg hnew]
 refine ⟨?_,h.tags,?_,?_,?_⟩
 · intro name
   have hfind:Scope.find? { s with symbols := s.symbols ++ [x] } name =
     (s.find? name).or ([x].find? (·.name == name)) := List.find?_append
   rw [hfind]
   by_cases hname : name = x.name
   · rw [hname,hx,Finmap.lookup_insert]
     simp
   · have hother:(x.name == name) = false:=beq_false_of_ne (Ne.symm hname)
     rw [Finmap.lookup_insert_of_ne _ hname,← h.names]
     simp [hother]
 · rw [names_concat,h.order]
 · rw [names_concat]
   refine List.Nodup.append h.nodup (List.nodup_singleton _) ?_
   intro name hname hlast
   rw [List.mem_singleton.mp hlast,← find?_isSome,hx] at hname
   cases hname
 · intro y hy
   obtain hy | hy:=List.mem_append.mp hy
   · exact h.level y hy
   · rw [List.mem_singleton.mp hy]
     exact hlevel

lemma declareTag (h:s.Holds level f) {tag:Tag} (hname:s.tag? name = none) :
  Holds { s with tags := (name,tag) :: s.tags } level (f.declareTag name tag) := by
 have hnew:name ∉ f.tags := by
  rw [h.mem_tags,hname]
  simp
 unfold Frame.declareTag
 rw [if_neg hnew]
 refine ⟨h.names,?_,h.order,h.nodup,h.level⟩
 intro other
 have htag:Scope.tag? { s with tags := (name,tag) :: s.tags } other =
   if other == name then some tag else s.tag? other := by
  unfold Scope.tag?
  rw [List.lookup_cons]
  cases other == name <;> rfl
 rw [htag]
 by_cases hother : other = name
 · rw [hother,Finmap.lookup_insert]
   simp
 · rw [Finmap.lookup_insert_of_ne _ hother,← h.tags,beq_false_of_ne hother]
   rfl

lemma mark (h:s.Holds level f) {x:Symbol} (hx:s.find? name = some x) :
  (s.update name Symbol.used).Holds level (f.mark name x) := by
 have hnames:=s.names_used name
 refine ⟨?_,h.tags,hnames.trans h.order,hnames ▸ h.nodup,?_⟩
 · intro other
   rw [find?_update s name other Symbol.used_name]
   unfold Frame.mark
   by_cases hother : other = name
   · rw [hother,hx,Finmap.lookup_insert]
     simp [name_of_find? hx]
   · rw [Finmap.lookup_insert_of_ne _ hother,← h.names]
     cases hfind : s.find? other with
     | none => rfl
     | some y =>
      rw [Option.map_some,name_of_find? hfind,beq_false_of_ne hother]
      rfl
 · intro y hy
   obtain ⟨z,hz,rfl⟩:=List.mem_map.mp hy
   rw [apply_ite Symbol.level]
   exact (ite_self _).trans (h.level z hz)

end Holds

end Scope

/-! ### Stacks of scopes -/

inductive HoldAll : List Scope → List Frame → Prop where
 | nil : HoldAll [] []
 | cons {s:Scope} {ss:List Scope} {f:Frame} {fs:List Frame} (h:s.Holds ss.length f)
    (tail:HoldAll ss fs) : HoldAll (s :: ss) (f :: fs)

namespace HoldAll

variable {ss:List Scope} {fs:List Frame}

lemma length_eq (h:HoldAll ss fs) : ss.length = fs.length := by
 induction h with
 | nil => rfl
 | cons _ _ ih => rw [List.length_cons,List.length_cons,ih]

lemma find? (h:HoldAll ss fs) (name:String) :
  ss.findSome? (·.find? name) = fs.findSome? (·.names.lookup name) := by
 induction h with
 | nil => rfl
 | cons h _ ih => rw [List.findSome?_cons,List.findSome?_cons,h.names,ih]

lemma tag? (h:HoldAll ss fs) (name:String) :
  ss.findSome? (·.tag? name) = fs.findSome? (·.tags.lookup name) := by
 induction h with
 | nil => rfl
 | cons h _ ih => rw [List.findSome?_cons,List.findSome?_cons,h.tags,ih]

lemma length_updateIn (name:String) (g:Symbol → Symbol) (ss:List Scope) :
  (SymbolTable.updateIn name g ss).length = ss.length := by
 induction ss with
 | nil => rfl
 | cons s ss ih =>
  unfold SymbolTable.updateIn
  split
  · rfl
  · rw [List.length_cons,List.length_cons,ih]

lemma mark (h:HoldAll ss fs) (name:String) :
  HoldAll (SymbolTable.updateIn name Symbol.used ss) (ScopeStack.mark name fs) := by
 induction h with
 | nil => exact .nil
 | @cons s ss f fs h tail ih =>
  unfold SymbolTable.updateIn ScopeStack.mark
  cases hfind : s.find? name with
  | none =>
   rw [← h.names,hfind]
   refine .cons ?_ ih
   rw [length_updateIn]
   exact h
  | some x =>
   rw [← h.names,hfind]
   exact .cons (h.mark hfind) tail

end HoldAll

namespace SymbolTable

variable {t:SymbolTable} {fs:List Frame}

lemma eq_of_scopes {t t':SymbolTable} (h:t.scopes = t'.scopes) : t = t' := by
 obtain ⟨hcurrent,houter⟩:=List.cons.inj h
 cases t
 cases t'
 congr

lemma scopes_update (t:SymbolTable) (name:String) (g:Symbol → Symbol) :
  (t.update name g).scopes = updateIn name g t.scopes := by
 unfold update scopes lookupLocal?
 by_cases h : (t.current.find? name).isSome = true
 · rw [if_pos h,updateIn,if_pos h]
   rfl
 · rw [if_neg h,updateIn,if_neg h]

lemma declare_eq (t:SymbolTable) (x:Symbol) :
  t.declare x =
   if (t.current.find? x.name).isSome then .error ⟨.redeclaration x.name,x.span⟩
   else .ok { t with
    current := { t.current with
     symbols := t.current.symbols ++ [{ x with level := t.level }] } } := by
 unfold declare lookupLocal?
 cases t.current.find? x.name <;> rfl

lemma declareTag_eq (t:SymbolTable) (name:String) (tag:Tag) (span:Span) :
  t.declareTag name tag span =
   if (t.current.tag? name).isSome then .error ⟨.redefinition name,span⟩
   else .ok { t with
    current := { t.current with tags := (name,tag) :: t.current.tags } } := by
 unfold declareTag tagLocal?
 cases t.current.tag? name <;> rfl

lemma apply_enter (t:SymbolTable) : (t.apply .enter).scopes = .empty :: t.scopes := rfl

lemma apply_exit (t:SymbolTable) :
  (t.apply .exit).scopes = if t.outer = [] then t.scopes else t.outer := by
 obtain ⟨current,outer⟩:=t
 cases outer <;> rfl

lemma apply_markUsed (t:SymbolTable) (name:String) :
  (t.apply (.markUsed name)).scopes = updateIn name Symbol.used t.scopes :=
 t.scopes_update name Symbol.used

lemma apply_declare (t:SymbolTable) (x:Symbol) :
  (t.apply (.declare x)).scopes =
   (if (t.current.find? x.name).isSome then t.current
    else { t.current with symbols := t.current.symbols ++ [{ x with level := t.level }] })
   :: t.outer := by
 show ((t.declare x).toOption.getD t).scopes = _
 rw [declare_eq]
 by_cases h : (t.current.find? x.name).isSome = true
 · rw [if_pos h,if_pos h]
   rfl
 · rw [if_neg h,if_neg h]
   rfl

lemma apply_declareTag (t:SymbolTable) (name:String) (tag:Tag) (span:Span) :
  (t.apply (.declareTag name tag span)).scopes =
   (if (t.current.tag? name).isSome then t.current
    else { t.current with tags := (name,tag) :: t.current.tags }) :: t.outer := by
 show ((t.declareTag name tag span).toOption.getD t).scopes = _
 rw [declareTag_eq]
 by_cases h : (t.current.tag? name).isSome = true
 · rw [if_pos h,if_pos h]
   rfl
 · rw [if_neg h,if_neg h]
   rfl

end SymbolTable

lemma HoldAll.apply {t:SymbolTable} {s:ScopeStack} (h:HoldAll t.scopes s.frames)
  (op:TableOp) : HoldAll (t.apply op).scopes (s.apply op).frames := by
 obtain ⟨frames⟩:=s
 cases h with
 | @cons _ _ f fs hcurrent houter =>
  cases op with
  | enter => exact .cons (Scope.holds_empty _) (.cons hcurrent houter)
  | exit =>
   obtain ⟨current,outer⟩:=t
   dsimp only at hcurrent houter
   cases houter with
   | nil => exact .cons hcurrent .nil
   | cons h tail => exact .cons h tail
  | declare x =>
   rw [t.apply_declare]
   refine .cons ?_ houter
   by_cases hbound : (t.current.find? x.name).isSome = true
   · have hmem:({ x with level := fs.length } : Symbol).name ∈ f.names:=
      hcurrent.mem_names.mpr hbound
     unfold Frame.declare
     rw [if_pos hbound,if_pos hmem]
     exact hcurrent
   · have hfind:t.current.find? x.name = none := by simpa using hbound
     rw [if_neg hbound,← houter.length_eq]
     exact hcurrent.declare hfind rfl
  | markUsed name =>
   rw [t.apply_markUsed]
   exact (HoldAll.cons hcurrent houter).mark name
  | declareTag name tag span =>
   rw [t.apply_declareTag]
   refine .cons ?_ houter
   by_cases hbound : (t.current.tag? name).isSome = true
   · unfold Frame.declareTag
     rw [if_pos hbound,if_pos (hcurrent.mem_tags.mpr hbound)]
     exact hcurrent
   · have htag:t.current.tag? name = none := by simpa using hbound
     rw [if_neg hbound]
     exact hcurrent.declareTag htag

lemma HoldAll.run {t:SymbolTable} {s:ScopeStack} (h:HoldAll t.scopes s.frames)
  (ops:List TableOp) : HoldAll (t.run ops).scopes (s.run ops).frames := by
 induction ops generalizing t s with
 | nil => exact h
 | cons op ops ih => exact ih (h.apply op)

lemma holdAll_start (ops:List TableOp) :
  HoldAll (SymbolTable.start.run ops).scopes (ScopeStack.start.run ops).frames :=
 HoldAll.run (.cons (Scope.holds_empty 0) .nil) ops

end CCheck
