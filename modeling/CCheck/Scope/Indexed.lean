import CCheck.Scope

/-! # Scopes with an index

How a scope is stored: its symbols in an array, and beside them an index from their names to
their positions, through which every symbol is found and changed. -/

set_option autoImplicit false

namespace CCheck

structure IndexedScope where
 symbols : Array Symbol
 index : List (String × Nat)
 tags : List (String × Tag)
deriving DecidableEq

namespace IndexedScope

def empty : IndexedScope := ⟨#[],[],[]⟩

def find? (s:IndexedScope) (name:String) : Option Symbol :=
 match s.index.lookup name with
 | some i => s.symbols[i]?
 | none => none

def modify? (s:IndexedScope) (name:String) (f:Symbol → Symbol) : Option IndexedScope :=
 match s.index.lookup name with
 | some i => some { s with symbols := s.symbols.modify i f }
 | none => none

def push (s:IndexedScope) (x:Symbol) : IndexedScope :=
 { s with symbols := s.symbols.push x,index := (x.name,s.symbols.size) :: s.index }

def tag? (s:IndexedScope) (name:String) : Option Tag := s.tags.lookup name

def pushTag (s:IndexedScope) (name:String) (tag:Tag) : IndexedScope :=
 { s with tags := (name,tag) :: s.tags }

end IndexedScope

structure IndexedTable where
 current : IndexedScope
 outer : List IndexedScope
deriving DecidableEq

namespace IndexedTable

def start : IndexedTable := ⟨.empty,[]⟩

def level (t:IndexedTable) : Nat := t.outer.length

def scopes (t:IndexedTable) : List IndexedScope := t.current :: t.outer

def globals (t:IndexedTable) : Array Symbol := (t.outer.getLast?.getD t.current).symbols

def enter (t:IndexedTable) : IndexedTable := ⟨.empty,t.current :: t.outer⟩

def exit? (t:IndexedTable) : Option (IndexedScope × IndexedTable) :=
 match t.outer with
 | [] => none
 | s :: ss => some (t.current,⟨s,ss⟩)

def lookupLocal? (t:IndexedTable) (name:String) : Option Symbol := t.current.find? name

def lookup? (t:IndexedTable) (name:String) : Option Symbol := t.scopes.findSome? (·.find? name)

def declare (t:IndexedTable) (x:Symbol) : Except Fault IndexedTable :=
 match t.lookupLocal? x.name with
 | some _ => .error ⟨.redeclaration x.name,x.span⟩
 | none => .ok { t with current := t.current.push { x with level := t.level } }

def modifyLocal? (t:IndexedTable) (name:String) (f:Symbol → Symbol) : Option IndexedTable :=
 (t.current.modify? name f).map fun s => { t with current := s }

def modifyIn? (name:String) (f:Symbol → Symbol) : List IndexedScope → Option (List IndexedScope)
 | [] => none
 | s :: ss =>
  match s.modify? name f with
  | some s => some (s :: ss)
  | none => (modifyIn? name f ss).map (s :: ·)

/-- Changes the nearest symbol of the name, if there is one. -/
def modify? (t:IndexedTable) (name:String) (f:Symbol → Symbol) : Option IndexedTable :=
 match t.modifyLocal? name f with
 | some t => some t
 | none => (modifyIn? name f t.outer).map fun ss => { t with outer := ss }

def markUsed? (t:IndexedTable) (name:String) : Option IndexedTable :=
 t.modify? name fun x => { x with isUsed := true }

def tagLocal? (t:IndexedTable) (name:String) : Option Tag := t.current.tag? name

def tag? (t:IndexedTable) (name:String) : Option Tag := t.scopes.findSome? (·.tag? name)

def declareTag (t:IndexedTable) (name:String) (tag:Tag) (span:Span) :
  Except Fault IndexedTable :=
 match t.tagLocal? name with
 | some _ => .error ⟨.redefinition name,span⟩
 | none => .ok { t with current := t.current.pushTag name tag }

end IndexedTable

end CCheck
