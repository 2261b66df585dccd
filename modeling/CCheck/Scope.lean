import CCheck.Fault
import CCheck.Tree

/-! # Scopes

Symbols live in a stack of scopes whose outermost one, the global scope, is never left.
A scope keeps its symbols in the order of their declarations, no two of one name, and
apart from them the tags of records and enumerations. -/

set_option autoImplicit false

namespace CCheck

inductive SymbolKind where
 | var
 | func
 | type
 | constant (value:Int64)
 | label
deriving DecidableEq, Repr

structure Symbol where
 name : String
 kind : SymbolKind
 type : CType
 storage : Option StorageClass
 level : Nat
 isDefined : Bool
 isUsed : Bool
 isParam : Bool
 span : Span
deriving DecidableEq

def Symbol.fresh (name:Ident) (kind:SymbolKind) (type:CType)
  (storage:Option StorageClass) (isDefined:Bool) : Symbol :=
 ⟨name.name,kind,type,storage,0,isDefined,false,false,name.span⟩

def Symbol.param (name:Ident) (type:CType) : Symbol :=
 { Symbol.fresh name .var type none true with isParam := true }

inductive Tag where
 | record (id:Nat)
 | enum
deriving DecidableEq, Repr

structure Scope where
 symbols : List Symbol
 tags : List (String × Tag)
deriving DecidableEq

namespace Scope

def empty : Scope := ⟨[],[]⟩

instance : Inhabited Scope := ⟨empty⟩

def find? (s:Scope) (name:String) : Option Symbol := s.symbols.find? (·.name == name)

def tag? (s:Scope) (name:String) : Option Tag := s.tags.lookup name

def update (s:Scope) (name:String) (f:Symbol → Symbol) : Scope :=
 { s with symbols := s.symbols.map fun x => if x.name == name then f x else x }

end Scope

structure SymbolTable where
 current : Scope
 outer : List Scope
deriving DecidableEq

namespace SymbolTable

def start : SymbolTable := ⟨.empty,[]⟩

instance : Inhabited SymbolTable := ⟨start⟩

def level (t:SymbolTable) : Nat := t.outer.length

def scopes (t:SymbolTable) : List Scope := t.current :: t.outer

def globalScope (t:SymbolTable) : Scope := t.outer.getLast?.getD t.current

def globals (t:SymbolTable) : List Symbol := t.globalScope.symbols

def enter (t:SymbolTable) : SymbolTable := ⟨.empty,t.current :: t.outer⟩

def exit? (t:SymbolTable) : Option (Scope × SymbolTable) :=
 match t.outer with
 | [] => none
 | s :: ss => some (t.current,⟨s,ss⟩)

def lookupLocal? (t:SymbolTable) (name:String) : Option Symbol := t.current.find? name

def lookup? (t:SymbolTable) (name:String) : Option Symbol :=
 t.scopes.findSome? (·.find? name)

def declare (t:SymbolTable) (x:Symbol) : Except Fault SymbolTable :=
 match t.lookupLocal? x.name with
 | some _ => .error ⟨.redeclaration x.name,x.span⟩
 | none =>
  let symbols := t.current.symbols ++ [{ x with level := t.level }]
  .ok { t with current := { t.current with symbols } }

def updateLocal (t:SymbolTable) (name:String) (f:Symbol → Symbol) : SymbolTable :=
 { t with current := t.current.update name f }

def updateIn (name:String) (f:Symbol → Symbol) : List Scope → List Scope
 | [] => []
 | s :: ss => if (s.find? name).isSome then s.update name f :: ss else s :: updateIn name f ss

def update (t:SymbolTable) (name:String) (f:Symbol → Symbol) : SymbolTable :=
 if (t.lookupLocal? name).isSome then t.updateLocal name f
 else { t with outer := updateIn name f t.outer }

def markUsed (t:SymbolTable) (name:String) : SymbolTable :=
 t.update name fun x => { x with isUsed := true }

def tagLocal? (t:SymbolTable) (name:String) : Option Tag := t.current.tag? name

def tag? (t:SymbolTable) (name:String) : Option Tag := t.scopes.findSome? (·.tag? name)

def declareTag (t:SymbolTable) (name:String) (tag:Tag) (span:Span) :
  Except Fault SymbolTable :=
 match t.tagLocal? name with
 | some _ => .error ⟨.redefinition name,span⟩
 | none => .ok { t with current := { t.current with tags := (name,tag) :: t.current.tags } }

end SymbolTable

end CCheck
