import CCheck.Tree

/-! # Declarators

The part of a declaration that surrounds a name, as written: stars before it, array and
parameter suffixes after it, parentheses around an inner one. `Declarator.apply` turns
it inside out around the type that the specifiers name. -/

set_option autoImplicit false

namespace CCheck

inductive Suffix where
 | array (size:Option Expr) (vla:Bool) (span:Span)
 | function (params:List Param) (variadic prototyped:Bool) (span:Span)

structure Declarator where
 name : Option Ident
 pointers : List (Qualifiers × Span)
 suffixes : List Suffix
 nested : Option Declarator

namespace TypeExpr

def addPointer (t:TypeExpr) (q:Qualifiers) (s:Span) : TypeExpr :=
 ⟨.pointer t,q,t.span.merge s⟩

def addSuffix (t:TypeExpr) : Suffix → TypeExpr
 | .array size vla s => ⟨.array t size vla,.none,t.span.merge s⟩
 | .function params variadic prototyped s =>
  ⟨.function t params variadic prototyped,.none,t.span.merge s⟩

end TypeExpr

/-- The declared name and its type: stars bind to the base type first, then the
suffixes from the last to the first, then whatever the parentheses hold. -/
def Declarator.apply : Declarator → TypeExpr → Option Ident × TypeExpr
 | ⟨name,pointers,suffixes,nested⟩, base =>
  let starred := pointers.foldl (fun t p => t.addPointer p.1 p.2) base
  let suffixed := suffixes.foldr (fun s t => t.addSuffix s) starred
  match nested with
  | some inner => inner.apply suffixed
  | none => (name,suffixed)
termination_by structural d => d

end CCheck
