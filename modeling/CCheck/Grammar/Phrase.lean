import CCheck.Grammar.Stream
import CCheck.Grammar.Declarator

/-! # Phrases

The phrases of the grammar that contain one another. A rule for a phrase is written
over a reader for all of them, and uses it only after it has passed a token itself. -/

set_option autoImplicit false

namespace CCheck

structure Specifiers where
 storage : Option StorageClass
 isInline : Bool
 type : TypeExpr

inductive Phrase where
 | expr
 | assignment
 | conditional
 | binary (least:Nat)
 | cast
 | unary
 | specifiers (storageAllowed:Bool)
 | declarator (abstract:Bool)
 | initializer
 | statement
deriving DecidableEq, Repr

abbrev Phrase.Tree : Phrase → Type
 | expr | assignment | conditional | binary _ | cast | unary => Expr
 | specifiers _ => Specifiers
 | declarator _ => Declarator
 | initializer => Initializer
 | statement => Stmt

abbrev Reader := (p:Phrase) → Parser p.Tree

end CCheck
