/-! # Operators -/

set_option autoImplicit false

namespace CCheck

inductive BinOp where
 | add | sub | mul | div | mod
 | eq | ne | lt | le | gt | ge
 | and | or
 | bitAnd | bitOr | bitXor | shl | shr
deriving DecidableEq, Repr

namespace BinOp

def symbol : BinOp → String
 | add => "+"
 | sub => "-"
 | mul => "*"
 | div => "/"
 | mod => "%"
 | eq => "=="
 | ne => "!="
 | lt => "<"
 | le => "<="
 | gt => ">"
 | ge => ">="
 | and => "&&"
 | or => "||"
 | bitAnd => "&"
 | bitOr => "|"
 | bitXor => "^"
 | shl => "<<"
 | shr => ">>"

def isComparison : BinOp → Bool
 | eq | ne | lt | le | gt | ge => true
 | _ => false

end BinOp

inductive UnaryOp where
 | neg | plus | not | bitNot | deref | addrOf | preInc | preDec | postInc | postDec
deriving DecidableEq, Repr

namespace UnaryOp

def symbol : UnaryOp → String
 | neg => "-"
 | plus => "+"
 | not => "!"
 | bitNot => "~"
 | deref => "*"
 | addrOf => "&"
 | preInc | postInc => "++"
 | preDec | postDec => "--"

def isArithmetic : UnaryOp → Bool
 | neg | plus | not | bitNot => true
 | _ => false

def isIncrement : UnaryOp → Bool
 | preInc | preDec | postInc | postDec => true
 | _ => false

end UnaryOp

/-- An assignment operator: the plain one, or one that applies a binary operator to the
target first. -/
inductive AssignOp where
 | assign | add | sub | mul | div | mod | shl | shr | bitAnd | bitOr | bitXor
deriving DecidableEq, Repr

namespace AssignOp

def binary? : AssignOp → Option BinOp
 | assign => none
 | add => some .add
 | sub => some .sub
 | mul => some .mul
 | div => some .div
 | mod => some .mod
 | shl => some .shl
 | shr => some .shr
 | bitAnd => some .bitAnd
 | bitOr => some .bitOr
 | bitXor => some .bitXor

def symbol (op:AssignOp) : String :=
 match op.binary? with
 | none => "="
 | some b => b.symbol ++ "="

end AssignOp

end CCheck
