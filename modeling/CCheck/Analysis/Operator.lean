import CCheck.Registry
import CCheck.Tree.Operator
import CCheck.CType.Conversion

/-! # Types of operators

The type of an operator's value in terms of the types of its operands. Operands that
are used for their values have decayed and lost their outermost qualifiers. -/

set_option autoImplicit false

namespace CCheck

def CType.value (t:CType) : CType := t.decay.unqualified

def Registry.isObjectPointer (r:Registry) (t:CType) : Bool :=
 t.target?.any fun u => !u.isFunction && r.isComplete u

/-- May two values be compared by `==`? A pointer may also meet a constant zero, and
`void *` any pointer. -/
def CType.equatable (a b:CType) (aIsNull bIsNull:Bool) : Bool :=
 (a.isArithmetic && b.isArithmetic)
  || (a.isPointer && b.isPointer && (a.targetsCompatible b || a.isVoidPointer || b.isVoidPointer))
  || (a.isPointer && bIsNull) || (aIsNull && b.isPointer)

def BinOp.type? (records:Registry) (op:BinOp) (a b:CType) (aIsNull bIsNull:Bool) :
  Option CType :=
 let arithmetic := a.isArithmetic && b.isArithmetic
 let integers := a.isInteger && b.isInteger
 match op with
 | .add =>
  if arithmetic then some (a.common b)
  else if records.isObjectPointer a && b.isInteger then some a
  else if a.isInteger && records.isObjectPointer b then some b
  else none
 | .sub =>
  if arithmetic then some (a.common b)
  else if records.isObjectPointer a && b.isInteger then some a
  else if records.isObjectPointer a && records.isObjectPointer b && a.targetsCompatible b then
   some .long
  else none
 | .mul | .div => if arithmetic then some (a.common b) else none
 | .mod | .bitAnd | .bitOr | .bitXor => if integers then some (a.common b) else none
 | .shl | .shr => if integers then some a.promote else none
 | .and | .or => if a.isScalar && b.isScalar then some .int else none
 | .lt | .le | .gt | .ge => if arithmetic || a.targetsCompatible b then some .int else none
 | .eq | .ne => if a.equatable b aIsNull bIsNull then some .int else none

def BinOp.takesNull : BinOp → Bool
 | .eq | .ne => true
 | _ => false

/-- The type of a unary operator's value, if the operand is allowed. The address operator
needs more than the type of its operand and has no rule here. -/
def UnaryOp.type? (records:Registry) (op:UnaryOp) (t:CType) : Option CType :=
 match op with
 | .neg | .plus => if t.isArithmetic then some t.promote else none
 | .bitNot => if t.isInteger then some t.promote else none
 | .not => if t.isScalar then some .int else none
 | .deref => t.target?.filter (!·.isVoid)
 | .preInc | .preDec | .postInc | .postDec =>
  if t.isArithmetic || records.isObjectPointer t then some t else none
 | .addrOf => none

def CType.conditional? (a b:CType) (aIsNull bIsNull:Bool) : Option CType :=
 if a.isArithmetic && b.isArithmetic then some (a.common b)
 else
  match a.kind, b.kind with
  | .void, .void => some a
  | .record i, .record j => if i = j then some a else none
  | .pointer _, .pointer _ =>
   if bIsNull then some a
   else if aIsNull then some b
   else if a.targetsCompatible b || a.isVoidPointer then some a
   else if b.isVoidPointer then some b
   else none
  | .pointer _, _ => if bIsNull then some a else none
  | _, .pointer _ => if aIsNull then some b else none
  | _, _ => none

/-- What `base[index]` selects from: one operand is a pointer and the other an integer,
in either order. -/
def CType.element? (base index:CType) : Option CType :=
 match base.target?, index.target? with
 | some t, none => if index.isInteger then some t else none
 | none, some t => if base.isInteger then some t else none
 | _, _ => none

end CCheck
