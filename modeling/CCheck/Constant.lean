import CCheck.Tree

/-! # Integer constants

Constant expressions are computed in 64-bit words that wrap around. This module has the
arithmetic: what the operators do to words, how a word is cut down to an integer type,
and the types of literals. -/

set_option autoImplicit false

namespace CCheck

def ofBool (b:Bool) : Int64 := if b then 1 else 0

def UnaryOp.eval? (op:UnaryOp) (v:Int64) : Option Int64 :=
 match op with
 | .neg => some (-v)
 | .plus => some v
 | .not => some (ofBool (v == 0))
 | .bitNot => some (~~~v)
 | _ => none

/-- The value of a binary operator; there is none for a division by zero. Division
truncates toward zero, and shift counts are taken modulo 64. -/
def BinOp.eval? (op:BinOp) (a b:Int64) : Option Int64 :=
 match op with
 | .add => some (a + b)
 | .sub => some (a - b)
 | .mul => some (a * b)
 | .div => if b = 0 then none else some (a / b)
 | .mod => if b = 0 then none else some (a % b)
 | .shl => some (a <<< b)
 | .shr => some (a >>> b)
 | .bitAnd => some (a &&& b)
 | .bitOr => some (a ||| b)
 | .bitXor => some (a ^^^ b)
 | .eq => some (ofBool (a == b))
 | .ne => some (ofBool (a != b))
 | .lt => some (ofBool (a < b))
 | .le => some (ofBool (a ≤ b))
 | .gt => some (ofBool (b < a))
 | .ge => some (ofBool (b ≤ a))
 | .and => some (ofBool (a != 0 && b != 0))
 | .or => some (ofBool (a != 0 || b != 0))

/-- Keeps the low `bits` bits, fewer than 64 of them, and reads them as a number of the
given sign. -/
def truncateBits (v:Int64) (bits:Nat) (signed:Bool) : Int64 :=
 let one : Int64 := 1
 let n := Int64.ofNat bits
 let masked := v &&& (one <<< n - 1)
 if signed && masked &&& (one <<< (n - 1)) != 0 then masked - one <<< n else masked

def truncate (v:Int64) (t:CType) : Int64 :=
 match t.kind with
 | .bool => ofBool (v != 0)
 | .int rank signed => if rank.bits ≥ 64 then v else truncateBits v rank.bits signed
 | _ => v

/-- The types that a literal may have, in the order in which they are tried. Without a
`u` a decimal literal is never unsigned, an octal or hexadecimal one may be. -/
def IntLiteral.candidates (n:IntLiteral) : List CType :=
 let ranks : List IntRank :=
  match n.longs with
  | 0 => [.int,.long,.longLong]
  | 1 => [.long,.longLong]
  | _ => [.longLong]
 ranks.flatMap fun r =>
  (if n.isUnsigned then [] else [CType.integer r true]) ++
   (if n.isUnsigned || n.radix != .decimal then [CType.integer r false] else [])

def IntLiteral.type (n:IntLiteral) : CType :=
 (n.candidates.find? fun t => t.maxValue?.any (n.value.toNat ≤ ·)).getD
  (.integer .longLong false)

def Literal.type : Literal → CType
 | int n _ => n.type
 | float x _ =>
  match x.suffix with
  | .plain => .double
  | .float => .float
  | .long => .floating .longDouble
 | char _ _ => .int
 | string value _ => .array .char (some (value.length + 1))

def BaseType.type : BaseType → CType
 | void => .void
 | bool => .bool
 | char | schar => .char
 | uchar => .integer .char false
 | short => .integer .short true
 | ushort => .integer .short false
 | int => .int
 | uint => .uint
 | long => .long
 | ulong => .ulong
 | longLong => .integer .longLong true
 | ulongLong => .integer .longLong false
 | float => .float
 | double => .double
 | longDouble => .floating .longDouble

end CCheck
