/-! # Numeric constants

The payload of an integer or floating constant: its value and what its spelling says
about its type. -/

set_option autoImplicit false

namespace CCheck

inductive Radix where
 | decimal | octal | hex
deriving DecidableEq, Repr

def Radix.base : Radix → Nat
 | decimal => 10
 | octal => 8
 | hex => 16

structure IntLiteral where
 value : UInt64
 radix : Radix
 isUnsigned : Bool
 longs : Nat
deriving DecidableEq, Repr

def IntLiteral.hasSuffix (n:IntLiteral) : Bool := n.isUnsigned || n.longs > 0

inductive FloatSuffix where
 | plain | float | long
deriving DecidableEq, Repr

structure FloatLiteral where
 value : Float
 suffix : FloatSuffix
deriving DecidableEq, Repr

end CCheck
