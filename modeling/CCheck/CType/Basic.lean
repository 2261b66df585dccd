/-! # Types of C

A type is a kind with qualifiers. Structs and unions are named by their number in a
registry, so that a record may hold pointers to itself. Plain `char` is signed, and
`enum` types are `int`. -/

set_option autoImplicit false

namespace CCheck

structure Qualifiers where
 isConst : Bool
 isVolatile : Bool
 isRestrict : Bool
deriving DecidableEq, Repr

namespace Qualifiers

def none : Qualifiers := ⟨false,false,false⟩

def const : Qualifiers := ⟨true,false,false⟩

instance : Inhabited Qualifiers := ⟨none⟩

def isEmpty (q:Qualifiers) : Bool := !(q.isConst || q.isVolatile || q.isRestrict)

def includes (q r:Qualifiers) : Bool :=
 (q.isConst || !r.isConst) && (q.isVolatile || !r.isVolatile) && (q.isRestrict || !r.isRestrict)

def merge (q r:Qualifiers) : Qualifiers :=
 ⟨q.isConst || r.isConst,q.isVolatile || r.isVolatile,q.isRestrict || r.isRestrict⟩

def words (q:Qualifiers) : List String :=
 (if q.isConst then ["const"] else []) ++ (if q.isVolatile then ["volatile"] else [])
  ++ (if q.isRestrict then ["restrict"] else [])

def text (q:Qualifiers) : String := " ".intercalate q.words

end Qualifiers

inductive IntRank where
 | char | short | int | long | longLong
deriving DecidableEq, Repr

namespace IntRank

def order : IntRank → Nat
 | char => 0
 | short => 1
 | int => 2
 | long => 3
 | longLong => 4

def size : IntRank → Nat
 | char => 1
 | short => 2
 | int => 4
 | long | longLong => 8

def bits (r:IntRank) : Nat := r.size * 8

def max (r s:IntRank) : IntRank := if r.order ≤ s.order then s else r

end IntRank

inductive FloatKind where
 | float | double | longDouble
deriving DecidableEq, Repr

namespace FloatKind

def order : FloatKind → Nat
 | float => 0
 | double => 1
 | longDouble => 2

def size : FloatKind → Nat
 | float => 4
 | double => 8
 | longDouble => 16

def max (k l:FloatKind) : FloatKind := if k.order ≤ l.order then l else k

end FloatKind

inductive RecordKind where
 | struct | union
deriving DecidableEq, Repr

def RecordKind.word : RecordKind → String
 | struct => "struct"
 | union => "union"

mutual

structure CType where
 kind : TypeKind
 quals : Qualifiers

inductive TypeKind where
 | void
 | bool
 | int (rank:IntRank) (signed:Bool)
 | float (kind:FloatKind)
 | pointer (target:CType)
 /-- The length is missing when it is not written or not constant; `vla` says that it
 is found only when the program runs. -/
 | array (elem:CType) (length:Option Nat) (vla:Bool)
 | function (signature:Signature)
 | record (id:Nat)

structure Signature where
 ret : CType
 params : List CType
 variadic : Bool
 prototyped : Bool

end

namespace CType

def plain (k:TypeKind) : CType := ⟨k,.none⟩

def void : CType := plain .void
def bool : CType := plain .bool
def integer (rank:IntRank) (signed:Bool) : CType := plain (.int rank signed)
def char : CType := integer .char true
def int : CType := integer .int true
def uint : CType := integer .int false
def long : CType := integer .long true
def ulong : CType := integer .long false
def floating (k:FloatKind) : CType := plain (.float k)
def float : CType := floating .float
def double : CType := floating .double
def pointer (target:CType) : CType := plain (.pointer target)
def array (elem:CType) (length:Option Nat) : CType := plain (.array elem length false)
def function (ret:CType) (params:List CType) (variadic:Bool) : CType :=
 plain (.function ⟨ret,params,variadic,true⟩)
def charPointer : CType := pointer char
def voidPointer : CType := pointer void
def record (id:Nat) : CType := plain (.record id)

instance : Inhabited CType := ⟨void⟩

def qualify (t:CType) (q:Qualifiers) : CType := { t with quals := t.quals.merge q }

def unqualified (t:CType) : CType := plain t.kind

def isVoid (t:CType) : Bool := t.kind matches .void
def isBool (t:CType) : Bool := t.kind matches .bool
def isInteger (t:CType) : Bool := t.kind matches .bool | .int ..
def isFloating (t:CType) : Bool := t.kind matches .float _
def isArithmetic (t:CType) : Bool := t.isInteger || t.isFloating
def isPointer (t:CType) : Bool := t.kind matches .pointer _
def isScalar (t:CType) : Bool := t.isArithmetic || t.isPointer
def isArray (t:CType) : Bool := t.kind matches .array ..
def isFunction (t:CType) : Bool := t.kind matches .function _
def isRecord (t:CType) : Bool := t.kind matches .record _
def isConst (t:CType) : Bool := t.quals.isConst
def isChar (t:CType) : Bool := t.kind matches .int .char _

def isUnsizedArray (t:CType) : Bool := t.kind matches .array _ none false

def target? (t:CType) : Option CType :=
 match t.kind with
 | .pointer u => some u
 | _ => none

def signature? (t:CType) : Option Signature :=
 match t.kind with
 | .function f => some f
 | _ => none

def isVoidPointer (t:CType) : Bool := t.target?.any (·.isVoid)

/-- What a value of the type becomes in an expression: arrays turn into pointers to
their first element and functions into pointers to themselves. -/
def decay (t:CType) : CType :=
 match t.kind with
 | .array elem _ _ => pointer elem
 | .function _ => pointer t
 | _ => t

def promote (t:CType) : CType :=
 match t.kind with
 | .bool => int
 | .int rank _ => if rank.order < IntRank.int.order then int else t.unqualified
 | _ => t.unqualified

def intParts? (t:CType) : Option (IntRank × Bool) :=
 match t.kind with
 | .int rank signed => some (rank,signed)
 | .bool => some (.char,false)
 | _ => none

def maxValue? (t:CType) : Option Nat :=
 match t.kind with
 | .bool => some 1
 | .int rank true => some (Nat.pow 2 (rank.bits - 1) - 1)
 | .int rank false => some (Nat.pow 2 rank.bits - 1)
 | _ => none

end CType

/-! ### Equality -/

mutual

def CType.same : CType → CType → Bool
 | ⟨k,q⟩, ⟨l,r⟩ => k.same l && q == r
termination_by structural t => t

def TypeKind.same : TypeKind → TypeKind → Bool
 | .void, .void => true
 | .bool, .bool => true
 | .int r s, .int r' s' => r == r' && s == s'
 | .float k, .float l => k == l
 | .pointer t, .pointer u => t.same u
 | .array t n v, .array u m w => t.same u && n == m && v == w
 | .function f, .function g => f.same g
 | .record i, .record j => i == j
 | _, _ => false

def Signature.same : Signature → Signature → Bool
 | ⟨t,ps,v,p⟩, ⟨u,qs,w,q⟩ => t.same u && CType.sameAll ps qs && v == w && p == q

def CType.sameAll : List CType → List CType → Bool
 | [], [] => true
 | t :: ts, u :: us => t.same u && CType.sameAll ts us
 | _, _ => false

end

mutual

theorem CType.same_iff : ∀ t u : CType, t.same u = true ↔ t = u
 | ⟨k,q⟩, ⟨l,r⟩ => by
  simp [CType.same,TypeKind.same_iff k l]

theorem TypeKind.same_iff : ∀ k l : TypeKind, k.same l = true ↔ k = l
 | .void, l => by cases l <;> simp [TypeKind.same]
 | .bool, l => by cases l <;> simp [TypeKind.same]
 | .int r s, l => by cases l <;> simp [TypeKind.same]
 | .float k, l => by cases l <;> simp [TypeKind.same]
 | .pointer t, l => by
  cases l <;> simp [TypeKind.same]
  case pointer u => exact CType.same_iff t u
 | .array t n v, l => by
  cases l <;> simp [TypeKind.same,and_assoc]
  case array u m w => intro _ _; exact CType.same_iff t u
 | .function f, l => by
  cases l <;> simp [TypeKind.same]
  case function g => exact Signature.same_iff f g
 | .record i, l => by cases l <;> simp [TypeKind.same]

theorem Signature.same_iff : ∀ f g : Signature, f.same g = true ↔ f = g
 | ⟨t,ps,v,p⟩, ⟨u,qs,w,q⟩ => by
  simp [Signature.same,CType.same_iff t u,CType.sameAll_iff ps qs,and_assoc]

theorem CType.sameAll_iff : ∀ ts us : List CType, CType.sameAll ts us = true ↔ ts = us
 | [], us => by cases us <;> simp [CType.sameAll]
 | t :: ts, us => by
  cases us with
  | nil => simp [CType.sameAll]
  | cons u us => simp [CType.sameAll,CType.same_iff t u,CType.sameAll_iff ts us]

end

instance : DecidableEq CType := fun t u => decidable_of_iff _ (CType.same_iff t u)
instance : DecidableEq TypeKind := fun k l => decidable_of_iff _ (TypeKind.same_iff k l)
instance : DecidableEq Signature := fun f g => decidable_of_iff _ (Signature.same_iff f g)

end CCheck
