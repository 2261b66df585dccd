import CCheck.CType.Basic

/-! # Conversions between types

The common type of two arithmetic operands, compatibility of types, and which values
may be assigned or cast to which types. -/

set_option autoImplicit false

namespace CCheck

namespace CType

def floatKind? (t:CType) : Option FloatKind :=
 match t.kind with
 | .float k => some k
 | _ => none

/-- The integer type that two promoted operands of the given ranks and signs meet in.
The unsigned one wins from equal rank up; a wider signed one holds all its values; of
equal width, the unsigned partner of the signed one is left. -/
def commonInteger (r:IntRank) (s:Bool) (r':IntRank) (s':Bool) : CType :=
 if s = s' then integer (r.max r') s
 else
  let (u,v) := if s then (r',r) else (r,r')
  if v.order ≤ u.order then integer u false
  else if u.size < v.size then integer v true
  else integer v false

def common (a b:CType) : CType :=
 match a.floatKind?, b.floatKind? with
 | some k, some l => floating (k.max l)
 | some k, none => floating k
 | none, some l => floating l
 | none, none =>
  let (r,s) := a.promote.intParts?.getD (.int,true)
  let (r',s') := b.promote.intParts?.getD (.int,true)
  commonInteger r s r' s'

end CType

def lengthsAgree : Option Nat → Option Nat → Bool
 | some n, some m => n == m
 | _, _ => true

mutual

def CType.compatible : CType → CType → Bool
 | ⟨k,q⟩, u => q == u.quals && k.compatible u.kind
termination_by structural t => t

def TypeKind.compatible : TypeKind → TypeKind → Bool
 | .void, .void => true
 | .bool, .bool => true
 | .int r s, .int r' s' => r == r' && s == s'
 | .float k, .float l => k == l
 | .pointer t, .pointer u => t.compatible u
 | .array t n _, .array u m _ => t.compatible u && lengthsAgree n m
 | .function f, .function g => f.compatible g
 | .record i, .record j => i == j
 | _, _ => false

def Signature.compatible : Signature → Signature → Bool
 | ⟨ret,params,variadic,prototyped⟩, g =>
  ret.compatible g.ret &&
   (!prototyped || !g.prototyped ||
    (variadic == g.variadic && params.length == g.params.length &&
     CType.paramsCompatible params g.params))

def CType.paramsCompatible : List CType → List CType → Bool
 | ⟨.array elem _ _,_⟩ :: ts, u :: us =>
  (match u.decay.target? with
   | some t => elem.compatible t
   | none => false) && CType.paramsCompatible ts us
 | ⟨.function f,q⟩ :: ts, u :: us =>
  (match u.decay.target? with
   | some ⟨.function g,r⟩ => q == r && f.compatible g
   | _ => false) && CType.paramsCompatible ts us
 | ⟨k,_⟩ :: ts, u :: us => k.compatible u.decay.kind && CType.paramsCompatible ts us
 | _, _ => true

end

namespace CType

def compatibleUnqualified (a b:CType) : Bool := a.kind.compatible b.kind

def targetsCompatible (a b:CType) : Bool :=
 match a.target?, b.target? with
 | some t, some u => t.compatibleUnqualified u
 | _, _ => false

/-- May a decayed value of type `source` be stored in an object of type `target`? A
constant zero may go into any pointer, and a pointer only where its target keeps all
qualifiers. -/
def assignable (target source:CType) (isNull:Bool) : Bool :=
 if target.isArithmetic && source.isArithmetic then true
 else
  match target.kind, source.kind with
  | .bool, .pointer _ => true
  | .pointer t, .pointer u =>
   t.quals.includes u.quals && (t.isVoid || u.isVoid || t.compatibleUnqualified u)
  | .pointer _, _ => isNull && source.isInteger
  | .record i, .record j => i == j
  | _, _ => false

/-- May a value be cast? Anything goes to `void`, numbers to numbers, pointers to
pointers, and integers and pointers to each other. -/
def castable (source target:CType) : Bool :=
 target.isVoid || source.compatibleUnqualified target
  || (source.isArithmetic && target.isArithmetic)
  || (source.isPointer && target.isPointer)
  || (source.isInteger && target.isPointer)
  || (source.isPointer && target.isInteger)

end CType

theorem CType.paramsCompatible_cons (t u:CType) (ts us:List CType) :
  CType.paramsCompatible (t :: ts) (u :: us) =
   (t.decay.compatibleUnqualified u.decay && CType.paramsCompatible ts us) := by
 obtain ⟨k,q⟩ := t
 cases k with
 | array elem n v =>
  rw [CType.paramsCompatible,show (⟨.array elem n v,q⟩ : CType).decay = .pointer elem from rfl]
  obtain ⟨l,r⟩ := u.decay
  cases l <;> rfl
 | function f =>
  rw [CType.paramsCompatible,
   show (⟨.function f,q⟩ : CType).decay = .pointer ⟨.function f,q⟩ from rfl]
  obtain ⟨l,r⟩ := u.decay
  cases l with
  | pointer w =>
   obtain ⟨m,s⟩ := w
   cases m <;> simp [CType.compatibleUnqualified,CType.pointer,CType.plain,CType.target?,
    TypeKind.compatible,CType.compatible]
  | _ => rfl
 | _ => rfl

end CCheck
