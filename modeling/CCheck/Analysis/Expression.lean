import CCheck.Analysis.Step

/-! # Checking expressions and types

Every expression has a type, which `checkExpr` finds; `evalConst` computes the value of
an integer constant expression, and `resolveType` the type that is written. They call
each other, because a type may hold array sizes and an expression types, and all
recurse on the tree. -/

set_option autoImplicit false

namespace CCheck

open Check

mutual

def checkExpr : Expr → Check CType
 | .literal l => return l.type
 | .ident i => do
  let t ← identType i
  markUsed i.name
  return t
 | .binary op l r span => do
  let a ← value (checkExpr l)
  let b ← value (checkExpr r)
  if op.takesNull then
   let aIsNull ← isNull l a (evalConst l)
   let bIsNull ← isNull r b (evalConst r)
   binaryType op a b aIsNull bIsNull span
  else binaryType op a b false false span
 | .unary op e span => do
  if op = .addrOf then addressType e (← checkExpr e)
  else if op.isIncrement then unaryType op (← modifiable e (checkExpr e)) span
  else unaryType op (← value (checkExpr e)) span
 | .assign op target e span => do
  match op.binary? with
  | none =>
   let t ← modifiable target (storeType target (checkExpr target))
   let _ ← convert t e (checkExpr e) (evalConst e)
   return t
  | some op =>
   let t ← modifiable target (checkExpr target)
   compound op t (← value (checkExpr e)) span
 | .cond test yes no _ => do
  condition test (checkExpr test)
  let a ← value (checkExpr yes)
  let b ← value (checkExpr no)
  let aIsNull ← isNull yes a (evalConst yes)
  let bIsNull ← isNull no b (evalConst no)
  conditionalType a b aIsNull bIsNull no.span
 | .call callee args span => do
  let f ← signature callee (← calleeType callee (checkExpr callee) span)
  argumentCount (calleeName callee) f args.length span
  checkArgs (calleeName callee) 1 (comparedParams f) args
  return f.ret
 | .index base index span => do
  let a ← value (checkExpr base)
  let b ← value (checkExpr index)
  elementType base a b span
 | .member base name arrow span => do
  if arrow then memberType (← arrowTarget (← value (checkExpr base)) span) name span
  else memberType (← checkExpr base) name span
 | .cast type e span => do
  let target ← resolveType type
  let source ← value (checkExpr e)
  castType source target span
 | .sizeofType type span => do
  let _ ← sizeOf (← resolveType type) span
  return .ulong
 | .sizeofExpr e span => do
  let _ ← sizeOf (← checkExpr e) span
  return .ulong
 | .comma l r _ => do
  let _ ← checkExpr l
  value (checkExpr r)
termination_by structural e => e

def checkArgs (name:String) (index:Nat) (params:List CType) : List Expr → Check Unit
 | [] => return ()
 | e :: es => do
  argument name index params.head? e (checkExpr e) (evalConst e)
  checkArgs name (index + 1) params.tail es

def evalConst : Expr → Check Int64
 | .literal (.int n _) => return n.value.toInt64
 | .literal (.char code _) => return .ofNat code
 | .ident i => identConstant i
 | .unary op e span => do constant (op.eval? (← evalConst e)) span
 | .binary op l r span => do
  let a ← evalConst l
  if op = .and && a = 0 then return 0
  else if op = .or && a ≠ 0 then return 1
  else constant (op.eval? a (← evalConst r)) span
 | .cond test yes no _ => do
  if (← evalConst test) ≠ 0 then evalConst yes else evalConst no
 | .cast type e span => do
  let t ← resolveType type
  if t.isInteger then return truncate (← evalConst e) t
  else fail .notIntegerConstant span
 | .sizeofType type span => do sizeConstant (← resolveType type) span
 | .sizeofExpr e span => do sizeConstant (← checkExpr e) span
 | .literal l => fail .notIntegerConstant l.span
 | .assign _ _ _ span | .call _ _ span | .index _ _ span | .member _ _ _ span
 | .comma _ _ span => fail .notIntegerConstant span

def resolveType : TypeExpr → Check CType
 | ⟨form,quals,span⟩ => return (← resolveForm span form).qualify quals

def resolveForm (span:Span) : TypeForm → Check CType
 | .base b => return b.type
 | .record spec => return .record (← resolveRecord spec)
 | .enum spec => do
  resolveEnum spec
  return .int
 | .named name => namedType name span
 | .pointer t => return .pointer (← resolveType t)
 | .array elem none vla => do
  let t ← arrayElement (← resolveType elem) elem.span
  return .plain (.array t none vla)
 | .array elem (some size) vla => do
  let t ← arrayElement (← resolveType elem) elem.span
  let n ← arrayLength size vla (evalConst size) (checkExpr size)
  sizedArray t n size.span
 | .function ret params variadic prototyped => do
  let t ← returnable (← resolveType ret) span
  let ps ← resolveParams params
  return .plain (.function ⟨t,ps,variadic,prototyped⟩)

def resolveParams : List Param → Check (List CType)
 | [] => return []
 | p :: ps => do
  let t ← resolveParam p
  return t :: (← resolveParams ps)

/-- A parameter that is written as an array is a pointer, whatever its size, and one that
is written as a function is a pointer to it. -/
def resolveParam : Param → Check CType
 | ⟨name,⟨.array elem _ _,quals,_⟩,span⟩ => do
  paramType name ((CType.pointer (← resolveType elem)).qualify quals) span
 | ⟨name,type,span⟩ => do paramType name (← resolveType type).decay span

/-- The record of a specifier. A specifier with members defines its record the first
time that it is met. -/
def resolveRecord : RecordSpec → Check Nat
 | ⟨kind,tag,none,_⟩ => referRecord kind tag
 | ⟨kind,tag,some members,span⟩ => do
  match ← definedRecord? span with
  | some id => return id
  | none =>
   let id ← openRecord kind tag
   markRecordDefined span id
   completeRecord id (← resolveMembers [] members) span
   return id

def resolveMembers (seen:List String) : List Member → Check (List (String × CType))
 | [] => return []
 | ⟨name,type,span⟩ :: ms => do
  freshMember seen name
  let t ← resolveType type
  memberOk t ms.isEmpty span
  return (name.name,t) :: (← resolveMembers (name.name :: seen) ms)

def resolveEnum : EnumSpec → Check Unit
 | ⟨tag,none,_⟩ => referEnum tag
 | ⟨tag,some es,span⟩ => do
  if ← isEnumDefined span then return ()
  else
   markEnumDefined span
   openEnum tag
   declareEnumerators 0 es

def declareEnumerators (next:Int64) : List Enumerator → Check Unit
 | [] => return ()
 | ⟨name,none,_⟩ :: es => do
  declareConstant name next
  declareEnumerators (next + 1) es
 | ⟨name,some e,_⟩ :: es => do
  let v ← evalConst e
  declareConstant name v
  declareEnumerators (v + 1) es

end

namespace Check

def rvalue (e:Expr) : Check CType := value (checkExpr e)

/-- Checks that the value of an expression may go into an object of a type, and answers
the type of the value. -/
def conversion (target:CType) (e:Expr) : Check CType :=
 convert target e (checkExpr e) (evalConst e)

def test (e:Expr) : Check Unit := condition e (checkExpr e)

end Check

end CCheck
