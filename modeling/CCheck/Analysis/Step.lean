import CCheck.Analysis.State
import CCheck.Analysis.Operator
import CCheck.Constant

/-! # Steps of checking expressions and types

The rule of each construct apart from the recursion into its parts. Where a rule checks
a part, or computes its constant value, that step is an argument. -/

set_option autoImplicit false

namespace CCheck

def Expr.mayBeNull : Expr → Bool
 | literal (.int ..) | literal (.char ..) | ident _ => true
 | cast _ e _ => e.mayBeNull
 | unary op e _ => op.isArithmetic && e.mayBeNull
 | binary _ l r _ => l.mayBeNull && r.mayBeNull
 | _ => false
termination_by structural e => e

namespace Check

/-! ### Expressions -/

def identType (i:Ident) : Check CType := do
 match ← lookup? i.name with
 | some x =>
  match x.kind with
  | .var | .func => return x.type
  | .constant _ => return .int
  | .type | .label => fail (.expectedExpr ("type name '" ++ i.name ++ "'")) i.span
 | none =>
  match LibraryFunction.find? i.name with
  | some f => return f.type
  | none => fail (.undefinedIdent i.name) i.span

def markUsed (name:String) : Check Unit :=
 modify fun s => { s with symbols := s.symbols.markUsed name }

def value (type:Check CType) : Check CType := return (← type).value

def designatesObject (e:Expr) : Check Bool := do
 match e with
 | .ident i => return (← lookup? i.name).any (·.kind == .var)
 | e => return e.isLvalue

def isNull (e:Expr) (type:CType) (constant:Check Int64) : Check Bool := do
 if type.isInteger && e.mayBeNull then
  match ← attempt constant with
  | .ok v => return v == 0
  | .error _ => return false
 else return false

def convert (target:CType) (e:Expr) (type:Check CType) (constant:Check Int64) :
  Check CType := do
 let source ← value type
 if target.unqualified.assignable source (← isNull e source constant) then return source
 else fail (.typeMismatch (← typeName target) (← typeName source)) e.span

def binaryType (op:BinOp) (a b:CType) (aIsNull bIsNull:Bool) (span:Span) :
  Check CType := do
 match op.type? (← get).records a b aIsNull bIsNull with
 | some t => return t
 | none => fail (.invalidOperands op.symbol (← typeName a) (← typeName b)) span

def unaryType (op:UnaryOp) (t:CType) (span:Span) : Check CType := do
 match op.type? (← get).records t with
 | some u => return u
 | none => fail (.invalidOperand op.symbol (← typeName t)) span

def addressType (operand:Expr) (t:CType) : Check CType := do
 if t.isFunction || (← designatesObject operand) then return .pointer t
 else fail .notAnLvalue operand.span

/-- The type of a target of plain assignment: a variable is written without being
read, so it is not marked as used. -/
def storeType (target:Expr) (type:Check CType) : Check CType :=
 match target with
 | .ident i => identType i
 | _ => type

def modifiable (target:Expr) (type:Check CType) : Check CType := do
 let t ← type
 if !(← designatesObject target) || t.isArray || t.isFunction then
  fail .notAnLvalue target.span
 else if t.isConst then fail (.readOnly (← typeName t)) target.span
 else return t.unqualified

def compound (op:BinOp) (target operand:CType) (span:Span) : Check CType := do
 let result ← binaryType op target operand false false span
 if target.assignable result false then return target
 else fail (.typeMismatch (← typeName target) (← typeName result)) span

def conditionalType (a b:CType) (aIsNull bIsNull:Bool) (span:Span) : Check CType := do
 match a.conditional? b aIsNull bIsNull with
 | some t => return t
 | none => fail (.typeMismatch (← typeName a) (← typeName b)) span

def condition (e:Expr) (type:Check CType) : Check Unit := do
 let t ← value type
 if t.isScalar then return ()
 else fail (.nonScalarCondition (← typeName t)) e.span

def libraryCallee? (callee:Expr) : Check (Option LibraryFunction) := do
 match callee with
 | .ident i =>
  match ← lookup? i.name with
  | some _ => return none
  | none => return LibraryFunction.find? i.name
 | _ => return none

def recordCall (f:LibraryFunction) (span:Span) : Check Unit :=
 modify fun s => { s with calls := s.calls ++ [⟨f.name,f.id,span⟩] }

def calleeType (callee:Expr) (type:Check CType) (span:Span) : Check CType := do
 match ← libraryCallee? callee with
 | some f =>
  recordCall f span
  return f.type.decay
 | none => value type

def signature (callee:Expr) (t:CType) : Check Signature := do
 match t.target?.bind (·.signature?) with
 | some f => return f
 | none => fail (.notCallable (← typeName t)) callee.span

def calleeName : Expr → String
 | .ident i => i.name
 | _ => "function pointer"

def argumentCount (name:String) (f:Signature) (got:Nat) (span:Span) : Check Unit :=
 let fixed := f.params.length
 if !f.prototyped || got = fixed || (fixed < got && f.variadic) then return ()
 else
  let expected := (if f.variadic then "at least " else "") ++ toString fixed
  fail (.argumentCount name expected got) span

def comparedParams (f:Signature) : List CType := if f.prototyped then f.params else []

def argument (name:String) (index:Nat) (param:Option CType) (arg:Expr)
  (type:Check CType) (constant:Check Int64) : Check Unit := do
 let t ← value type
 match param with
 | none => return ()
 | some p =>
  let p := p.unqualified
  if p.assignable t (← isNull arg t constant) then return ()
  else fail (.argumentType name index (← typeName p) (← typeName t)) arg.span

def elementType (base:Expr) (baseType indexType:CType) (span:Span) : Check CType := do
 match baseType.element? indexType with
 | none => fail (.notIndexable (← typeName baseType)) base.span
 | some t =>
  if t.isFunction || !(← isComplete t) then fail (.incompleteType (← typeName t)) span
  else return t

def arrowTarget (t:CType) (span:Span) : Check CType := do
 match t.target? with
 | some u => return u
 | none => fail (.notARecord (← typeName t)) span

def memberType (record:CType) (member:Ident) (span:Span) : Check CType := do
 if !record.isRecord then fail (.notARecord (← typeName record)) span
 else if !(← isComplete record) then fail (.incompleteType (← typeName record)) span
 else
  match (← get).records.member? record member.name with
  | some f => return f.type.qualify record.quals
  | none => fail (.unknownMember member.name (← typeName record.unqualified)) member.span

def castType (source target:CType) (span:Span) : Check CType := do
 if target.isArray || target.isFunction || !source.castable target then
  fail (.invalidCast (← typeName source) (← typeName target)) span
 else return target.unqualified

def constant (v:Option Int64) (span:Span) : Check Int64 :=
 match v with
 | some v => return v
 | none => fail .notIntegerConstant span

def identConstant (i:Ident) : Check Int64 := do
 match (← lookup? i.name).map Symbol.kind with
 | some (.constant v) => return v
 | _ => fail .notIntegerConstant i.span

def sizeConstant (t:CType) (span:Span) : Check Int64 := return .ofNat (← sizeOf t span)

def namedType (name:String) (span:Span) : Check CType := do
 match ← lookup? name with
 | some x => if x.kind == .type then return x.type else fail (.unknownTypeName name) span
 | none => fail (.unknownTypeName name) span

def arrayElement (t:CType) (span:Span) : Check CType := do
 if t.isFunction || !(← isComplete t) then fail (.incompleteType (← typeName t)) span
 else return t

/-- The length of an array, or `none` if it is found only at run time: inside a function,
where the size is not made of literals alone and has no constant value. -/
def arrayLength (size:Expr) (vla:Bool) (constant:Check Int64) (type:Check CType) :
  Check (Option Nat) := do
 match ← attempt constant with
 | .ok n =>
  if n < 0 then fail (.invalidArraySize (.negative n)) size.span
  else return some n.toNatClampNeg
 | .error f =>
  if !vla then throw f
  else if ← atFileScope then fail (.invalidArraySize .variableAtFileScope) size.span
  else
   let t ← value type
   if t.isInteger then return none
   else fail (.invalidArraySize (.nonInteger (← typeName t))) size.span

def sizedArray (elem:CType) (length:Option Nat) (span:Span) : Check CType := do
 let t := CType.plain (.array elem length length.isNone)
 if length.isSome && ((← get).records.sizeOf? t).isNone then
  fail (.invalidArraySize .tooLarge) span
 else return t

def returnable (t:CType) (span:Span) : Check CType := do
 if t.isArray || t.isFunction then
  fail (.invalidDeclaration (.returnType (← typeName t))) span
 else return t

def paramType (name:Option Ident) (t:CType) (span:Span) : Check CType :=
 if t.isVoid then fail (.voidVariable ((name.map (·.name)).getD "<unnamed>")) span
 else return t

/-! ### Records and enumerations -/

/-- A struct or union that is named without its members: the one that the tag stands
for, or a new one. -/
def referRecord (kind:RecordKind) (tag:Option Ident) : Check Nat := do
 match tag with
 | none => newRecord kind none
 | some tag =>
  let conflict := .conflictingTypes (kind.word ++ " " ++ tag.name)
  match (← get).symbols.tag? tag.name with
  | some (.record id) =>
   if ((← get).records.get? id).any (·.kind != kind) then fail conflict tag.span
   else return id
  | some .enum => fail conflict tag.span
  | none => newTaggedRecord kind tag

/-- The record that a definition completes: a declared one of this scope that has the same
kind and no members yet, or a new one. -/
def openRecord (kind:RecordKind) (tag:Option Ident) : Check Nat := do
 match tag with
 | none => newRecord kind none
 | some tag =>
  match (← get).symbols.tagLocal? tag.name with
  | none => newTaggedRecord kind tag
  | some t =>
   let records := (← get).records
   match t with
   | .record id =>
    if (records.get? id).any fun d => d.kind == kind && !d.isComplete then return id
    else fail (.redefinition (kind.word ++ " " ++ tag.name)) tag.span
   | .enum => fail (.redefinition (kind.word ++ " " ++ tag.name)) tag.span

def definedRecord? (span:Span) : Check (Option Nat) :=
 return (← get).definedRecords.lookup span.start

def markRecordDefined (span:Span) (id:Nat) : Check Unit :=
 modify fun s => { s with definedRecords := (span.start,id) :: s.definedRecords }

def completeRecord (id:Nat) (members:List (String × CType)) (span:Span) : Check Unit :=
 fun s =>
  match Registry.completeInPlace id members s.records with
  | .ok () records => .ok () { s with records }
  | .error flaw records => .error ⟨.invalidDeclaration (.layout flaw),span⟩ { s with records }

def freshMember (seen:List String) (name:Ident) : Check Unit :=
 if seen.contains name.name then fail (.duplicateMember name.name) name.span else return ()

def memberOk (t:CType) (isLast:Bool) (span:Span) : Check Unit := do
 let unsized := t.kind matches .array _ none _
 if t.isFunction || !(← isComplete t) || (unsized && !isLast) then
  fail (.incompleteType (← typeName t)) span
 else return ()

def referEnum (tag:Option Ident) : Check Unit := do
 match tag with
 | none => return ()
 | some tag =>
  match (← get).symbols.tag? tag.name with
  | some .enum => return ()
  | some (.record _) => fail (.conflictingTypes ("enum " ++ tag.name)) tag.span
  | none => fail (.incompleteType ("enum " ++ tag.name)) tag.span

def isEnumDefined (span:Span) : Check Bool :=
 return (← get).definedEnums.contains span.start

def markEnumDefined (span:Span) : Check Unit :=
 modify fun s => { s with definedEnums := span.start :: s.definedEnums }

def openEnum (tag:Option Ident) : Check Unit := do
 match tag with
 | none => return ()
 | some tag =>
  if ((← get).symbols.tagLocal? tag.name).isSome then
   fail (.redefinition ("enum " ++ tag.name)) tag.span
  else declareTag tag .enum

def declareConstant (name:Ident) (v:Int64) : Check Unit :=
 declare (.fresh name (.constant v) .int none true)

end Check

end CCheck
