import CCheck.Analysis.Expression

/-! # Checking initializers

An initializer is checked against the declared type. The answer is that type, with the
length of an array filled in if it was left out. -/

set_option autoImplicit false

namespace CCheck

open Check

namespace Check

def badInitializer {α:Type} (flaw:InitializerFlaw) (span:Span) : Check α :=
 fail (.invalidInitializer flaw) span

def withLength (t elem:CType) (length:Option Nat) (n:Nat) : CType :=
 match length with
 | some _ => t
 | none => (CType.array elem (some n)).qualify t.quals

/-- A string initializes an array of characters. The terminating zero counts if the
length is left out, and need not fit if it is written. -/
def stringInitializer (t elem:CType) (length:Option Nat) (text:String) (span:Span) :
  Check CType :=
 if length.any (· < text.length) then badInitializer .stringTooLong span
 else return withLength t elem length (text.length + 1)

def plainInitializer (t:CType) (e:Expr) : Check CType := do
 match t.kind with
 | .array elem length _ =>
  match e with
  | .literal (.string text span) =>
   if elem.isChar then stringInitializer t elem length text span
   else badInitializer .needsBraces span
  | e => badInitializer .needsBraces e.span
 | _ =>
  let _ ← conversion t e
  return t

def bracedString? (elem:CType) (items:List Initializer) : Option (String × Span) :=
 match items with
 | [.expr (.literal (.string text span))] => if elem.isChar then some (text,span) else none
 | _ => none

def initializedFields (kind:RecordKind) (fields:List Field) : List CType :=
 match kind with
 | .struct => fields.map (·.type)
 | .union => (fields.take 1).map (·.type)

def recordParts (t:CType) (id:Nat) (span:Span) : Check (RecordKind × List CType) := do
 match (← get).records.get? id with
 | some ⟨kind,_,some fields,_,_⟩ => return (kind,initializedFields kind fields)
 | _ => fail (.incompleteType (← typeName t)) span

def atMost (items limit:Nat) (what:String) (span:Span) : Check Unit :=
 if limit < items then badInitializer (.excess what) span else return ()

def isRunTimeArray (t:CType) : Bool := t.kind matches .array _ _ true

end Check

mutual

def checkInitializer (t:CType) : Initializer → Check CType
 | .expr e =>
  if isRunTimeArray t then badInitializer .variableSized e.span else plainInitializer t e
 | .list items span => do
  if isRunTimeArray t then badInitializer .variableSized span
  else
   match t.kind with
   | .array elem length _ =>
    match bracedString? elem items with
    | some (text,span) => stringInitializer t elem length text span
    | none =>
     if let some n := length then atMost items.length n "array" span
     checkItems elem items
     return withLength t elem length items.length
   | .record id =>
    let (kind,types) ← recordParts t id span
    atMost items.length types.length kind.word span
    checkFields types items
    return t
   | _ =>
    match items with
    | [] => badInitializer .emptyScalar span
    | [item] => checkInitializer t item
    | _ => badInitializer (.excess "scalar") span
termination_by structural i => i

def checkItems (elem:CType) : List Initializer → Check Unit
 | [] => return ()
 | i :: is => do
  let _ ← checkInitializer elem i
  checkItems elem is

def checkFields (types:List CType) : List Initializer → Check Unit
 | [] => return ()
 | i :: is => do
  match types with
  | [] => return ()
  | t :: ts =>
   let _ ← checkInitializer t i
   checkFields ts is

end

end CCheck
