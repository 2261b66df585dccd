import CCheck.Analysis.Statement

/-! # Analysis

Checks what stands at file scope, one after the other, and collects what is known of the
program and what is wrong with it. -/

set_option autoImplicit false

namespace CCheck

namespace Check

def paramsNamed (function:String) : List Param → Check Unit
 | [] => return ()
 | p :: ps =>
  if p.name.isNone then fail (.unnamedParameter function) p.span
  else paramsNamed function ps

def declareParams : List Param → List CType → Check Unit
 | p :: ps, t :: ts => do
  if let some name := p.name then declare (.param name t)
  declareParams ps ts
 | _, _ => return ()

def definedSignature (head:FunctionDecl) (t:CType) : Check Signature := do
 match t.signature? with
 | some f => return f
 | none => fail (.typeMismatch "function type" (← typeName t)) head.name.span

def returnsComplete (ret:CType) (span:Span) : Check Unit := do
 if ret.isVoid || (← isComplete ret) then return ()
 else fail (.incompleteType (← typeName ret)) span

def enterFunction (name:String) (ret:CType) : Check Unit :=
 modify fun s => { s with function := some (.start name ret),flow := .outside,switches := [] }

end Check

namespace FunctionContext

def hasLabel (f:FunctionContext) (name:String) : Bool := f.labels.any (·.name == name)

def undefinedGotos (f:FunctionContext) : List Ident := f.gotos.filter (!f.hasLabel ·.name)

def usedLabels (f:FunctionContext) : List Symbol :=
 (f.labels.map fun x =>
  { x with isUsed := f.gotos.any (·.name == x.name) }).mergeSort
    fun x y => x.span.start ≤ y.span.start

def info (f:FunctionContext) (type:CType) : FunctionInfo :=
 ⟨f.name,type,f.locals ++ f.usedLabels,f.returns⟩

end FunctionContext

def Checker.leaveFunction (c:Checker) (type:CType) : Checker :=
 match c.function with
 | none => c
 | some f =>
  let c := f.undefinedGotos.foldl
   (fun c g => c.report ⟨.undefinedLabel g.name,g.span⟩) { c with function := none }
  { c with functions := c.functions ++ [f.info type] }

open Check

/-- Checks a function with its body. The parameters have a scope of their own around
that of the body. -/
def checkDefinition (head:FunctionDecl) (body:Block) : Check Unit := do
 let t ← resolveType head.type
 let f ← definedSignature head t
 paramsNamed head.name.name head.type.params
 returnsComplete f.ret head.type.span
 declareFunction head.name t head.storage true
 enterFunction head.name.name f.ret
 reporting (inScope do
  declareParams head.type.params f.params
  checkBlock body)
 modify (·.leaveFunction t)

def checkExternal : External → Check Unit
 | .declaration d => checkDeclaration d
 | .definition head body => checkDefinition head body

def checkExternals : List External → Check Unit
 | [] => return ()
 | e :: es => do
  reporting (checkExternal e)
  checkExternals es

structure Summary where
 errors : Nat
 warnings : Nat
 message : String
deriving DecidableEq, Repr

namespace Summary

def text (s:Summary) : String :=
 "semantic analysis failed with " ++ toString s.errors ++ " error(s), "
  ++ toString s.warnings ++ " warning(s): " ++ s.message

def render (s:Summary) : String := "error: " ++ s.text

end Summary

structure Analysis where
 globals : List Symbol
 functions : List FunctionInfo
 calls : List LibraryCall
 records : Registry
 diagnostics : List Diagnostic
 errorCount : Nat
 warningCount : Nat
deriving DecidableEq

namespace Analysis

def isSuccess (a:Analysis) : Bool := a.errorCount == 0

def global? (a:Analysis) (name:String) : Option Symbol :=
 a.globals.find? (·.name == name)

def function? (a:Analysis) (name:String) : Option FunctionInfo :=
 a.functions.find? (·.name == name)

end Analysis

namespace Checker

def analyze (c:Checker) (u:ProgramUnit) : Checker :=
 match checkExternals u.externals c with
 | .ok _ c => c
 | .error f c => c.report f

def outcome (c:Checker) : Except Summary Unit :=
 if c.errorCount = 0 then .ok ()
 else .error ⟨c.errorCount,c.warningCount,c.lastMessage.getD ""⟩

def analysis (c:Checker) : Analysis :=
 ⟨c.symbols.globals,c.functions,c.calls,c.records,c.diagnostics,c.errorCount,
  c.warningCount⟩

end Checker

end CCheck
