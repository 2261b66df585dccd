import CCheck.Scope
import CCheck.Registry
import CCheck.Library
import CCheck.Diagnostic

/-! # The state of an analysis

What the rules read and change while a program is checked. A rule that fails keeps the
state it has reached, so that checking can go on with the next declaration or
statement. -/

set_option autoImplicit false

namespace CCheck

structure Flow where
 inLoop : Bool
 inSwitch : Bool
deriving DecidableEq, Repr

def Flow.outside : Flow := ⟨false,false⟩

structure SwitchFrame where
 type : CType
 hasDefault : Bool
 values : List Int64
deriving DecidableEq

structure FunctionContext where
 name : String
 ret : CType
 labels : List Symbol
 gotos : List Ident
 locals : List Symbol
 returns : List CType
deriving DecidableEq

def FunctionContext.start (name:String) (ret:CType) : FunctionContext :=
 ⟨name,ret,[],[],[],[]⟩

structure FunctionInfo where
 name : String
 type : CType
 locals : List Symbol
 returns : List CType
deriving DecidableEq

structure LibraryCall where
 name : String
 id : Nat
 span : Span
deriving DecidableEq, Repr

structure Checker where
 warnUnused : Bool
 symbols : SymbolTable
 records : Registry
 calls : List LibraryCall
 /-- The records of the specifiers defined so far, by the offset of the specifier:
 the declarators of one declaration share it. -/
 definedRecords : List (Nat × Nat)
 definedEnums : List Nat
 initialized : List String
 flow : Flow
 switches : List SwitchFrame
 function : Option FunctionContext
 functions : List FunctionInfo
 diagnostics : List Diagnostic
 errorCount : Nat
 warningCount : Nat
 lastMessage : Option String
deriving DecidableEq

namespace Checker

def start (warnUnused:Bool) : Checker :=
 { warnUnused,symbols := .start,records := .empty,calls := [],definedRecords := [],
   definedEnums := [],initialized := [],flow := .outside,switches := [],function := none,
   functions := [],diagnostics := [],errorCount := 0,warningCount := 0,
   lastMessage := none }

def report (c:Checker) (f:Fault) : Checker :=
 { c with
   errorCount := c.errorCount + 1
   lastMessage := some f.message
   diagnostics := c.diagnostics ++ [.ofFault f] }

def warn (c:Checker) (message:String) (span:Span) : Checker :=
 { c with
   warningCount := c.warningCount + 1
   diagnostics := c.diagnostics ++ [.warning message span] }

def isUnusedVariable (x:Symbol) : Bool := x.kind == .var && !x.isParam && !x.isUsed

def warnAboutUnused (c:Checker) (xs:List Symbol) : Checker :=
 if c.warnUnused then
  (xs.filter isUnusedVariable).foldl
   (fun c x => c.warn ("unused variable '" ++ x.name ++ "'") x.span) c
 else c

def keepLocals (c:Checker) (xs:List Symbol) : Checker :=
 { c with function := c.function.map fun f => { f with locals := f.locals ++ xs } }

def enterScope (c:Checker) : Checker := { c with symbols := c.symbols.enter }

def leaveScope (c:Checker) : Checker :=
 match c.symbols.exit? with
 | none => c
 | some (scope,symbols) =>
  ({ c with symbols }.warnAboutUnused scope.symbols).keepLocals scope.symbols

end Checker

/-- A checking step: it answers a result or a fault and keeps its state in both cases. -/
abbrev Check (α:Type) := EStateM Fault Checker α

namespace Check

def fail {α:Type} (cause:Cause) (span:Span) : Check α := throw ⟨cause,span⟩

def attempt {α:Type} (x:Check α) : Check (Except Fault α) := fun s =>
 match x s with
 | .ok a s => .ok (.ok a) s
 | .error f s => .ok (.error f) s

def reporting (x:Check Unit) : Check Unit := fun s =>
 match x s with
 | .ok _ s => .ok () s
 | .error f s => .ok () (s.report f)

def inScope {α:Type} (x:Check α) : Check α := fun s =>
 match x s.enterScope with
 | .ok a s => .ok a s.leaveScope
 | .error f s => .error f s.leaveScope

def withFlow {α:Type} (change:Flow → Flow) (x:Check α) : Check α := fun s =>
 match x { s with flow := change s.flow } with
 | .ok a s' => .ok a { s' with flow := s.flow }
 | .error f s' => .error f { s' with flow := s.flow }

def inSwitch {α:Type} (frame:SwitchFrame) (x:Check α) : Check α := fun s =>
 match x { s with switches := frame :: s.switches } with
 | .ok a s => .ok a { s with switches := s.switches.tail }
 | .error f s => .error f { s with switches := s.switches.tail }

def warn (message:String) (span:Span) : Check Unit := modify (·.warn message span)

def typeName (t:CType) : Check String := return (← get).records.typeName t

def lookup? (name:String) : Check (Option Symbol) := return (← get).symbols.lookup? name

def atFileScope : Check Bool := return (← get).symbols.level == 0

def isComplete (t:CType) : Check Bool := return (← get).records.isComplete t

def sizeOf (t:CType) (span:Span) : Check Nat := do
 match (← get).records.sizeOf? t with
 | some n => return n
 | none => fail (.incompleteType (← typeName t)) span

def updateSymbols (f:SymbolTable → Except Fault SymbolTable) : Check Unit := fun s =>
 match f s.symbols with
 | .ok symbols => .ok () { s with symbols }
 | .error e => .error e s

def declare (x:Symbol) : Check Unit := updateSymbols (·.declare x)

def declareTag (tag:Ident) (t:Tag) : Check Unit :=
 updateSymbols (·.declareTag tag.name t tag.span)

def newRecord (kind:RecordKind) (tag:Option String) : Check Nat := do
 let (id,records) := (← get).records.declare kind tag
 modify fun s => { s with records }
 return id

def newTaggedRecord (kind:RecordKind) (tag:Ident) : Check Nat := do
 let id ← newRecord kind (some tag.name)
 declareTag tag (.record id)
 return id

end Check

end CCheck
