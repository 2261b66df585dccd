import CCheck.Fault

/-! # Diagnostics

What a run has to say about a program: errors, made from faults, and warnings. -/

set_option autoImplicit false

namespace CCheck

inductive Severity where
 | error | warning
deriving DecidableEq, Repr

def Severity.word : Severity → String
 | error => "error"
 | warning => "warning"

def Stage.word : Stage → String
 | lexical => "lexical"
 | grammatical => "syntax"
 | semantic => "semantic"

structure Diagnostic where
 severity : Severity
 stage : Stage
 message : String
 line : UInt32
 column : UInt32
deriving DecidableEq, Repr

namespace Diagnostic

def ofFault (f:Fault) : Diagnostic := ⟨.error,f.stage,f.message,f.span.line,f.span.column⟩

def warning (message:String) (span:Span) : Diagnostic :=
 ⟨.warning,.semantic,message,span.line,span.column⟩

def isError (d:Diagnostic) : Bool := d.severity == .error

def text (d:Diagnostic) : String :=
 let place := if d.line = 0 then "" else toString d.line ++ ":" ++ toString d.column ++ ": "
 place ++ d.severity.word ++ ": " ++ d.message

end Diagnostic

end CCheck
