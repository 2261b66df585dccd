import CCheck.Diagnostic
import CCheck.Text.Document

/-! # Reports

The result of checking one source file, as text and as a document. -/

set_option autoImplicit false

namespace CCheck

structure CallEntry where
 name : String
 id : Nat
 line : UInt32
 column : UInt32
deriving DecidableEq, Repr

structure Stats where
 tokens : Nat
 globals : Nat
 functions : Nat
 records : Nat
deriving DecidableEq, Repr

structure Report where
 success : Bool
 sourceFile : String
 errors : Nat
 warnings : Nat
 diagnostics : List Diagnostic
 calls : List CallEntry
 stats : Stats
deriving DecidableEq, Repr

namespace Report

def start (sourceFile:String) : Report := ⟨true,sourceFile,0,0,[],[],⟨0,0,0,0⟩⟩

def push (r:Report) (d:Diagnostic) : Report :=
 let r := { r with diagnostics := r.diagnostics ++ [d] }
 match d.severity with
 | .error => { r with errors := r.errors + 1,success := false }
 | .warning => { r with warnings := r.warnings + 1 }

def pushAll (r:Report) (ds:List Diagnostic) : Report := ds.foldl push r

def text (r:Report) : String :=
 let line (s:String) := r.sourceFile ++ ": " ++ s ++ "\n"
 String.join (r.diagnostics.map fun d => line d.text)
  ++ line (toString r.errors ++ " error(s), " ++ toString r.warnings ++ " warning(s)")

open Text (Document)

def diagnosticDocument (d:Diagnostic) : Document :=
 .object [("severity",.string d.severity.word),("stage",.string d.stage.word),
  ("message",.string d.message),("line",.number d.line.toNat),("column",.number d.column.toNat)]

def callDocument (c:CallEntry) : Document :=
 .object [("name",.string c.name),("id",.number c.id),("line",.number c.line.toNat),
  ("column",.number c.column.toNat)]

def statsDocument (s:Stats) : Document :=
 .object [("token_count",.number s.tokens),("global_count",.number s.globals),
  ("function_count",.number s.functions),("record_count",.number s.records)]

def document (r:Report) : Document :=
 .object [("success",.bool r.success),("source_file",.string r.sourceFile),
  ("errors",.number r.errors),("warnings",.number r.warnings),
  ("diagnostics",.list (r.diagnostics.map diagnosticDocument)),
  ("builtin_calls",.list (r.calls.map callDocument)),("stats",statsDocument r.stats)]

end Report

end CCheck
