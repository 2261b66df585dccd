import CCheck.Grammar
import CCheck.Analysis
import CCheck.Report

/-! # Checking a source text

The whole way from a text to a report. A fault of spelling or grammar ends it at once;
faults of meaning are collected. -/

set_option autoImplicit false

namespace CCheck

structure Verdict where
 report : Report
 unit : Option ProgramUnit
 analysis : Option Analysis

namespace Verdict

def unread (r:Report) (f:Fault) : Verdict := ⟨r.push (.ofFault f),none,none⟩

def callEntry (c:LibraryCall) : CallEntry := ⟨c.name,c.id,c.span.line,c.span.column⟩

def stats (tokens:Nat) (a:Analysis) : Stats where
 tokens := tokens
 globals := (a.globals.filter (·.kind == .var)).length
 functions := a.functions.length
 records := a.records.size

def reportOf (file:String) (tokens:Nat) (a:Analysis) : Report :=
 { (Report.start file).pushAll a.diagnostics with
   calls := a.calls.map callEntry
   stats := stats tokens a }

end Verdict

def check (source file:String) (warnUnused:Bool) : Verdict :=
 match tokenize source with
 | .error f => .unread (.start file) f
 | .ok ts =>
  match parseTokens ts with
  | .error f => .unread { Report.start file with stats := ⟨ts.length,0,0,0⟩ } f
  | .ok u =>
   let a := ((Checker.start warnUnused).analyze u).analysis
   ⟨Verdict.reportOf file ts.length a,some u,some a⟩

end CCheck
