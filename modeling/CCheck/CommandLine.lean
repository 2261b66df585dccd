import CCheck.Verdict
import CCheck.Tree.Outline

/-! # The command line

Reading the arguments, and the answer to a request once the file is read. A command may
stand after options and after a file; options may stand on both sides of it, and what
is said after it counts. -/

set_option autoImplicit false

namespace CCheck.CommandLine

inductive Format where
 | text | json
deriving DecidableEq, Repr

def Format.ofWord? : String → Option Format
 | "text" => some text
 | "json" => some json
 | _ => none

inductive Command where
 | check | tokens | ast | version
deriving DecidableEq, Repr

def Command.ofWord? : String → Option Command
 | "check" => some check
 | "tokens" => some tokens
 | "ast" => some ast
 | "version" => some version
 | _ => none

def Command.takesFile : Command → Bool
 | version => false
 | _ => true

inductive Stop where
 | usage
 | help
 | version
deriving DecidableEq, Repr

structure Level where
 format : Option Format
 quiet : Bool
 file : Option String
deriving DecidableEq, Repr

namespace Level

def start : Level := ⟨none,false,none⟩

def setFormat (l:Level) (word:String) : Except Stop Level :=
 match l.format, Format.ofWord? word with
 | none, some f => .ok { l with format := some f }
 | _, _ => .error .usage

def setQuiet (l:Level) : Except Stop Level :=
 if l.quiet then .error .usage else .ok { l with quiet := true }

def setFile (l:Level) (takesFile:Bool) (name:String) : Except Stop Level :=
 if l.file.isSome || !takesFile || name.isEmpty then .error .usage
 else .ok { l with file := some name }

end Level

structure Place where
 top : Bool
 takesFile : Bool
deriving DecidableEq, Repr

/-- An argument that is not a value: an option, the mark after which only files stand, or
a plain word. -/
inductive Argument where
 | format (word:Option String)
 | quiet
 | stop (s:Stop)
 | mark
 | word (w:String)
deriving DecidableEq, Repr

def after? (beginning s:String) : Option String :=
 if beginning.toList.isPrefixOf s.toList then
  some (String.ofList (s.toList.drop beginning.length))
 else none

def shortOption (top:Bool) : Char → Argument
 | 'h' => .stop .help
 | 'V' => .stop (if top then .version else .usage)
 | _ => .stop .usage

def classify (top:Bool) (s:String) : Argument :=
 match s with
 | "--" => .mark
 | "--format" => .format none
 | "--no-warn-unused" => .quiet
 | "--help" => .stop .help
 | "--version" => .stop (if top then .version else .usage)
 | s =>
  match after? "--format=" s with
  | some w => .format (some w)
  | none =>
   match s.toList with
   | '-' :: '-' :: _ => .stop .usage
   | '-' :: c :: _ => shortOption top c
   | _ => .word s

def helpOn : List String → Stop
 | [] => .help
 | [w] => if (Command.ofWord? w).isSome || w == "help" then .help else .usage
 | _ => .usage

def readFiles (p:Place) (l:Level) : List String → Except Stop Level
 | [] => .ok l
 | s :: ss =>
  match l.setFile p.takesFile s with
  | .error e => .error e
  | .ok l => readFiles p l ss

def readLevel (p:Place) (l:Level) :
  List String → Except Stop (Level × Option (Command × List String))
 | [] => .ok (l,none)
 | s :: ss =>
  match classify p.top s with
  | .stop e => .error e
  | .mark => (readFiles p l ss).map (·,none)
  | .quiet =>
   match l.setQuiet with
   | .error e => .error e
   | .ok l => readLevel p l ss
  | .format (some w) =>
   match l.setFormat w with
   | .error e => .error e
   | .ok l => readLevel p l ss
  | .format none =>
   match ss with
   | [] => .error .usage
   | w :: ss =>
    match l.setFormat w with
    | .error e => .error e
    | .ok l => readLevel p l ss
  | .word w =>
   match if p.top then Command.ofWord? w else none with
   | some c => .ok (l,some (c,ss))
   | none =>
    if p.top && w == "help" then .error (helpOn ss)
    else
     match l.setFile p.takesFile w with
     | .error e => .error e
     | .ok l => readLevel p l ss

structure Request where
 command : Command
 file : Option String
 format : Format
 warnUnused : Bool
deriving DecidableEq, Repr

def Request.ofLevels (c:Command) (outer inner:Level) : Request :=
 ⟨c,inner.file,(inner.format.orElse fun _ => outer.format).getD .text,
  !(outer.quiet || inner.quiet)⟩

def parse (args:List String) : Except Stop Request :=
 match readLevel ⟨true,true⟩ .start args with
 | .error e => .error e
 | .ok (outer,none) =>
  .ok ⟨.check,outer.file,outer.format.getD .text,!outer.quiet⟩
 | .ok (outer,some (c,args)) =>
  match readLevel ⟨false,c.takesFile⟩ .start args with
  | .error e => .error e
  | .ok (inner,_) =>
   if c.takesFile && inner.file.isNone then .error .usage
   else .ok (.ofLevels c outer inner)

inductive ReadFlaw where
 | missing
 | notADirectory
 | directory
 | denied
 | notText
deriving DecidableEq, Repr

def ReadFlaw.message : ReadFlaw → String
 | missing => "No such file or directory (os error 2)"
 | denied => "Permission denied (os error 13)"
 | notADirectory => "Not a directory (os error 20)"
 | directory => "Is a directory (os error 21)"
 | notText => "stream did not contain valid UTF-8"

structure Outcome where
 code : Nat
 stdout : String
 stderr : String
deriving DecidableEq, Repr

namespace Outcome

def printed (success:Bool) (stdout:String) : Outcome := ⟨if success then 0 else 1,stdout,""⟩

def failed (stderr:String) : Outcome := ⟨1,"",stderr⟩

end Outcome

def usageLine : String := "Usage: c99c <FILE> or c99c check <FILE>\n"

def versionLine : String := "c99c 0.1.0\n"

def versionText : String := versionLine ++ "C99 front-end\nLicense: Apache-2.0\n"

def padRight (width:Nat) (s:String) : String :=
 s ++ String.ofList (List.replicate (width - s.length) ' ')

def tokenLine (t:Token) : String :=
 padRight 8 t.span.text ++ " " ++ padRight 28 t.kind.describe ++ " " ++ t.text ++ "\n"

def checkFile (r:Request) (file source:String) : Outcome :=
 let report := (check source file r.warnUnused).report
 .printed report.success
  (match r.format with
   | .text => report.text
   | .json => report.document.pretty 0 ++ "\n")

def listTokens (file source:String) : Outcome :=
 let (ts,fault) := (Cursor.start source).listing
 let lines := String.join (ts.map tokenLine)
 match fault with
 | none => ⟨0,lines,""⟩
 | some f => ⟨1,lines,file ++ ":" ++ f.render ++ "\n"⟩

def printTree (file source:String) : Outcome :=
 match CCheck.parse source with
 | .ok u => ⟨0,u.outline.text 0 ++ "\n",""⟩
 | .error f => .failed (file ++ ":" ++ f.render ++ "\n")

def Request.work (r:Request) (file source:String) : Outcome :=
 match r.command with
 | .check => checkFile r file source
 | .tokens => listTokens file source
 | .ast => printTree file source
 | .version => ⟨0,versionText,""⟩

def unreadable (file:String) (flaw:ReadFlaw) : Outcome :=
 .failed ("error: failed to read " ++ file ++ ": " ++ flaw.message ++ "\n")

def Request.answer (r:Request) (content:Except ReadFlaw ByteArray) : Outcome :=
 match r.command, r.file with
 | .version, _ => ⟨0,versionText,""⟩
 | _, none => .failed ("Error: No input file specified\n" ++ usageLine)
 | _, some file =>
  match content with
  | .error flaw => unreadable file flaw
  | .ok bytes =>
   match String.fromUTF8? bytes with
   | none => unreadable file .notText
   | some source => r.work file source

def Stop.outcome : Stop → Outcome
 | usage => ⟨2,"","error: invalid arguments\n\n" ++ usageLine⟩
 | help => ⟨0,usageLine,""⟩
 | version => ⟨0,versionLine,""⟩

def run (args:List String) (read:String → Except ReadFlaw ByteArray) : Outcome :=
 match parse args with
 | .error s => s.outcome
 | .ok r => r.answer (read (r.file.getD ""))

end CCheck.CommandLine
