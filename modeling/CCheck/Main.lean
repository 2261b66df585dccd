import CCheck.CommandLine

/-! # The program

Reads the file that the arguments name and prints the answer. -/

set_option autoImplicit false

open CCheck CCheck.CommandLine

def readFlaw : IO.Error → ReadFlaw
 | .permissionDenied .. => .denied
 | .inappropriateType .. => .directory
 | _ => .missing

def readContent (file:String) : IO (Except ReadFlaw ByteArray) := do
 try
  return .ok (← IO.FS.readBinFile file)
 catch e => return .error (readFlaw e)

def main (args:List String) : IO UInt32 := do
 let content ←
  match CommandLine.parse args with
  | .ok ⟨_,some file,_,_⟩ => readContent file
  | _ => pure (.error .missing)
 let outcome := CommandLine.run args fun _ => content
 IO.print outcome.stdout
 IO.eprint outcome.stderr
 return outcome.code.toUInt32
