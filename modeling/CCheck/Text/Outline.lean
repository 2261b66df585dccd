/-! # Outlines

A tree of named parts, written with one part a line and four blanks a level. Every part
of a node is followed by a comma; a node without parts is written on one line. -/

set_option autoImplicit false

namespace CCheck.Text

inductive Outline where
 | leaf (text:String)
 | fields (name:String) (parts:List (String × Outline))
 | tuple (name:String) (parts:List Outline)
 | list (items:List Outline)

namespace Outline

def margin (level:Nat) : String := String.ofList (List.replicate (4 * level) ' ')

def enclosed (level:Nat) (left:String) (lines:List String) (right:String) : String :=
 if lines.isEmpty then left ++ right
 else
  left ++ "\n" ++ String.join (lines.map fun l => margin (level + 1) ++ l ++ ",\n")
   ++ margin level ++ right

mutual

def text (level:Nat) : Outline → String
 | leaf s => s
 | fields name parts => enclosed level (name ++ " \x7b") (fieldTexts (level + 1) parts) "\x7d"
 | tuple name parts => enclosed level (name ++ "(") (texts (level + 1) parts) ")"
 | list items => enclosed level "[" (texts (level + 1) items) "]"
termination_by structural o => o

def texts (level:Nat) : List Outline → List String
 | [] => []
 | o :: os => o.text level :: texts level os

def fieldTexts (level:Nat) : List (String × Outline) → List String
 | [] => []
 | (name,o) :: os => (name ++ ": " ++ o.text level) :: fieldTexts level os

end

def nat (n:Nat) : Outline := leaf (toString n)

def bool (b:Bool) : Outline := leaf (if b then "true" else "false")

def node (name:String) (part:Outline) : Outline := tuple name [part]

def optional : Option Outline → Outline
 | some o => node "Some" o
 | none => leaf "None"

end Outline

end CCheck.Text
