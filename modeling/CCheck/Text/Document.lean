import CCheck.Text.Quoted

/-! # Documents

Values of JSON and their two written forms: one without any blanks, and one with a line
for every entry, indented by two blanks a level. The order of the entries is kept. -/

set_option autoImplicit false

namespace CCheck.Text

inductive Document where
 | bool (b:Bool)
 | number (n:Nat)
 | string (s:String)
 | list (items:List Document)
 | object (entries:List (String × Document))

namespace Document

mutual

def compact : Document → String
 | bool b => if b then "true" else "false"
 | number n => toString n
 | string s => json s
 | list items => "[" ++ ",".intercalate (compactItems items) ++ "]"
 | object entries => "\x7b" ++ ",".intercalate (compactEntries entries) ++ "\x7d"
termination_by structural d => d

def compactItems : List Document → List String
 | [] => []
 | d :: ds => d.compact :: compactItems ds

def compactEntries : List (String × Document) → List String
 | [] => []
 | (name,d) :: es => (json name ++ ":" ++ d.compact) :: compactEntries es

end

def indent (n:Nat) : String := String.ofList (List.replicate (2 * n) ' ')

def bracketed (level:Nat) (left:String) (lines:List String) (right:String) : String :=
 if lines.isEmpty then left ++ right
 else
  left ++ "\n" ++ ",\n".intercalate (lines.map (indent (level + 1) ++ ·)) ++ "\n"
   ++ indent level ++ right

mutual

def pretty (level:Nat) : Document → String
 | list items => bracketed level "[" (prettyItems (level + 1) items) "]"
 | object entries => bracketed level "\x7b" (prettyEntries (level + 1) entries) "\x7d"
 | bool b => if b then "true" else "false"
 | number n => toString n
 | string s => json s
termination_by structural d => d

def prettyItems (level:Nat) : List Document → List String
 | [] => []
 | d :: ds => d.pretty level :: prettyItems level ds

def prettyEntries (level:Nat) : List (String × Document) → List String
 | [] => []
 | (name,d) :: es => (json name ++ ": " ++ d.pretty level) :: prettyEntries level es

end

end Document

end CCheck.Text
