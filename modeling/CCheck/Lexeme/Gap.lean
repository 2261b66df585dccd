/-! # What stands between tokens

Blanks, comments and directive lines separate tokens and mean nothing themselves. Each
function here measures one such item at the head of the remaining text. -/

set_option autoImplicit false

namespace CCheck.Lexeme

def isBlank (c:Char) : Bool :=
 c == ' ' || c == '\t' || c == '\r' || c == '\n' || c == '\x0b' || c == '\x0c'

def lineLength (cs:List Char) : Nat := (cs.takeWhile (· != '\n')).length

/-- The length of a directive, which ends before the first newline that no backslash
continues. -/
def directiveLength : List Char → Nat
 | [] => 0
 | '\\' :: '\n' :: cs => directiveLength cs + 2
 | '\\' :: '\r' :: '\n' :: cs => directiveLength cs + 3
 | c :: cs => if c = '\n' then 0 else directiveLength cs + 1

def commentLength? : List Char → Option Nat
 | [] => none
 | '*' :: '/' :: _ => some 2
 | _ :: cs => (commentLength? cs).map (· + 1)

inductive Gap where
 | absent
 | item (extra:Nat)
 | unclosed
deriving DecidableEq, Repr

def gap (fresh:Bool) : List Char → Gap
 | [] => .absent
 | c :: cs =>
  if isBlank c then .item 0
  else if c = '#' ∧ fresh then .item (directiveLength cs)
  else if c = '/' then
   match cs with
   | '/' :: _ => .item (lineLength cs)
   | '*' :: ds =>
    match commentLength? ds with
    | some n => .item (n + 1)
    | none => .unclosed
   | _ => .absent
  else .absent

end CCheck.Lexeme
