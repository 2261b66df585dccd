/-! # Operators and punctuators

`all` lists the longer spellings first, so that the first one that fits at a place is
the longest one that does. -/

set_option autoImplicit false

namespace CCheck

inductive Punctuator where
 | ellipsis | shlEq | shrEq | arrow | plusPlus | minusMinus | shl | shr | le | ge
 | eqEq | ne | ampAmp | pipePipe | plusEq | minusEq | starEq | slashEq | percentEq
 | ampEq | pipeEq | caretEq | plus | minus | star | slash | percent | amp | pipe
 | caret | tilde | bang | eq | lt | gt | dot | question | colon | lparen | rparen
 | lbrace | rbrace | lbracket | rbracket | comma | semicolon
deriving DecidableEq, Repr

namespace Punctuator

def all : List Punctuator :=
 [.ellipsis,.shlEq,.shrEq,.arrow,.plusPlus,.minusMinus,.shl,.shr,.le,.ge,
  .eqEq,.ne,.ampAmp,.pipePipe,.plusEq,.minusEq,.starEq,.slashEq,.percentEq,
  .ampEq,.pipeEq,.caretEq,.plus,.minus,.star,.slash,.percent,.amp,.pipe,
  .caret,.tilde,.bang,.eq,.lt,.gt,.dot,.question,.colon,.lparen,.rparen,
  .lbrace,.rbrace,.lbracket,.rbracket,.comma,.semicolon]

def text : Punctuator → String
 | ellipsis => "..."
 | shlEq => "<<="
 | shrEq => ">>="
 | arrow => "->"
 | plusPlus => "++"
 | minusMinus => "--"
 | shl => "<<"
 | shr => ">>"
 | le => "<="
 | ge => ">="
 | eqEq => "=="
 | ne => "!="
 | ampAmp => "&&"
 | pipePipe => "||"
 | plusEq => "+="
 | minusEq => "-="
 | starEq => "*="
 | slashEq => "/="
 | percentEq => "%="
 | ampEq => "&="
 | pipeEq => "|="
 | caretEq => "^="
 | plus => "+"
 | minus => "-"
 | star => "*"
 | slash => "/"
 | percent => "%"
 | amp => "&"
 | pipe => "|"
 | caret => "^"
 | tilde => "~"
 | bang => "!"
 | eq => "="
 | lt => "<"
 | gt => ">"
 | dot => "."
 | question => "?"
 | colon => ":"
 | lparen => "("
 | rparen => ")"
 | lbrace => "\x7b"
 | rbrace => "\x7d"
 | lbracket => "["
 | rbracket => "]"
 | comma => ","
 | semicolon => ";"

def longest? (cs:List Char) : Option Punctuator :=
 all.find? fun p => p.text.toList.isPrefixOf cs

def isAssignment : Punctuator → Bool
 | eq | plusEq | minusEq | starEq | slashEq | percentEq | ampEq | pipeEq | caretEq
 | shlEq | shrEq => true
 | _ => false

def precedence? : Punctuator → Option Nat
 | pipePipe => some 1
 | ampAmp => some 2
 | pipe => some 3
 | caret => some 4
 | amp => some 5
 | eqEq | ne => some 6
 | lt | le | gt | ge => some 7
 | shl | shr => some 8
 | plus | minus => some 9
 | star | slash | percent => some 10
 | _ => none

theorem mem_all (p:Punctuator) : p ∈ all := by
 cases p <;> decide

theorem all_sorted_by_length :
  all.Pairwise fun p q => q.text.toList.length ≤ p.text.toList.length := by
 decide

end Punctuator

end CCheck
