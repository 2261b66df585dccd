import CCheck.Scanner
import CCheck.Grammar.Statement

/-! # The grammar

`Grammar.rule` is one step of reading a phrase; `Grammar.read` ties the rules together.
Every rule passes a token before it reads an inner phrase, so that phrases nest no
deeper than there are tokens left, and a depth of one more than that is never used up. -/

set_option autoImplicit false

namespace CCheck

namespace Grammar

open CCheck.Parser

variable [Scoping]

def rule (r:Reader) : (p:Phrase) → Parser p.Tree
 | .expr => expression r
 | .assignment => assignment r
 | .conditional => conditional r
 | .binary least => binary r least
 | .cast => cast r
 | .unary => unary r
 | .specifiers storageAllowed => specifiers r storageAllowed
 | .declarator abstract => declarator r abstract
 | .initializer => initializer r
 | .statement => statement r

def read (depth:Nat) (p:Phrase) : Parser p.Tree :=
 match depth with
 | 0 => refuse .expectedExpr
 | depth + 1 => rule (read depth) p

def paramsAndBlock (r:Reader) (type:TypeExpr) : Parser Block := do
 type.params.forM fun p => do
  if let some n := p.name then declareName n.name false
 block r

def functionBody (r:Reader) (type:TypeExpr) : Parser Block :=
 Scoping.within (paramsAndBlock r type)

def externalDeclaration (r:Reader) : Parser (List External) := do
 let start ← here
 let specs ← specifiers r true
 if ← consume .semicolon then return (bareDeclaration specs).map .declaration
 else
  let first ← initDeclarator r start specs
  match first with
  | .func head =>
   if ← check .lbrace then
    let body ← functionBody r head.type
    return [.definition { head with span := start.merge body.span } body]
   else return (← moreDeclarators r start specs first).map .declaration
  | _ => return (← moreDeclarators r start specs first).map .declaration

def externals (r:Reader) : Parser (List External) :=
 loop (fun es => do
  if ← atEnd then return .done es
  else if ← consume .semicolon then return .yield es
  else return .yield (es ++ (← externalDeclaration r))) []

def withReader {α:Type} (p:Reader → Parser α) : Parser α := fun s =>
 p (read (s.stream.rest.length + 1)) s

end Grammar

def Parser.unit [Scoping] : Parser ProgramUnit := Grammar.withReader fun r => do
 return ⟨← Grammar.externals r⟩

def Parser.expr [Scoping] : Parser Expr := Grammar.withReader Grammar.expression

def parseTokens (ts:List Token) : Except Fault ProgramUnit :=
 match Parser.unit (.ofTokens ts) with
 | .ok u _ => .ok u
 | .error f _ => .error f

def parse (source:String) : Except Fault ProgramUnit :=
 match tokenize source with
 | .error f => .error f
 | .ok ts => parseTokens ts

end CCheck
