import CCheck.Grammar.Expression

/-! # Initializers, declarations and statements, read from tokens -/

set_option autoImplicit false

namespace CCheck.Grammar

open CCheck.Parser

variable [Scoping]

def initializerItems (r:Reader) : Parser (List Initializer) :=
 loop (fun items => do
  if (← check .rbrace) || (← atEnd) then return .done items
  else
   if (← check .dot) || (← check .lbracket) then unsupported .designators
   let item : Initializer ← r .initializer
   if ← consume .comma then return .yield (items ++ [item])
   else return .done (items ++ [item])) []

def initializer (r:Reader) : Parser Initializer := do
 if ← check .lbrace then
  let start ← advance
  let items ← initializerItems r
  let _ ← expect .rbrace
  return .list items (start.span.merge (← previous))
 else return .expr (← assignment r)

/-- A declarator with its initializer. The name is declared before the initializer is
read, as a type name or as something else. -/
def initDeclarator (r:Reader) (start:Span) (specs:Specifiers) : Parser Declaration := do
 let d ← declarator r false
 match d.apply specs.type with
 | (none,_) => refuse .expectedIdent
 | (some name,type) =>
  if specs.storage = some .typedef then
   declareName name.name true
   return .typedef ⟨name,type,start.merge name.span⟩
  else
   declareName name.name false
   if type.isFunction then
    return .func ⟨name,type,specs.storage,specs.isInline,start.merge (← previous)⟩
   else
    let init : Option Initializer ←
     if ← consume .eq then some <$> initializer r else pure none
    return .var ⟨name,type,specs.storage,init,start.merge (← previous)⟩

def moreDeclarators (r:Reader) (start:Span) (specs:Specifiers) (first:Declaration) :
  Parser (List Declaration) := do
 let ds ← loop (fun ds => do
  if ← consume .comma then return .yield (ds ++ [← initDeclarator r start specs])
  else return .done ds) [first]
 let _ ← expect .semicolon
 return ds

def bareDeclaration (specs:Specifiers) : List Declaration :=
 match specs.type.form with
 | .record spec => [.record spec]
 | .enum spec => [.enum spec]
 | _ => []

def declaration (r:Reader) : Parser (List Declaration) := do
 let start ← here
 let specs ← specifiers r true
 if ← consume .semicolon then return bareDeclaration specs
 else
  let first ← initDeclarator r start specs
  moreDeclarators r start specs first

def blockItems (r:Reader) : Parser (List Stmt) :=
 loop (fun ss => do
  if (← check .rbrace) || (← atEnd) then return .done ss
  else
   let s : Stmt ← r .statement
   return .yield (ss ++ [s])) []

def block (r:Reader) : Parser Block := do
 let start ← expect .lbrace
 let ss ← Scoping.within (blockItems r)
 let _ ← expect .rbrace
 return ⟨ss,start.span.merge (← previous)⟩

def parenthesized (r:Reader) : Parser Expr := do
 let _ ← expect .lparen
 let e ← expression r
 let _ ← expect .rparen
 return e

def ifStatement (r:Reader) (start:Span) : Parser Stmt := do
 let _ ← advance
 let test ← parenthesized r
 let yes : Stmt ← r .statement
 if ← checkKeyword .kwElse then
  let _ ← advance
  let no : Stmt ← r .statement
  return .ifElse test yes (some no) (start.merge no.span)
 else return .ifElse test yes none (start.merge yes.span)

def whileStatement (r:Reader) (start:Span) : Parser Stmt := do
 let _ ← advance
 let test ← parenthesized r
 let body : Stmt ← r .statement
 return .whileLoop test body (start.merge body.span)

def doStatement (r:Reader) (start:Span) : Parser Stmt := do
 let _ ← advance
 let body : Stmt ← r .statement
 let _ ← expectKeyword .kwWhile
 let test ← parenthesized r
 let _ ← expect .semicolon
 return .doLoop body test (start.merge (← previous))

def forInit (r:Reader) : Parser (Option ForInit) := do
 if ← consume .semicolon then return none
 else if ← startsDeclaration (← kind) then return some (.decls (← declaration r))
 else
  let e ← expression r
  let _ ← expect .semicolon
  return some (.expr e)

def optionalUpTo (r:Reader) (p:Punctuator) : Parser (Option Expr) := do
 let e : Option Expr ← if ← check p then pure none else some <$> expression r
 let _ ← expect p
 return e

def forRest (r:Reader) (start:Span) : Parser Stmt := do
 let init ← forInit r
 let test ← optionalUpTo r .semicolon
 let step ← optionalUpTo r .rparen
 let body : Stmt ← r .statement
 return .forLoop init test step body (start.merge body.span)

def forStatement (r:Reader) (start:Span) : Parser Stmt := do
 let _ ← advance
 let _ ← expect .lparen
 Scoping.within (forRest r start)

def switchStatement (r:Reader) (start:Span) : Parser Stmt := do
 let _ ← advance
 let value ← parenthesized r
 let body : Stmt ← r .statement
 return .switch value body (start.merge body.span)

def caseStatement (r:Reader) (start:Span) : Parser Stmt := do
 let _ ← advance
 let value ← conditional r
 let _ ← expect .colon
 let body : Stmt ← r .statement
 return .caseLabel value body (start.merge body.span)

def defaultStatement (r:Reader) (start:Span) : Parser Stmt := do
 let _ ← advance
 let _ ← expect .colon
 let body : Stmt ← r .statement
 return .defaultLabel body (start.merge body.span)

def jump (s:Stmt) : Parser Stmt := do
 let _ ← advance
 let _ ← expect .semicolon
 return s

def returnStatement (r:Reader) (start:Span) : Parser Stmt := do
 let _ ← advance
 let value ← optionalUpTo r .semicolon
 return .returnJump value (start.merge (← previous))

def gotoStatement (start:Span) : Parser Stmt := do
 let _ ← advance
 let label ← ident
 let _ ← expect .semicolon
 return .gotoJump label (start.merge (← previous))

def labeledStatement (r:Reader) (start:Span) : Parser Stmt := do
 let label ← ident
 let _ ← advance
 let body : Stmt ← r .statement
 return .labeled label body (start.merge body.span)

def plainStatement (r:Reader) (start:Span) (k:TokenKind) : Parser Stmt := do
 if ← startsDeclaration k then
  let ds ← declaration r
  return .decls ds (start.merge (← previous))
 else
  let e ← expression r
  let _ ← expect .semicolon
  return .expr e (start.merge (← previous))

def statement (r:Reader) : Parser Stmt := do
 let t ← current
 match t.kind with
 | .punct .lbrace =>
  let b ← block r
  return .compound b.stmts b.span
 | .punct .semicolon =>
  let _ ← advance
  return .empty t.span
 | .keyword .kwIf => ifStatement r t.span
 | .keyword .kwWhile => whileStatement r t.span
 | .keyword .kwDo => doStatement r t.span
 | .keyword .kwFor => forStatement r t.span
 | .keyword .kwSwitch => switchStatement r t.span
 | .keyword .kwCase => caseStatement r t.span
 | .keyword .kwDefault => defaultStatement r t.span
 | .keyword .kwBreak => jump (.breakJump t.span)
 | .keyword .kwContinue => jump (.continueJump t.span)
 | .keyword .kwReturn => returnStatement r t.span
 | .keyword .kwGoto => gotoStatement t.span
 | .ident _ =>
  if ← peeks .colon then labeledStatement r t.span else plainStatement r t.span t.kind
 | k => plainStatement r t.span k

end CCheck.Grammar
