import CCheck.Analysis.Declaration

/-! # Checking statements

A statement may jump only where its surroundings allow it. A fault ends the statement of
a block that it stands in, and the block goes on with the next. -/

set_option autoImplicit false

namespace CCheck

namespace Check

def updateFunction (f:FunctionContext → FunctionContext) : Check Unit :=
 modify fun s => { s with function := s.function.map f }

def updateSwitch (f:SwitchFrame → SwitchFrame) : Check Unit :=
 modify fun s => { s with switches := s.switches.modifyHead f }

def breakAllowed (span:Span) : Check Unit := do
 let flow := (← get).flow
 if flow.inLoop || flow.inSwitch then return () else fail .breakOutsideLoop span

def continueAllowed (span:Span) : Check Unit := do
 if (← get).flow.inLoop then return () else fail .continueOutsideLoop span

def loopBody {α:Type} (x:Check α) : Check α := withFlow ({ · with inLoop := true }) x

def switchStatement (e:Expr) (x:Check Unit) : Check Unit := do
 let t ← rvalue e
 if t.isInteger then
  inSwitch ⟨t.promote,false,[]⟩ (withFlow ({ · with inSwitch := true }) x)
 else fail (.nonIntegerSwitch (← typeName t)) e.span

def caseLabel (e:Expr) (span:Span) : Check Unit := do
 match (← get).switches.head? with
 | none => fail .caseOutsideSwitch span
 | some frame =>
  let t ← rvalue e
  if !t.isInteger then fail .notIntegerConstant e.span
  else
   let v ← evalConst e
   if t.promote ≠ frame.type then
    let message := "case value of type '" ++ (← typeName t)
     ++ "' does not match switch type '" ++ (← typeName frame.type) ++ "'"
    warn message e.span
   if frame.values.contains v then fail (.duplicateCase v) span
   else updateSwitch fun f => { f with values := v :: f.values }

def defaultLabel (span:Span) : Check Unit := do
 match (← get).switches.head? with
 | none => fail .defaultOutsideSwitch span
 | some frame =>
  if frame.hasDefault then fail .duplicateDefault span
  else updateSwitch fun f => { f with hasDefault := true }

def returnedType (f:FunctionContext) (e:Option Expr) (span:Span) : Check CType := do
 match e with
 | some e =>
  if f.ret.isVoid then
   let _ ← checkExpr e
   fail (.returnValueInVoid f.name) span
  else conversion f.ret e
 | none =>
  if f.ret.isVoid then return .void
  else fail (.missingReturnValue f.name (← typeName f.ret)) span

def returnStatement (e:Option Expr) (span:Span) : Check Unit := do
 match (← get).function with
 | none => return ()
 | some f =>
  let t ← returnedType f e span
  updateFunction fun f => { f with returns := f.returns ++ [t] }

def namedLabel (label:Ident) : Check Unit :=
 if label.name.isEmpty then fail .emptyLabel label.span else return ()

def gotoStatement (label:Ident) : Check Unit := do
 namedLabel label
 updateFunction fun f => { f with gotos := f.gotos ++ [label] }

def defineLabel (label:Ident) : Check Unit := do
 namedLabel label
 match (← get).function with
 | none => return ()
 | some f =>
  if f.labels.any (·.name == label.name) then fail (.duplicateLabel label.name) label.span
  else
   let symbol := Symbol.fresh label .label .void none true
   updateFunction fun f => { f with labels := f.labels ++ [symbol] }

def forInit : Option ForInit → Check Unit
 | none => return ()
 | some (.decls ds) => ds.forM checkDeclaration
 | some (.expr e) => do let _ ← checkExpr e

def forStatement (init:Option ForInit) (condition step:Option Expr) (x:Check Unit) :
  Check Unit :=
 inScope do
  forInit init
  if let some e := condition then test e
  if let some e := step then
   let _ ← checkExpr e
  loopBody x

end Check

open Check

mutual

def checkStmt : Stmt → Check Unit
 | .compound ss _ => inScope (checkStmts ss)
 | .decls ds _ => checkDeclarations ds
 | .expr e _ => do let _ ← checkExpr e
 | .ifElse c yes none _ => do
  test c
  checkStmt yes
 | .ifElse c yes (some no) _ => do
  test c
  checkStmt yes
  checkStmt no
 | .whileLoop c body _ => do
  test c
  loopBody (checkStmt body)
 | .doLoop body c _ => do
  loopBody (checkStmt body)
  test c
 | .forLoop init c step body _ => forStatement init c step (checkStmt body)
 | .switch e body _ => switchStatement e (checkStmt body)
 | .caseLabel e body span => do
  caseLabel e span
  checkStmt body
 | .defaultLabel body span => do
  defaultLabel span
  checkStmt body
 | .breakJump span => breakAllowed span
 | .continueJump span => continueAllowed span
 | .returnJump e span => returnStatement e span
 | .gotoJump label _ => gotoStatement label
 | .labeled label body _ => do
  defineLabel label
  checkStmt body
 | .empty _ => return ()
termination_by structural s => s

def checkStmts : List Stmt → Check Unit
 | [] => return ()
 | s :: ss => do
  reporting (checkStmt s)
  checkStmts ss

end

def checkBlock (b:Block) : Check Unit := inScope (checkStmts b.stmts)

end CCheck
