import CCheck.Grammar.TypeName

/-! # Expressions, read from tokens

One rule for each level: comma, assignment, conditional, binary operators by
precedence, cast, unary, postfix, primary. -/

set_option autoImplicit false

namespace CCheck

def Punctuator.binary? : Punctuator → Option (BinOp × Nat)
 | pipePipe => some (.or,1)
 | ampAmp => some (.and,2)
 | pipe => some (.bitOr,3)
 | caret => some (.bitXor,4)
 | amp => some (.bitAnd,5)
 | eqEq => some (.eq,6)
 | ne => some (.ne,6)
 | lt => some (.lt,7)
 | le => some (.le,7)
 | gt => some (.gt,7)
 | ge => some (.ge,7)
 | shl => some (.shl,8)
 | shr => some (.shr,8)
 | plus => some (.add,9)
 | minus => some (.sub,9)
 | star => some (.mul,10)
 | slash => some (.div,10)
 | percent => some (.mod,10)
 | _ => none

theorem Punctuator.binary?_precedence (p:Punctuator) :
  p.binary?.map (·.2) = p.precedence? := by
 cases p <;> rfl

def Punctuator.assign? : Punctuator → Option AssignOp
 | eq => some .assign
 | plusEq => some .add
 | minusEq => some .sub
 | starEq => some .mul
 | slashEq => some .div
 | percentEq => some .mod
 | shlEq => some .shl
 | shrEq => some .shr
 | ampEq => some .bitAnd
 | pipeEq => some .bitOr
 | caretEq => some .bitXor
 | _ => none

def Punctuator.unary? : Punctuator → Option UnaryOp
 | plusPlus => some .preInc
 | minusMinus => some .preDec
 | amp => some .addrOf
 | star => some .deref
 | plus => some .plus
 | minus => some .neg
 | tilde => some .bitNot
 | bang => some .not
 | _ => none

namespace TokenKind

def binary? : TokenKind → Option (BinOp × Nat)
 | punct p => p.binary?
 | _ => none

def assign? : TokenKind → Option AssignOp
 | punct p => p.assign?
 | _ => none

def unary? : TokenKind → Option UnaryOp
 | punct p => p.unary?
 | _ => none

end TokenKind

namespace Grammar

open CCheck.Parser

def moreStrings (value:String) (span:Span) : Parser (String × Span) :=
 loop (fun (value,span) => do
  match ← kind with
  | .string next =>
   let t ← advance
   return .yield (value ++ next,span.merge t.span)
  | _ => return .done (value,span)) (value,span)

def primary (r:Reader) : Parser Expr := do
 let t ← current
 match t.kind with
 | .ident name =>
  let _ ← advance
  return .ident ⟨name,t.span⟩
 | .int n =>
  let _ ← advance
  return .literal (.int n t.span)
 | .float x =>
  let _ ← advance
  return .literal (.float x t.span)
 | .char code =>
  let _ ← advance
  return .literal (.char code t.span)
 | .string first =>
  let _ ← advance
  let (value,span) ← moreStrings first t.span
  return .literal (.string value span)
 | .punct .lparen =>
  let _ ← advance
  let inner : Expr ← r .expr
  let _ ← expect .rparen
  return inner
 | _ => refuse .expectedExpr

def arguments (r:Reader) : Parser (List Expr) := do
 if ← check .rparen then return []
 else
  loop (fun es => do
   let e : Expr ← r .assignment
   if ← consume .comma then return .yield (es ++ [e]) else return .done (es ++ [e])) []

def postfixStep (r:Reader) (e:Expr) : Parser (ForInStep Expr) := do
 match ← kind with
 | .punct .lparen =>
  let _ ← advance
  let args ← arguments r
  let _ ← expect .rparen
  return .yield (.call e args (e.span.merge (← previous)))
 | .punct .lbracket =>
  let _ ← advance
  let i : Expr ← r .expr
  let _ ← expect .rbracket
  return .yield (.index e i (e.span.merge (← previous)))
 | .punct .dot =>
  let _ ← advance
  let m ← ident
  return .yield (.member e m false (e.span.merge m.span))
 | .punct .arrow =>
  let _ ← advance
  let m ← ident
  return .yield (.member e m true (e.span.merge m.span))
 | .punct .plusPlus =>
  let _ ← advance
  return .yield (.unary .postInc e (e.span.merge (← previous)))
 | .punct .minusMinus =>
  let _ ← advance
  return .yield (.unary .postDec e (e.span.merge (← previous)))
 | _ => return .done e

def postfixed (r:Reader) : Parser Expr := do
 let e ← primary r
 loop (postfixStep r) e

def atParenthesizedType : Parser Bool := do
 if ← check .lparen then
  match ← peek? with
  | some k => startsTypeName k
  | none => return false
 else return false

variable [Scoping]

def sizeofOperand (r:Reader) (start:Span) : Parser Expr := do
 if ← atParenthesizedType then
  let _ ← advance
  let type ← typeName r
  let _ ← expect .rparen
  return .sizeofType type (start.merge (← previous))
 else
  let e : Expr ← r .unary
  return .sizeofExpr e (start.merge e.span)

def unaryOperand (r:Reader) : UnaryOp → Parser Expr
 | .preInc | .preDec => r .unary
 | _ => r .cast

def unary (r:Reader) : Parser Expr := do
 let t ← current
 match t.kind.unary? with
 | some op =>
  let _ ← advance
  let e ← unaryOperand r op
  return .unary op e (t.span.merge e.span)
 | none =>
  if t.kind == .keyword .kwSizeof then
   let _ ← advance
   sizeofOperand r t.span
  else postfixed r

def cast (r:Reader) : Parser Expr := do
 if ← atParenthesizedType then
  let start ← advance
  let type ← typeName r
  let _ ← expect .rparen
  if ← check .lbrace then unsupported .compoundLiterals
  let e : Expr ← r .cast
  return .cast type e (start.span.merge e.span)
 else unary r

/-- One binary operator that binds at least as tightly as `least`, with its right
operand, if there is one. -/
def binaryStep (r:Reader) (least:Nat) (left:Expr) : Parser (ForInStep Expr) := do
 match (← kind).binary? with
 | some (op,p) =>
  if p < least then return .done left
  else
   let _ ← advance
   let right : Expr ← r (.binary (p + 1))
   return .yield (.binary op left right (left.span.merge right.span))
 | none => return .done left

def binary (r:Reader) (least:Nat) : Parser Expr := do
 let left ← cast r
 loop (binaryStep r least) left

def conditional (r:Reader) : Parser Expr := do
 let test ← binary r 1
 if ← consume .question then
  let yes : Expr ← r .expr
  let _ ← expect .colon
  let no : Expr ← r .conditional
  return .cond test yes no (test.span.merge no.span)
 else return test

def assignment (r:Reader) : Parser Expr := do
 let target ← conditional r
 match (← kind).assign? with
 | some op =>
  let _ ← advance
  let value : Expr ← r .assignment
  return .assign op target value (target.span.merge value.span)
 | none => return target

def expression (r:Reader) : Parser Expr := do
 let first ← assignment r
 loop (fun left => do
  if ← consume .comma then
   let right ← assignment r
   return .yield (.comma left right (left.span.merge right.span))
  else return .done left) first

end Grammar

end CCheck
