import CCheck.Proofs.Layout.Relocation

/-! # Expressions, printed as tokens

An operand is put into parentheses exactly where its level is below the one that its
position requires. -/

set_option autoImplicit false

namespace CCheck

inductive Level where
 | comma
 | assignment
 | conditional
 | binary (precedence:Nat)
 | cast
 | unary
 | postfixed
 | primary
deriving DecidableEq, Repr

/-- Levels in their order. A binary operator binds less tightly than a cast, so one more
than the highest precedence is the rank of a cast. -/
def Level.rank : Level → Nat
 | comma => 0
 | assignment => 1
 | conditional => 2
 | binary precedence => precedence + 2
 | cast => 13
 | unary => 14
 | postfixed => 15
 | primary => 16

/-! ### Operators -/

def BinOp.punct : BinOp → Punctuator
 | add => .plus
 | sub => .minus
 | mul => .star
 | div => .slash
 | mod => .percent
 | eq => .eqEq
 | ne => .ne
 | lt => .lt
 | le => .le
 | gt => .gt
 | ge => .ge
 | and => .ampAmp
 | or => .pipePipe
 | bitAnd => .amp
 | bitOr => .pipe
 | bitXor => .caret
 | shl => .shl
 | shr => .shr

def BinOp.precedence : BinOp → Nat
 | or => 1
 | and => 2
 | bitOr => 3
 | bitXor => 4
 | bitAnd => 5
 | eq | ne => 6
 | lt | le | gt | ge => 7
 | shl | shr => 8
 | add | sub => 9
 | mul | div | mod => 10

lemma BinOp.binary?_punct (op:BinOp) : op.punct.binary? = some (op,op.precedence) := by
 cases op <;> rfl

lemma BinOp.precedence_pos (op:BinOp) : 0 < op.precedence := by
 cases op <;> decide

lemma BinOp.precedence_le (op:BinOp) : op.precedence ≤ 10 := by
 cases op <;> decide

def AssignOp.punct : AssignOp → Punctuator
 | assign => .eq
 | add => .plusEq
 | sub => .minusEq
 | mul => .starEq
 | div => .slashEq
 | mod => .percentEq
 | shl => .shlEq
 | shr => .shrEq
 | bitAnd => .ampEq
 | bitOr => .pipeEq
 | bitXor => .caretEq

lemma AssignOp.assign?_punct (op:AssignOp) : op.punct.assign? = some op := by
 cases op <;> rfl

def UnaryOp.punct : UnaryOp → Punctuator
 | neg => .minus
 | plus => .plus
 | not => .bang
 | bitNot => .tilde
 | deref => .star
 | addrOf => .amp
 | preInc | postInc => .plusPlus
 | preDec | postDec => .minusMinus

def UnaryOp.follows : UnaryOp → Bool
 | postInc | postDec => true
 | _ => false

lemma UnaryOp.unary?_punct {op:UnaryOp} (h:op.follows = false) :
  op.punct.unary? = some op := by
 cases op with
 | postInc | postDec => cases h
 | _ => rfl

def UnaryOp.operandLevel : UnaryOp → Level
 | preInc | preDec => .unary
 | postInc | postDec => .postfixed
 | _ => .cast

lemma UnaryOp.operandLevel_of_follows {op:UnaryOp} (h:op.follows = true) :
  op.operandLevel = .postfixed := by
 cases op with
 | postInc | postDec => rfl
 | _ => cases h

def Expr.level : Expr → Level
 | literal _ | ident _ => .primary
 | call .. | index .. | member .. => .postfixed
 | unary op .. => if op.follows then .postfixed else .unary
 | sizeofType .. | sizeofExpr .. => .unary
 | cast .. => .cast
 | binary op .. => .binary op.precedence
 | cond .. => .conditional
 | assign .. => .assignment
 | comma .. => .comma

/-! ### Printing -/

def Literal.kind : Literal → TokenKind
 | int n _ => .int n
 | float x _ => .float x
 | char code _ => .char code
 | string value _ => .string value

def BaseType.keyword? : BaseType → Option Keyword
 | void => some .kwVoid
 | bool => some .kwBool
 | char => some .kwChar
 | short => some .kwShort
 | int => some .kwInt
 | uint => some .kwUnsigned
 | long => some .kwLong
 | float => some .kwFloat
 | double => some .kwDouble
 | _ => none

mutual

def TypeExpr.print : TypeExpr → List TokenKind
 | ⟨form,_,_⟩ => form.print
termination_by structural t => t

def TypeForm.print : TypeForm → List TokenKind
 | .base b => (b.keyword?.map TokenKind.keyword).toList
 | .pointer t => t.print ++ [.punct .star]
 | _ => []
termination_by structural f => f

end

def enclosed (required level:Level) (ts:List TokenKind) : List TokenKind :=
 if level.rank < required.rank then .punct .lparen :: (ts ++ [.punct .rparen]) else ts

mutual

def Expr.print : Expr → List TokenKind
 | .literal l => [l.kind]
 | .ident i => [.ident i.name]
 | .binary op l r _ =>
  enclosed (.binary op.precedence) l.level l.print ++
   .punct op.punct :: enclosed (.binary (op.precedence + 1)) r.level r.print
 | .unary op e _ =>
  if op.follows then enclosed op.operandLevel e.level e.print ++ [.punct op.punct]
  else .punct op.punct :: enclosed op.operandLevel e.level e.print
 | .assign op target value _ =>
  enclosed .conditional target.level target.print ++
   .punct op.punct :: enclosed .assignment value.level value.print
 | .cond test yes no _ =>
  enclosed (.binary 1) test.level test.print ++
   .punct .question :: (enclosed .comma yes.level yes.print ++
    .punct .colon :: enclosed .conditional no.level no.print)
 | .call callee args _ =>
  enclosed .postfixed callee.level callee.print ++
   .punct .lparen :: (Expr.printArgs args ++ [.punct .rparen])
 | .index base i _ =>
  enclosed .postfixed base.level base.print ++
   .punct .lbracket :: (enclosed .comma i.level i.print ++ [.punct .rbracket])
 | .member base m arrow _ =>
  enclosed .postfixed base.level base.print ++
   [.punct (if arrow then .arrow else .dot),.ident m.name]
 | .cast type e _ =>
  .punct .lparen :: (type.print ++ .punct .rparen :: enclosed .cast e.level e.print)
 | .sizeofType type _ =>
  .keyword .kwSizeof :: .punct .lparen :: (type.print ++ [.punct .rparen])
 | .sizeofExpr e _ => .keyword .kwSizeof :: enclosed .unary e.level e.print
 | .comma l r _ =>
  enclosed .comma l.level l.print ++ .punct .comma :: enclosed .assignment r.level r.print
termination_by structural e => e

def Expr.printArgs : List Expr → List TokenKind
 | [] => []
 | e :: es =>
  enclosed .assignment e.level e.print ++
   (if es.isEmpty then [] else .punct .comma :: Expr.printArgs es)
termination_by structural es => es

end

def Expr.printAt (required:Level) (e:Expr) : List TokenKind :=
 enclosed required e.level e.print

inductive TypeExpr.Simple : TypeExpr → Prop where
 | base {b:BaseType} {k:Keyword} {span:Span} (h:b.keyword? = some k) :
    TypeExpr.Simple ⟨.base b,.none,span⟩
 | pointer {t:TypeExpr} {span:Span} (h:t.Simple) : TypeExpr.Simple ⟨.pointer t,.none,span⟩

inductive Expr.Printable : Expr → Prop where
 | literal (l:Literal) : Printable (.literal l)
 | ident (i:Ident) : Printable (.ident i)
 | binary (op:BinOp) {l r:Expr} (span:Span) (hl:Printable l) (hr:Printable r) :
    Printable (.binary op l r span)
 | unary (op:UnaryOp) {e:Expr} (span:Span) (h:Printable e) :
    Printable (.unary op e span)
 | assign (op:AssignOp) {target value:Expr} (span:Span) (ht:Printable target)
    (hv:Printable value) : Printable (.assign op target value span)
 | cond {test yes no:Expr} (span:Span) (ht:Printable test) (hy:Printable yes)
    (hn:Printable no) : Printable (.cond test yes no span)
 | call {callee:Expr} {args:List Expr} (span:Span) (hc:Printable callee)
    (ha:∀ a ∈ args, Printable a) : Printable (.call callee args span)
 | index {base i:Expr} (span:Span) (hb:Printable base) (hi:Printable i) :
    Printable (.index base i span)
 | member {base:Expr} (m:Ident) (arrow:Bool) (span:Span) (hb:Printable base) :
    Printable (.member base m arrow span)
 | cast {type:TypeExpr} {e:Expr} (span:Span) (ht:type.Simple) (he:Printable e) :
    Printable (.cast type e span)
 | sizeofType {type:TypeExpr} (span:Span) (ht:type.Simple) :
    Printable (.sizeofType type span)
 | sizeofExpr {e:Expr} (span:Span) (he:Printable e) : Printable (.sizeofExpr e span)
 | comma {l r:Expr} (span:Span) (hl:Printable l) (hr:Printable r) :
    Printable (.comma l r span)

end CCheck
