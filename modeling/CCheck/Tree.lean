import CCheck.Span
import CCheck.Token.Literal
import CCheck.CType.Basic
import CCheck.Tree.Operator

/-! # Trees of C programs

What the grammar makes of a program: expressions and types as they are written, and
the statements and declarations built from them. Every node has the span of the text it
came from. A function body can stand only at file scope, so a declaration inside a
block never has one. -/

set_option autoImplicit false

namespace CCheck

structure Ident where
 name : String
 span : Span
deriving DecidableEq, Repr

inductive Literal where
 | int (n:IntLiteral) (span:Span)
 | float (x:FloatLiteral) (span:Span)
 | char (code:Nat) (span:Span)
 | string (value:String) (span:Span)
deriving DecidableEq, Repr

def Literal.span : Literal → Span
 | int _ s | float _ s | char _ s | string _ s => s

inductive StorageClass where
 | auto | register | static | external | typedef
deriving DecidableEq, Repr

def StorageClass.word : StorageClass → String
 | auto => "auto"
 | register => "register"
 | static => "static"
 | external => "extern"
 | typedef => "typedef"

inductive BaseType where
 | void | bool | char | schar | uchar | short | ushort | int | uint | long | ulong
 | longLong | ulongLong | float | double | longDouble
deriving DecidableEq, Repr

mutual

inductive Expr where
 | literal (l:Literal)
 | ident (i:Ident)
 | binary (op:BinOp) (left right:Expr) (span:Span)
 | unary (op:UnaryOp) (operand:Expr) (span:Span)
 | assign (op:AssignOp) (target value:Expr) (span:Span)
 | cond (test yes no:Expr) (span:Span)
 | call (callee:Expr) (args:List Expr) (span:Span)
 | index (base index:Expr) (span:Span)
 | member (base:Expr) (member:Ident) (arrow:Bool) (span:Span)
 | cast (type:TypeExpr) (operand:Expr) (span:Span)
 | sizeofType (type:TypeExpr) (span:Span)
 | sizeofExpr (operand:Expr) (span:Span)
 | comma (left right:Expr) (span:Span)

structure TypeExpr where
 form : TypeForm
 quals : Qualifiers
 span : Span

inductive TypeForm where
 | base (b:BaseType)
 | record (spec:RecordSpec)
 | enum (spec:EnumSpec)
 | named (name:String)
 | pointer (target:TypeExpr)
 | array (elem:TypeExpr) (size:Option Expr) (vla:Bool)
 | function (ret:TypeExpr) (params:List Param) (variadic prototyped:Bool)

structure RecordSpec where
 kind : RecordKind
 tag : Option Ident
 members : Option (List Member)
 span : Span

structure Member where
 name : Ident
 type : TypeExpr
 span : Span

structure EnumSpec where
 tag : Option Ident
 enumerators : Option (List Enumerator)
 span : Span

structure Enumerator where
 name : Ident
 value : Option Expr
 span : Span

structure Param where
 name : Option Ident
 type : TypeExpr
 span : Span

end

namespace Expr

def span : Expr → Span
 | literal l => l.span
 | ident i => i.span
 | binary _ _ _ s | unary _ _ s | assign _ _ _ s | cond _ _ _ s | call _ _ s
 | index _ _ s | member _ _ _ s | cast _ _ s | sizeofType _ s | sizeofExpr _ s
 | comma _ _ s => s

def isSyntacticConstant : Expr → Bool
 | literal (.string ..) => false
 | literal _ => true
 | sizeofType .. => true
 | sizeofExpr .. => true
 | unary op e _ => op.isArithmetic && e.isSyntacticConstant
 | binary _ l r _ => l.isSyntacticConstant && r.isSyntacticConstant
 | cond c a b _ => c.isSyntacticConstant && a.isSyntacticConstant && b.isSyntacticConstant
 | cast _ e _ => e.isSyntacticConstant
 | _ => false
termination_by structural e => e

def isLvalue : Expr → Bool
 | ident _ | unary .deref _ _ | index .. | member .. => true
 | _ => false

end Expr

namespace TypeExpr

def isFunction (t:TypeExpr) : Bool := t.form matches .function ..

def params (t:TypeExpr) : List Param :=
 match t.form with
 | .function _ ps _ _ => ps
 | _ => []

end TypeExpr

inductive Initializer where
 | expr (e:Expr)
 | list (items:List Initializer) (span:Span)

def Initializer.span : Initializer → Span
 | expr e => e.span
 | list _ s => s

structure VarDecl where
 name : Ident
 type : TypeExpr
 storage : Option StorageClass
 init : Option Initializer
 span : Span

structure FunctionDecl where
 name : Ident
 type : TypeExpr
 storage : Option StorageClass
 isInline : Bool
 span : Span

structure TypedefDecl where
 name : Ident
 type : TypeExpr
 span : Span

inductive Declaration where
 | var (d:VarDecl)
 | func (d:FunctionDecl)
 | record (spec:RecordSpec)
 | enum (spec:EnumSpec)
 | typedef (d:TypedefDecl)

namespace Declaration

def span : Declaration → Span
 | var d => d.span
 | func d => d.span
 | record s => s.span
 | enum s => s.span
 | typedef d => d.span

def name? : Declaration → Option String
 | var d => some d.name.name
 | func d => some d.name.name
 | record s => s.tag.map (·.name)
 | enum s => s.tag.map (·.name)
 | typedef d => some d.name.name

end Declaration

inductive ForInit where
 | decls (ds:List Declaration)
 | expr (e:Expr)

inductive Stmt where
 | compound (stmts:List Stmt) (span:Span)
 | decls (ds:List Declaration) (span:Span)
 | expr (e:Expr) (span:Span)
 | ifElse (test:Expr) (yes:Stmt) (no:Option Stmt) (span:Span)
 | whileLoop (test:Expr) (body:Stmt) (span:Span)
 | doLoop (body:Stmt) (test:Expr) (span:Span)
 | forLoop (init:Option ForInit) (test step:Option Expr) (body:Stmt) (span:Span)
 | switch (value:Expr) (body:Stmt) (span:Span)
 | caseLabel (value:Expr) (body:Stmt) (span:Span)
 | defaultLabel (body:Stmt) (span:Span)
 | breakJump (span:Span)
 | continueJump (span:Span)
 | returnJump (value:Option Expr) (span:Span)
 | gotoJump (label:Ident) (span:Span)
 | labeled (label:Ident) (body:Stmt) (span:Span)
 | empty (span:Span)

def Stmt.span : Stmt → Span
 | compound _ s | decls _ s | expr _ s | ifElse _ _ _ s | whileLoop _ _ s | doLoop _ _ s
 | forLoop _ _ _ _ s | switch _ _ s | caseLabel _ _ s | defaultLabel _ s | breakJump s
 | continueJump s | returnJump _ s | gotoJump _ s | labeled _ _ s | empty s => s

structure Block where
 stmts : List Stmt
 span : Span

/-- What stands at file scope: a declaration, or a function with its body, whose span
covers both. -/
inductive External where
 | declaration (d:Declaration)
 | definition (head:FunctionDecl) (body:Block)

namespace External

def span : External → Span
 | declaration d => d.span
 | definition head _ => head.span

def name? : External → Option String
 | declaration d => d.name?
 | definition head _ => some head.name.name

end External

structure ProgramUnit where
 externals : List External

end CCheck
