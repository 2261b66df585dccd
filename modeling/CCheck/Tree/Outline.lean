import CCheck.Tree
import CCheck.Text.Outline
import CCheck.Text.Quoted
import CCheck.Decimal.Layout

/-! # Outlines of trees

Every node of a tree as a named part of an outline, in the order of the grammar. -/

set_option autoImplicit false

namespace CCheck

open Text (Outline quoted)
open Text.Outline (leaf fields tuple list nat bool node optional)

def Span.outline (s:Span) : Outline :=
 fields "Span" [("start",nat s.start),("end",nat s.stop),("line",nat s.line.toNat),
  ("column",nat s.column.toNat)]

def Ident.outline (i:Ident) : Outline :=
 fields "Ident" [("name",leaf (quoted i.name)),("span",i.span.outline)]

def Ident.optionalOutline (i:Option Ident) : Outline := optional (i.map outline)

def Qualifiers.outline (q:Qualifiers) : Outline :=
 fields "Qualifiers" [("is_const",bool q.isConst),("is_volatile",bool q.isVolatile),
  ("is_restrict",bool q.isRestrict)]

def Radix.outline : Radix → Outline
 | decimal => leaf "Decimal"
 | octal => leaf "Octal"
 | hex => leaf "Hex"

def FloatSuffix.outline : FloatSuffix → Outline
 | plain => leaf "None"
 | float => leaf "Float"
 | long => leaf "Long"

def Literal.outline : Literal → Outline
 | int n span =>
  tuple "Int" [fields "IntLiteral" [("value",nat n.value.toNat),("radix",n.radix.outline),
   ("unsigned",bool n.isUnsigned),("long_count",nat n.longs)],span.outline]
 | float x span =>
  tuple "Float" [fields "FloatLiteral" [("value",leaf (Decimal.Layout.dump.text x.value)),
   ("suffix",x.suffix.outline)],span.outline]
 | char code span => tuple "Char" [nat code,span.outline]
 | string value span => tuple "String" [leaf (quoted value),span.outline]

def BinOp.outline : BinOp → Outline
 | add => leaf "Add"
 | sub => leaf "Sub"
 | mul => leaf "Mul"
 | div => leaf "Div"
 | mod => leaf "Mod"
 | eq => leaf "Eq"
 | ne => leaf "Ne"
 | lt => leaf "Lt"
 | le => leaf "Le"
 | gt => leaf "Gt"
 | ge => leaf "Ge"
 | and => leaf "And"
 | or => leaf "Or"
 | bitAnd => leaf "BitAnd"
 | bitOr => leaf "BitOr"
 | bitXor => leaf "BitXor"
 | shl => leaf "Shl"
 | shr => leaf "Shr"

def UnaryOp.outline : UnaryOp → Outline
 | neg => leaf "Neg"
 | plus => leaf "Plus"
 | not => leaf "Not"
 | bitNot => leaf "BitNot"
 | deref => leaf "Deref"
 | addrOf => leaf "AddrOf"
 | preInc => leaf "PreInc"
 | preDec => leaf "PreDec"
 | postInc => leaf "PostInc"
 | postDec => leaf "PostDec"

def AssignOp.outline (op:AssignOp) : Outline :=
 match op.binary? with
 | none => leaf "Assign"
 | some b => b.outline

def BaseType.outline : BaseType → Outline
 | void => leaf "Void"
 | bool => leaf "Bool"
 | char => leaf "Char"
 | schar => leaf "SChar"
 | uchar => leaf "UChar"
 | short => leaf "Short"
 | ushort => leaf "UShort"
 | int => leaf "Int"
 | uint => leaf "UInt"
 | long => leaf "Long"
 | ulong => leaf "ULong"
 | longLong => leaf "LongLong"
 | ulongLong => leaf "ULongLong"
 | float => leaf "Float"
 | double => leaf "Double"
 | longDouble => leaf "LongDouble"

def StorageClass.outline : StorageClass → Outline
 | auto => leaf "Auto"
 | register => leaf "Register"
 | static => leaf "Static"
 | external => leaf "Extern"
 | typedef => leaf "Typedef"

def RecordKind.outline : RecordKind → Outline
 | struct => leaf "Struct"
 | union => leaf "Union"

mutual

def Expr.outline : Expr → Outline
 | .literal l => node "Literal" l.outline
 | .ident i => node "Ident" i.outline
 | .binary op l r span =>
  fields "Binary" [("op",op.outline),("left",l.outline),("right",r.outline),
   ("span",span.outline)]
 | .unary op e span =>
  fields "Unary" [("op",op.outline),("operand",e.outline),("span",span.outline)]
 | .assign op target value span =>
  fields "Assign" [("op",op.outline),("target",target.outline),("value",value.outline),
   ("span",span.outline)]
 | .cond test yes no span =>
  fields "Conditional" [("cond",test.outline),("then_expr",yes.outline),
   ("else_expr",no.outline),("span",span.outline)]
 | .call callee args span =>
  fields "Call" [("callee",callee.outline),("args",list (Expr.outlines args)),
   ("span",span.outline)]
 | .index base index span =>
  fields "Index" [("base",base.outline),("index",index.outline),("span",span.outline)]
 | .member base member arrow span =>
  fields "Member" [("base",base.outline),("member",member.outline),("arrow",bool arrow),
   ("span",span.outline)]
 | .cast type e span =>
  fields "Cast" [("ty",type.outline),("expr",e.outline),("span",span.outline)]
 | .sizeofType type span =>
  fields "SizeofType" [("ty",type.outline),("span",span.outline)]
 | .sizeofExpr e span => fields "SizeofExpr" [("expr",e.outline),("span",span.outline)]
 | .comma l r span =>
  fields "Comma" [("left",l.outline),("right",r.outline),("span",span.outline)]
termination_by structural e => e

def Expr.outlines : List Expr → List Outline
 | [] => []
 | e :: es => e.outline :: Expr.outlines es

def Expr.optionalOutline : Option Expr → Outline
 | some e => node "Some" e.outline
 | none => leaf "None"

def TypeExpr.outline : TypeExpr → Outline
 | ⟨form,quals,span⟩ =>
  fields "TypeExpr" [("kind",form.outline),("quals",quals.outline),("span",span.outline)]

def TypeForm.outline : TypeForm → Outline
 | .base b => node "Base" b.outline
 | .record spec => node "Record" spec.outline
 | .enum spec => node "Enum" spec.outline
 | .named name => node "Typedef" (leaf (quoted name))
 | .pointer t => node "Pointer" t.outline
 | .array elem size vla =>
  fields "Array" [("elem",elem.outline),("size",Expr.optionalOutline size),
   ("vla",bool vla)]
 | .function ret params variadic prototyped =>
  fields "Function" [("ret",ret.outline),("params",list (Param.outlines params)),
   ("variadic",bool variadic),("prototyped",bool prototyped)]

def RecordSpec.outline : RecordSpec → Outline
 | ⟨kind,tag,members,span⟩ =>
  fields "RecordSpec" [("kind",kind.outline),("tag",Ident.optionalOutline tag),
   ("members",Member.optionalOutlines members),("span",span.outline)]

def Member.optionalOutlines : Option (List Member) → Outline
 | some ms => node "Some" (list (Member.outlines ms))
 | none => leaf "None"

def Member.outlines : List Member → List Outline
 | [] => []
 | ⟨name,type,span⟩ :: ms =>
  fields "Member" [("name",name.outline),("ty",type.outline),("span",span.outline)]
   :: Member.outlines ms

def EnumSpec.outline : EnumSpec → Outline
 | ⟨tag,enumerators,span⟩ =>
  fields "EnumSpec" [("tag",Ident.optionalOutline tag),
   ("enumerators",Enumerator.optionalOutlines enumerators),("span",span.outline)]

def Enumerator.optionalOutlines : Option (List Enumerator) → Outline
 | some es => node "Some" (list (Enumerator.outlines es))
 | none => leaf "None"

def Enumerator.outlines : List Enumerator → List Outline
 | [] => []
 | ⟨name,value,span⟩ :: es =>
  fields "Enumerator" [("name",name.outline),("value",Expr.optionalOutline value),
   ("span",span.outline)] :: Enumerator.outlines es

def Param.outlines : List Param → List Outline
 | [] => []
 | ⟨name,type,span⟩ :: ps =>
  fields "Param" [("name",Ident.optionalOutline name),("ty",type.outline),
   ("span",span.outline)] :: Param.outlines ps

end

mutual

def Initializer.outline : Initializer → Outline
 | .expr e => node "Expr" e.outline
 | .list items span =>
  fields "List" [("items",Outline.list (Initializer.outlines items)),("span",span.outline)]
termination_by structural i => i

def Initializer.outlines : List Initializer → List Outline
 | [] => []
 | i :: is => i.outline :: Initializer.outlines is

end

def StorageClass.optionalOutline (s:Option StorageClass) : Outline := optional (s.map outline)

def VarDecl.outline (d:VarDecl) : Outline :=
 fields "VarDecl" [("name",d.name.outline),("ty",d.type.outline),
  ("storage",StorageClass.optionalOutline d.storage),
  ("init",optional (d.init.map Initializer.outline)),("span",d.span.outline)]

def FunctionDecl.outline (d:FunctionDecl) (body:Option Outline) : Outline :=
 fields "FunctionDecl" [("name",d.name.outline),("ty",d.type.outline),
  ("storage",StorageClass.optionalOutline d.storage),("is_inline",bool d.isInline),
  ("body",optional body),("span",d.span.outline)]

def TypedefDecl.outline (d:TypedefDecl) : Outline :=
 fields "TypedefDecl" [("name",d.name.outline),("ty",d.type.outline),
  ("span",d.span.outline)]

def Declaration.outline : Declaration → Outline
 | var d => node "Variable" d.outline
 | func d => node "Function" (d.outline none)
 | record spec => node "Record" spec.outline
 | enum spec => node "Enum" spec.outline
 | typedef d => node "Typedef" d.outline

def Declaration.outlines (ds:List Declaration) : Outline := list (ds.map outline)

def ForInit.outline : ForInit → Outline
 | decls ds => node "Decl" (Declaration.outlines ds)
 | expr e => node "Expr" e.outline

def Block.outlineOf (stmts:List Outline) (span:Span) : Outline :=
 fields "Block" [("stmts",list stmts),("span",span.outline)]

mutual

def Stmt.outline : Stmt → Outline
 | .compound ss span => node "Compound" (Block.outlineOf (Stmt.outlines ss) span)
 | .decls ds span => fields "Decl" [("decls",Declaration.outlines ds),("span",span.outline)]
 | .expr e span => fields "Expr" [("expr",e.outline),("span",span.outline)]
 | .ifElse test yes no span =>
  fields "If" [("cond",test.outline),("then_branch",yes.outline),
   ("else_branch",Stmt.optionalOutline no),("span",span.outline)]
 | .whileLoop test body span =>
  fields "While" [("cond",test.outline),("body",body.outline),("span",span.outline)]
 | .doLoop body test span =>
  fields "DoWhile" [("body",body.outline),("cond",test.outline),("span",span.outline)]
 | .forLoop init test step body span =>
  fields "For" [("init",optional (init.map ForInit.outline)),
   ("cond",Expr.optionalOutline test),("step",Expr.optionalOutline step),
   ("body",body.outline),("span",span.outline)]
 | .switch e body span =>
  fields "Switch" [("expr",e.outline),("body",body.outline),("span",span.outline)]
 | .caseLabel value body span =>
  fields "Case" [("value",value.outline),("body",body.outline),("span",span.outline)]
 | .defaultLabel body span =>
  fields "Default" [("body",body.outline),("span",span.outline)]
 | .breakJump span => fields "Break" [("span",span.outline)]
 | .continueJump span => fields "Continue" [("span",span.outline)]
 | .returnJump value span =>
  fields "Return" [("value",Expr.optionalOutline value),("span",span.outline)]
 | .gotoJump label span => fields "Goto" [("label",label.outline),("span",span.outline)]
 | .labeled label body span =>
  fields "Labeled" [("label",label.outline),("body",body.outline),("span",span.outline)]
 | .empty span => fields "Empty" [("span",span.outline)]
termination_by structural s => s

def Stmt.outlines : List Stmt → List Outline
 | [] => []
 | s :: ss => s.outline :: Stmt.outlines ss

def Stmt.optionalOutline : Option Stmt → Outline
 | some s => node "Some" s.outline
 | none => leaf "None"

end

def Block.outline (b:Block) : Outline := outlineOf (Stmt.outlines b.stmts) b.span

def External.outline : External → Outline
 | declaration d => d.outline
 | definition head body => node "Function" (head.outline (some body.outline))

def ProgramUnit.outline (u:ProgramUnit) : Outline :=
 fields "TranslationUnit" [("decls",list (u.externals.map External.outline))]

end CCheck
