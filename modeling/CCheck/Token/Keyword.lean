/-! # Reserved words

The thirty-seven words of C99 that no identifier may spell, in the order of the
standard's list. -/

set_option autoImplicit false

namespace CCheck

inductive Keyword where
 | kwAuto | kwBreak | kwCase | kwChar | kwConst | kwContinue | kwDefault | kwDo
 | kwDouble | kwElse | kwEnum | kwExtern | kwFloat | kwFor | kwGoto | kwIf
 | kwInline | kwInt | kwLong | kwRegister | kwRestrict | kwReturn | kwShort
 | kwSigned | kwSizeof | kwStatic | kwStruct | kwSwitch | kwTypedef | kwUnion
 | kwUnsigned | kwVoid | kwVolatile | kwWhile | kwBool | kwComplex | kwImaginary
deriving DecidableEq, Repr

namespace Keyword

def all : List Keyword :=
 [.kwAuto,.kwBreak,.kwCase,.kwChar,.kwConst,.kwContinue,.kwDefault,.kwDo,
  .kwDouble,.kwElse,.kwEnum,.kwExtern,.kwFloat,.kwFor,.kwGoto,.kwIf,
  .kwInline,.kwInt,.kwLong,.kwRegister,.kwRestrict,.kwReturn,.kwShort,
  .kwSigned,.kwSizeof,.kwStatic,.kwStruct,.kwSwitch,.kwTypedef,.kwUnion,
  .kwUnsigned,.kwVoid,.kwVolatile,.kwWhile,.kwBool,.kwComplex,.kwImaginary]

def text : Keyword → String
 | kwAuto => "auto"
 | kwBreak => "break"
 | kwCase => "case"
 | kwChar => "char"
 | kwConst => "const"
 | kwContinue => "continue"
 | kwDefault => "default"
 | kwDo => "do"
 | kwDouble => "double"
 | kwElse => "else"
 | kwEnum => "enum"
 | kwExtern => "extern"
 | kwFloat => "float"
 | kwFor => "for"
 | kwGoto => "goto"
 | kwIf => "if"
 | kwInline => "inline"
 | kwInt => "int"
 | kwLong => "long"
 | kwRegister => "register"
 | kwRestrict => "restrict"
 | kwReturn => "return"
 | kwShort => "short"
 | kwSigned => "signed"
 | kwSizeof => "sizeof"
 | kwStatic => "static"
 | kwStruct => "struct"
 | kwSwitch => "switch"
 | kwTypedef => "typedef"
 | kwUnion => "union"
 | kwUnsigned => "unsigned"
 | kwVoid => "void"
 | kwVolatile => "volatile"
 | kwWhile => "while"
 | kwBool => "_Bool"
 | kwComplex => "_Complex"
 | kwImaginary => "_Imaginary"

def ofText? (s:String) : Option Keyword := all.find? (·.text == s)

def isStorageOrInline : Keyword → Bool
 | kwAuto | kwRegister | kwStatic | kwExtern | kwTypedef | kwInline => true
 | _ => false

def startsTypeName : Keyword → Bool
 | kwVoid | kwChar | kwShort | kwInt | kwLong | kwFloat | kwDouble | kwSigned
 | kwUnsigned | kwBool | kwComplex | kwImaginary | kwStruct | kwUnion | kwEnum
 | kwConst | kwVolatile | kwRestrict => true
 | _ => false

def startsDeclaration (k:Keyword) : Bool := k.startsTypeName || k.isStorageOrInline

theorem mem_all (k:Keyword) : k ∈ all := by
 cases k <;> decide

end Keyword

end CCheck
