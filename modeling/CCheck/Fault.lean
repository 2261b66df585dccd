import CCheck.Span

/-! # What can be wrong with a program

A fault is a cause at a place. Causes are grouped by the stage that can tell them:
spelling, grammar, meaning. `Cause.message` is the only place where they are worded. -/

set_option autoImplicit false

namespace CCheck

inductive NumberFlaw where
 | noHexDigits
 | noExponentDigits
 | octalDigit (c:Char)
 | integerSuffix (suffix:String)
 | floatSuffix (suffix:String)
deriving DecidableEq, Repr

def NumberFlaw.message : NumberFlaw → String
 | noHexDigits => "missing hexadecimal digits"
 | noExponentDigits => "exponent has no digits"
 | octalDigit c => "invalid digit '" ++ c.toString ++ "' in octal constant"
 | integerSuffix s => "invalid suffix '" ++ s ++ "' on integer constant"
 | floatSuffix s => "invalid suffix '" ++ s ++ "' on floating constant"

inductive SpecifierFlaw where
 | storageNotAllowed (word:String)
 | severalStorageClasses
 | severalTypes
 | signedAndUnsigned
 | duplicate (word:String)
 | tooLong
 | combination
 | parameterStorage
deriving DecidableEq, Repr

def SpecifierFlaw.message : SpecifierFlaw → String
 | storageNotAllowed w => "storage class '" ++ w ++ "' not allowed here"
 | severalStorageClasses => "multiple storage classes in declaration specifiers"
 | severalTypes => "two or more data types in declaration specifiers"
 | signedAndUnsigned => "both 'signed' and 'unsigned' in declaration specifiers"
 | duplicate w => "duplicate '" ++ w ++ "'"
 | tooLong => "'long long long' is too long"
 | combination => "invalid combination of type specifiers"
 | parameterStorage => "invalid storage class for parameter"

inductive Feature where
 | typeWord (word:String)
 | bitFields
 | compoundLiterals
 | designators
deriving DecidableEq, Repr

def Feature.message : Feature → String
 | typeWord w => "'" ++ w ++ "' types"
 | bitFields => "bit-field members"
 | compoundLiterals => "compound literals"
 | designators => "designated initializers"

inductive ArraySizeFlaw where
 | negative (n:Int64)
 | variableAtFileScope
 | nonInteger (type:String)
 | tooLarge
deriving DecidableEq, Repr

def ArraySizeFlaw.message : ArraySizeFlaw → String
 | negative n => "size " ++ toString n.toInt ++ " is negative"
 | variableAtFileScope => "variable length array at file scope"
 | nonInteger t => "size has non-integer type '" ++ t ++ "'"
 | tooLarge => "array is too large"

inductive InitializerFlaw where
 | functionInitialized (name:String)
 | externInitialized (name:String)
 | variableSized
 | stringTooLong
 | needsBraces
 | excess (what:String)
 | emptyScalar
deriving DecidableEq, Repr

def InitializerFlaw.message : InitializerFlaw → String
 | functionInitialized n => "function '" ++ n ++ "' is initialized like a variable"
 | externInitialized n => "'extern' variable '" ++ n ++ "' has an initializer"
 | variableSized => "variable-sized object may not be initialized"
 | stringTooLong => "initializer-string for array is too long"
 | needsBraces => "array must be initialized with a brace list"
 | excess what => "excess elements in " ++ what ++ " initializer"
 | emptyScalar => "empty scalar initializer"

inductive LayoutFlaw where
 | alreadyDefined
 | unknownRecord
 | incompleteMember (name:String)
 | tooLarge
deriving DecidableEq, Repr

def LayoutFlaw.message : LayoutFlaw → String
 | alreadyDefined => "record is already defined"
 | unknownRecord => "unknown record"
 | incompleteMember n => "member '" ++ n ++ "' has incomplete type"
 | tooLarge => "record is too large"

inductive DeclarationFlaw where
 | storageAtFileScope (word:String)
 | returnType (type:String)
 | layout (flaw:LayoutFlaw)
deriving DecidableEq, Repr

def DeclarationFlaw.message : DeclarationFlaw → String
 | storageAtFileScope w => "storage class '" ++ w ++ "' at file scope"
 | returnType t => "function cannot return '" ++ t ++ "'"
 | layout flaw => flaw.message

inductive Cause where
 | unterminatedComment
 | unterminatedString
 | unterminatedChar
 | emptyChar
 | invalidNumber (text:String) (flaw:NumberFlaw)
 | integerTooLarge (text:String)
 | unknownCharacter (c:Char)
 | unexpectedToken (expected got:String)
 | expectedIdent (got:String)
 | expectedType (got:String)
 | expectedExpr (got:String)
 | invalidSpecifier (flaw:SpecifierFlaw)
 | unsupported (feature:Feature)
 | undefinedIdent (name:String)
 | redeclaration (name:String)
 | redefinition (name:String)
 | conflictingTypes (name:String)
 | unknownTypeName (name:String)
 | typeMismatch (expected got:String)
 | invalidOperands (op left right:String)
 | invalidOperand (op operand:String)
 | argumentCount (name expected:String) (got:Nat)
 | argumentType (name:String) (index:Nat) (expected got:String)
 | notCallable (type:String)
 | notAnLvalue
 | readOnly (type:String)
 | notARecord (type:String)
 | unknownMember (member type:String)
 | duplicateMember (member:String)
 | incompleteType (type:String)
 | invalidCast (source target:String)
 | notIndexable (type:String)
 | nonScalarCondition (type:String)
 | breakOutsideLoop
 | continueOutsideLoop
 | caseOutsideSwitch
 | defaultOutsideSwitch
 | duplicateDefault
 | duplicateCase (value:Int64)
 | notIntegerConstant
 | nonIntegerSwitch (type:String)
 | returnValueInVoid (function:String)
 | missingReturnValue (function type:String)
 | emptyLabel
 | undefinedLabel (name:String)
 | duplicateLabel (name:String)
 | invalidArraySize (flaw:ArraySizeFlaw)
 | invalidInitializer (flaw:InitializerFlaw)
 | unnamedParameter (function:String)
 | voidVariable (name:String)
 | invalidDeclaration (flaw:DeclarationFlaw)
deriving DecidableEq, Repr

inductive Stage where
 | lexical | grammatical | semantic
deriving DecidableEq, Repr

namespace Cause

def stage : Cause → Stage
 | unterminatedComment | unterminatedString | unterminatedChar | emptyChar
 | invalidNumber .. | integerTooLarge .. | unknownCharacter .. => .lexical
 | unexpectedToken .. | expectedIdent .. | expectedType .. | expectedExpr ..
 | invalidSpecifier .. | unsupported .. => .grammatical
 | _ => .semantic

def message : Cause → String
 | unterminatedComment => "unterminated comment"
 | unterminatedString => "unterminated string literal"
 | unterminatedChar => "unterminated character literal"
 | emptyChar => "empty character literal"
 | invalidNumber text flaw => "invalid numeric literal '" ++ text ++ "': " ++ flaw.message
 | integerTooLarge text => "integer literal '" ++ text ++ "' is too large"
 | unknownCharacter c => "unknown character '" ++ c.toString ++ "'"
 | unexpectedToken expected got => "expected " ++ expected ++ ", got " ++ got
 | expectedIdent got => "expected identifier, got " ++ got
 | expectedType got => "expected type name, got " ++ got
 | expectedExpr got => "expected expression, got " ++ got
 | invalidSpecifier flaw => "invalid type specifier: " ++ flaw.message
 | unsupported feature => "unsupported construct: " ++ feature.message
 | undefinedIdent name => "undefined identifier '" ++ name ++ "'"
 | redeclaration name => "redeclaration of '" ++ name ++ "'"
 | redefinition name => "redefinition of '" ++ name ++ "'"
 | conflictingTypes name => "conflicting types for '" ++ name ++ "'"
 | unknownTypeName name => "unknown type name '" ++ name ++ "'"
 | typeMismatch expected got =>
  "incompatible types: expected '" ++ expected ++ "', got '" ++ got ++ "'"
 | invalidOperands op left right =>
  "invalid operands to '" ++ op ++ "' ('" ++ left ++ "' and '" ++ right ++ "')"
 | invalidOperand op operand =>
  "invalid operand to unary '" ++ op ++ "' ('" ++ operand ++ "')"
 | argumentCount name expected got =>
  "wrong number of arguments to '" ++ name ++ "': expected " ++ expected ++ ", got "
   ++ toString got
 | argumentType name index expected got =>
  "argument " ++ toString index ++ " of '" ++ name ++ "': expected '" ++ expected
   ++ "', got '" ++ got ++ "'"
 | notCallable type => "called object of type '" ++ type ++ "' is not a function"
 | notAnLvalue => "expression is not assignable (not an lvalue)"
 | readOnly type => "assignment to read-only location of type '" ++ type ++ "'"
 | notARecord type => "member access on non-record type '" ++ type ++ "'"
 | unknownMember member type => "no member named '" ++ member ++ "' in '" ++ type ++ "'"
 | duplicateMember member => "duplicate member '" ++ member ++ "'"
 | incompleteType type => "incomplete type '" ++ type ++ "'"
 | invalidCast source target =>
  "invalid cast from '" ++ source ++ "' to '" ++ target ++ "'"
 | notIndexable type =>
  "subscripted value of type '" ++ type ++ "' is not an array or pointer"
 | nonScalarCondition type => "condition has non-scalar type '" ++ type ++ "'"
 | breakOutsideLoop => "'break' statement not in loop or switch"
 | continueOutsideLoop => "'continue' statement not in loop"
 | caseOutsideSwitch => "'case' label not within a switch statement"
 | defaultOutsideSwitch => "'default' label not within a switch statement"
 | duplicateDefault => "multiple default labels in one switch"
 | duplicateCase value => "duplicate case value " ++ toString value.toInt
 | notIntegerConstant => "expression is not an integer constant"
 | nonIntegerSwitch type => "switch quantity has non-integer type '" ++ type ++ "'"
 | returnValueInVoid function =>
  "'return' with a value in function '" ++ function ++ "' returning void"
 | missingReturnValue function type =>
  "'return' without a value in function '" ++ function ++ "' returning '" ++ type ++ "'"
 | emptyLabel => "empty label name"
 | undefinedLabel name => "label '" ++ name ++ "' used but not defined"
 | duplicateLabel name => "duplicate label '" ++ name ++ "'"
 | invalidArraySize flaw => "invalid array size: " ++ flaw.message
 | invalidInitializer flaw => "invalid initializer: " ++ flaw.message
 | unnamedParameter function =>
  "parameter name omitted in definition of '" ++ function ++ "'"
 | voidVariable name => "variable '" ++ name ++ "' declared void"
 | invalidDeclaration flaw => "invalid declaration: " ++ flaw.message

end Cause

structure Fault where
 cause : Cause
 span : Span
deriving DecidableEq, Repr

namespace Fault

def message (f:Fault) : String := f.cause.message

def stage (f:Fault) : Stage := f.cause.stage

def render (f:Fault) : String := f.span.text ++ ": error: " ++ f.message

end Fault

end CCheck
