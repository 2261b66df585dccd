import CCheck.Grammar.Specifier

/-! # Declarators and type names, read from tokens -/

set_option autoImplicit false

namespace CCheck.Grammar

open CCheck.Parser

def starQualifiers : Parser Qualifiers :=
 loop (fun q => do
  match ← kind with
  | .keyword k =>
   match q.add? k with
   | some q =>
    let _ ← advance
    return .yield q
   | none => return .done q
  | _ => return .done q) .none

def stars : Parser (List (Qualifiers × Span)) :=
 loop (fun ps => do
  if ← check .star then
   let star ← advance
   let q ← starQualifiers
   return .yield (ps ++ [(q,star.span)])
  else return .done ps) []

def skipArrayQualifiers : Parser Unit :=
 loop (fun _ => do
  match ← kind with
  | .keyword .kwStatic | .keyword .kwConst | .keyword .kwVolatile | .keyword .kwRestrict =>
   let _ ← advance
   return .yield ()
  | _ => return .done ()) ()

def arraySize (r:Reader) : Parser (Option Expr × Bool) := do
 if ← check .rbracket then return (none,false)
 else if (← check .star) && (← peeks .rbracket) then
  let _ ← advance
  return (none,true)
 else
  let size : Expr ← r .assignment
  return (some size,!size.isSyntacticConstant)

def arraySuffix (r:Reader) : Parser Suffix := do
 let start ← advance
 skipArrayQualifiers
 let (size,vla) ← arraySize r
 let _ ← expect .rbracket
 return .array size vla (start.span.merge (← previous))

def parameterStorageAllowed : Option StorageClass → Bool
 | none | some .register => true
 | _ => false

def parameter (r:Reader) : Parser Param := do
 let start ← here
 let specs : Specifiers ← r (.specifiers true)
 if !parameterStorageAllowed specs.storage then
  throw ⟨.invalidSpecifier .parameterStorage,start⟩
 let d : Declarator ← r (.declarator true)
 let (name,type) := d.apply specs.type
 if let some n := name then declareName n.name false
 return ⟨name,type,start.merge (← previous)⟩

def parameters (r:Reader) : Parser (List Param × Bool) :=
 loop (fun (ps,variadic) => do
  if ← consume .ellipsis then return .done (ps,true)
  else
   let p ← parameter r
   if ← consume .comma then return .yield (ps ++ [p],variadic)
   else return .done (ps ++ [p],variadic)) ([],false)

variable [Scoping]

/-- The inside of a parameter list: `()` says nothing about the parameters, `(void)`
says that there are none. -/
def parameterClause (r:Reader) : Parser (List Param × Bool × Bool) := do
 if ← check .rparen then return ([],false,false)
 else if (← checkKeyword .kwVoid) && (← peeks .rparen) then
  let _ ← advance
  return ([],false,true)
 else
  let (ps,variadic) ← Scoping.within (parameters r)
  return (ps,variadic,true)

def functionSuffix (r:Reader) : Parser Suffix := do
 let start ← advance
 let (ps,variadic,prototyped) ← parameterClause r
 let _ ← expect .rparen
 return .function ps variadic prototyped (start.span.merge (← previous))

def suffixes (r:Reader) : Parser (List Suffix) :=
 loop (fun ss => do
  if ← check .lbracket then return .yield (ss ++ [← arraySuffix r])
  else if ← check .lparen then return .yield (ss ++ [← functionSuffix r])
  else return .done ss) []

/-- Does the parenthesis hold an inner declarator? In an abstract declarator it may be
a parameter list instead, which cannot begin with a star, a bracket, a parenthesis or a
name that is no type. -/
def startsNested (abstract:Bool) : Parser Bool := do
 if !abstract then return true
 match ← peek? with
 | some (.punct .star) | some (.punct .lparen) | some (.punct .lbracket) => return true
 | some (.ident name) => return !(← isTypeName name)
 | _ => return false

def declaratorCore (r:Reader) (abstract:Bool) : Parser (Option Ident × Option Declarator) := do
 match ← kind with
 | .ident _ => return (some (← ident),none)
 | .punct .lparen =>
  if ← startsNested abstract then
   let _ ← advance
   let inner : Declarator ← r (.declarator abstract)
   let _ ← expect .rparen
   return (none,some inner)
  else return (none,none)
 | _ => return (none,none)

def declarator (r:Reader) (abstract:Bool) : Parser Declarator := do
 let pointers ← stars
 let (name,nested) ← declaratorCore r abstract
 let ss ← suffixes r
 if !abstract && name.isNone && nested.isNone then refuse .expectedIdent
 return ⟨name,pointers,ss,nested⟩

def typeName (r:Reader) : Parser TypeExpr := do
 let specs ← specifiers r false
 let d ← declarator r true
 match d.apply specs.type with
 | (some name,_) =>
  throw ⟨.unexpectedToken "')'" ("identifier '" ++ name.name ++ "'"),name.span⟩
 | (none,type) => return type

end CCheck.Grammar
