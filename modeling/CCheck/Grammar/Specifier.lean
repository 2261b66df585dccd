import CCheck.Grammar.Phrase

/-! # Declaration specifiers

Storage class, qualifiers, `inline` and the words that name a type, in any order. The
words of a base type form a multiset, which `SpecifierCounts.base` folds into the type
it names. -/

set_option autoImplicit false

namespace CCheck

structure SpecifierCounts where
 void : UInt8
 bool : UInt8
 char : UInt8
 short : UInt8
 int : UInt8
 long : UInt8
 float : UInt8
 double : UInt8
 signed : UInt8
 unsigned : UInt8
deriving DecidableEq, Repr

namespace SpecifierCounts

def zero : SpecifierCounts := ⟨0,0,0,0,0,0,0,0,0,0⟩

def total (c:SpecifierCounts) : UInt8 :=
 c.void + c.bool + c.char + c.short + c.int + c.long + c.float + c.double + c.signed + c.unsigned

def isEmpty (c:SpecifierCounts) : Bool := c.total == 0

def add? (c:SpecifierCounts) : Keyword → Option SpecifierCounts
 | .kwVoid => some { c with void := c.void + 1 }
 | .kwBool => some { c with bool := c.bool + 1 }
 | .kwChar => some { c with char := c.char + 1 }
 | .kwShort => some { c with short := c.short + 1 }
 | .kwInt => some { c with int := c.int + 1 }
 | .kwLong => some { c with long := c.long + 1 }
 | .kwFloat => some { c with float := c.float + 1 }
 | .kwDouble => some { c with double := c.double + 1 }
 | .kwSigned => some { c with signed := c.signed + 1 }
 | .kwUnsigned => some { c with unsigned := c.unsigned + 1 }
 | _ => none

def singles (c:SpecifierCounts) : List (UInt8 × String) :=
 [(c.void,"void"),(c.bool,"_Bool"),(c.char,"char"),(c.short,"short"),(c.int,"int"),
  (c.float,"float"),(c.double,"double"),(c.signed,"signed"),(c.unsigned,"unsigned")]

def combine (c:SpecifierCounts) : Option BaseType :=
 let isUnsigned := c.unsigned > 0
 if c.void > 0 then if c.total = 1 then some .void else none
 else if c.bool > 0 then if c.total = 1 then some .bool else none
 else if c.float > 0 then if c.total = 1 then some .float else none
 else if c.double > 0 then
  if c.long = 0 ∧ c.total = 1 then some .double
  else if c.long = 1 ∧ c.total = 2 then some .longDouble
  else none
 else if c.char > 0 then
  if c.total ≠ 1 + (c.signed + c.unsigned) then none
  else some (if c.signed > 0 then .schar else if isUnsigned then .uchar else .char)
 else if c.short > 0 then
  if c.long > 0 then none else some (if isUnsigned then .ushort else .short)
 else
  match c.long with
  | 0 => some (if isUnsigned then .uint else .int)
  | 1 => some (if isUnsigned then .ulong else .long)
  | _ => some (if isUnsigned then .ulongLong else .longLong)

def base (c:SpecifierCounts) : Except SpecifierFlaw BaseType :=
 if c.signed > 0 ∧ c.unsigned > 0 then .error .signedAndUnsigned
 else
  match c.singles.find? (·.1 > 1) with
  | some (_,word) => .error (.duplicate word)
  | none =>
   if c.long > 2 then .error .tooLong
   else
    match c.combine with
    | some b => .ok b
    | none => .error .combination

end SpecifierCounts

def Keyword.storageClass? : Keyword → Option StorageClass
 | kwAuto => some .auto
 | kwRegister => some .register
 | kwStatic => some .static
 | kwExtern => some .external
 | kwTypedef => some .typedef
 | _ => none

def Qualifiers.add? (q:Qualifiers) : Keyword → Option Qualifiers
 | .kwConst => some { q with isConst := true }
 | .kwVolatile => some { q with isVolatile := true }
 | .kwRestrict => some { q with isRestrict := true }
 | _ => Option.none

structure SpecifierState where
 storage : Option StorageClass
 isInline : Bool
 quals : Qualifiers
 counts : SpecifierCounts
 named : Option TypeForm

namespace SpecifierState

def start : SpecifierState := ⟨none,false,.none,.zero,none⟩

def hasType (s:SpecifierState) : Bool := s.named.isSome || !s.counts.isEmpty

end SpecifierState

namespace Grammar

open CCheck.Parser

def bitField : Parser Unit := do
 if ← check .colon then unsupported .bitFields

def member (r:Reader) (start:Span) (type:TypeExpr) : Parser (List Member) := do
 bitField
 let d : Declarator ← r (.declarator false)
 match d.apply type with
 | (some name,t) =>
  bitField
  return [⟨name,t,start.merge (← previous)⟩]
 | (none,_) => return []

def memberDeclaration (r:Reader) : Parser (List Member) := do
 let start ← here
 let specs : Specifiers ← r (.specifiers false)
 let members ← loop (fun ms => do
  let m ← member r start specs.type
  if ← consume .comma then return .yield (ms ++ m) else return .done (ms ++ m)) []
 let _ ← expect .semicolon
 return members

def memberList (r:Reader) : Parser (List Member) := do
 let members ← loop (fun ms => do
  if (← check .rbrace) || (← atEnd) then return .done ms
  else return .yield (ms ++ (← memberDeclaration r))) []
 let _ ← expect .rbrace
 return members

def braced {α:Type} (p:Parser α) : Parser (Option α) := do
 if ← consume .lbrace then return some (← p) else return none

def recordSpec (r:Reader) (kind:RecordKind) : Parser RecordSpec := do
 let start ← advance
 let tag ← ident?
 let members ← braced (memberList r)
 if tag.isNone && members.isNone then refuse .expectedIdent
 return ⟨kind,tag,members,start.span.merge (← previous)⟩

def enumerator (r:Reader) : Parser Enumerator := do
 let name ← ident
 let value : Option Expr ← if ← consume .eq then some <$> r .conditional else pure none
 declareName name.name false
 return ⟨name,value,name.span.merge (← previous)⟩

def enumeratorList (r:Reader) : Parser (List Enumerator) := do
 let items ← loop (fun es => do
  if (← check .rbrace) || (← atEnd) then return .done es
  else
   let e ← enumerator r
   if ← consume .comma then return .yield (es ++ [e]) else return .done (es ++ [e])) []
 let _ ← expect .rbrace
 return items

def enumSpec (r:Reader) : Parser EnumSpec := do
 let start ← advance
 let tag ← ident?
 let items ← braced (enumeratorList r)
 if tag.isNone && items.isNone then refuse .expectedIdent
 return ⟨tag,items,start.span.merge (← previous)⟩

def storageStep (allowed:Bool) (t:Token) (c:StorageClass) (s:SpecifierState) :
  Parser (ForInStep SpecifierState) := do
 if !allowed then throw ⟨.invalidSpecifier (.storageNotAllowed t.kind.text),t.span⟩
 if s.storage.isSome then throw ⟨.invalidSpecifier .severalStorageClasses,t.span⟩
 let _ ← advance
 return .yield { s with storage := some c }

def namedStep (t:Token) (s:SpecifierState) (p:Parser TypeForm) :
  Parser (ForInStep SpecifierState) := do
 if s.hasType then throw ⟨.invalidSpecifier .severalTypes,t.span⟩
 return .yield { s with named := some (← p) }

def wordStep (k:Keyword) (s:SpecifierState) : Parser (ForInStep SpecifierState) := do
 match s.quals.add? k, s.counts.add? k with
 | some q, _ =>
  let _ ← advance
  return .yield { s with quals := q }
 | none, some c =>
  let _ ← advance
  return .yield { s with counts := c }
 | none, none =>
  if k = .kwInline then
   let _ ← advance
   return .yield { s with isInline := true }
  else return .done s

def keywordStep (r:Reader) (allowed:Bool) (t:Token) (k:Keyword) (s:SpecifierState) :
  Parser (ForInStep SpecifierState) := do
 match k.storageClass? with
 | some c => storageStep allowed t c s
 | none =>
  match k with
  | .kwComplex | .kwImaginary => throw ⟨.unsupported (.typeWord k.text),t.span⟩
  | .kwStruct => namedStep t s (.record <$> recordSpec r .struct)
  | .kwUnion => namedStep t s (.record <$> recordSpec r .union)
  | .kwEnum => namedStep t s (.enum <$> enumSpec r)
  | k => wordStep k s

def specifierStep (r:Reader) (allowed:Bool) (s:SpecifierState) :
  Parser (ForInStep SpecifierState) := do
 let t ← current
 match t.kind with
 | .keyword k => keywordStep r allowed t k s
 | .ident name =>
  if !s.hasType && (← isTypeName name) then
   let _ ← advance
   return .yield { s with named := some (.named name) }
  else return .done s
 | _ => return .done s

def specifiedForm (s:SpecifierState) (span:Span) : Parser TypeForm := do
 match s.named with
 | some form =>
  if s.counts.isEmpty then return form
  else throw ⟨.invalidSpecifier .severalTypes,span⟩
 | none =>
  if s.counts.isEmpty then refuse .expectedType
  else
   match s.counts.base with
   | .ok b => return .base b
   | .error flaw => throw ⟨.invalidSpecifier flaw,span⟩

def specifiers (r:Reader) (storageAllowed:Bool) : Parser Specifiers := do
 let start ← here
 let s ← loop (specifierStep r storageAllowed) .start
 let span := start.merge (← previous)
 let form ← specifiedForm s span
 return ⟨s.storage,s.isInline,⟨form,s.quals,span⟩⟩

end Grammar

end CCheck
