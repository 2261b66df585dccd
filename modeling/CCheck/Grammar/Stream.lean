import CCheck.Fault
import CCheck.Token
import CCheck.Tree

/-! # Reading tokens

A parser works on the tokens that are left and on the names that are known to be types.
It keeps both when it fails, so that reading can go on from there. The end of the text
can be looked at again and again but never passed. -/

set_option autoImplicit false

namespace CCheck

/-- The tokens of a text around a place: those passed, latest first, those left without
the end of file, and where the end of file stands. -/
structure TokenStream where
 passed : List Token
 rest : List Token
 finish : Span
deriving DecidableEq, Repr

namespace TokenStream

/-- The start of a token list. A list that does not end with an end of file gets one, at
its last token. -/
def ofTokens (ts:List Token) : TokenStream :=
 match ts.getLast? with
 | none => ⟨[],[],.nowhere⟩
 | some t => if t.kind.isEof then ⟨[],ts.dropLast,t.span⟩ else ⟨[],ts,t.span⟩

def current (s:TokenStream) : Token :=
 match s.rest with
 | t :: _ => t
 | [] => Token.eof s.finish

def peek? (s:TokenStream) : Option TokenKind :=
 match s.rest with
 | _ :: t :: _ => some t.kind
 | [_] => some .eof
 | [] => none

def advance (s:TokenStream) : TokenStream :=
 match s.rest with
 | t :: ts => ⟨t :: s.passed,ts,s.finish⟩
 | [] => s

def previous (s:TokenStream) : Span :=
 match s.passed with
 | t :: _ => t.span
 | [] => s.current.span

end TokenStream

/-- Names declared in one scope, the latest first; `true` marks a type name, `false` a
name that hides one. -/
abbrev NameScope := List (String × Bool)

structure TypeNames where
 scopes : List NameScope
deriving DecidableEq, Repr

namespace TypeNames

def start : TypeNames := ⟨[[]]⟩

def openScope (n:TypeNames) : TypeNames := ⟨[] :: n.scopes⟩

def closeScope (n:TypeNames) : TypeNames :=
 match n.scopes with
 | _ :: s :: ss => ⟨s :: ss⟩
 | _ => n

def declare (n:TypeNames) (name:String) (isType:Bool) : TypeNames :=
 match n.scopes with
 | s :: ss => ⟨((name,isType) :: s) :: ss⟩
 | [] => n

def isType (n:TypeNames) (name:String) : Bool :=
 (n.scopes.findSome? (·.lookup name)).getD false

end TypeNames

structure ParserState where
 stream : TokenStream
 names : TypeNames
deriving DecidableEq, Repr

def ParserState.ofTokens (ts:List Token) : ParserState := ⟨.ofTokens ts,.start⟩

abbrev Parser (α:Type) := EStateM Fault ParserState α

namespace Parser

def current : Parser Token := return (← get).stream.current

def kind : Parser TokenKind := return (← current).kind

def here : Parser Span := return (← current).span

def peek? : Parser (Option TokenKind) := return (← get).stream.peek?

def previous : Parser Span := return (← get).stream.previous

def advance : Parser Token := do
 let t ← current
 modify fun s => { s with stream := s.stream.advance }
 return t

def refuse {α:Type} (cause:String → Cause) : Parser α := do
 let t ← current
 throw ⟨cause t.kind.describe,t.span⟩

def unsupported {α:Type} (feature:Feature) : Parser α := do
 throw ⟨.unsupported feature,← here⟩

def check (p:Punctuator) : Parser Bool := return (← kind) == .punct p

def checkKeyword (k:Keyword) : Parser Bool := return (← kind) == .keyword k

def peeks (p:Punctuator) : Parser Bool := return (← peek?) == some (.punct p)

def atEnd : Parser Bool := return (← kind).isEof

def consume (p:Punctuator) : Parser Bool := do
 if ← check p then
  let _ ← advance
  return true
 else return false

def expectKind (k:TokenKind) : Parser Token := do
 if (← kind) == k then advance
 else refuse (.unexpectedToken ("'" ++ k.text ++ "'"))

def expect (p:Punctuator) : Parser Token := expectKind (.punct p)

def expectKeyword (k:Keyword) : Parser Token := expectKind (.keyword k)

def ident : Parser Ident := do
 match ← kind with
 | .ident name =>
  let t ← advance
  return ⟨name,t.span⟩
 | _ => refuse .expectedIdent

def ident? : Parser (Option Ident) := do
 match ← kind with
 | .ident _ => return some (← ident)
 | _ => return none

def declareName (name:String) (isType:Bool) : Parser Unit :=
 modify fun s => { s with names := s.names.declare name isType }

def isTypeName (name:String) : Parser Bool := return (← get).names.isType name

def startsTypeName : TokenKind → Parser Bool
 | .ident name => isTypeName name
 | k => return k.isTypeNameKeyword

def startsDeclaration : TokenKind → Parser Bool
 | .ident name => isTypeName name
 | k => return k.isDeclarationKeyword

def inScope {α:Type} (p:Parser α) : Parser α := fun s =>
 match p { s with names := s.names.openScope } with
 | .ok a s => .ok a { s with names := s.names.closeScope }
 | .error e s => .error e { s with names := s.names.closeScope }

def repeatUpTo {σ:Type} (step:σ → Parser (ForInStep σ)) : Nat → σ → Parser σ
 | 0, _ => refuse .expectedExpr
 | n + 1, a => do
  match ← step a with
  | .done b => return b
  | .yield b => repeatUpTo step n b

/-- Repeats a step until it is done. A step that asks for more passes a token, so the
number of tokens left bounds the repetition. -/
def loop {σ:Type} (step:σ → Parser (ForInStep σ)) (a:σ) : Parser σ := fun s =>
 repeatUpTo step (s.stream.rest.length + 1) a s

end Parser

/-- What the grammar does around a part with names of its own: a parameter list, a block,
the rest of a `for` statement and the body of a function. -/
class Scoping where
 within : {α:Type} → Parser α → Parser α

/-- A scope is opened for the part and closed however the part ends. -/
instance Scoping.closing : Scoping := ⟨Parser.inScope⟩

end CCheck
