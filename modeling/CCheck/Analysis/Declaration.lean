import CCheck.Analysis.Initializer

/-! # Checking declarations

A declaration is checked in full before it changes the symbols. At file scope a variable
may be declared again with a compatible type, and a function in any scope. -/

set_option autoImplicit false

namespace CCheck

namespace Check

def updateLocal (name:String) (f:Symbol → Symbol) : Check Unit :=
 modify fun s => { s with symbols := s.symbols.updateLocal name f }

def sameEntity (old:Symbol) (kind:SymbolKind) (t:CType) (name:Ident) : Check Unit :=
 if old.kind ≠ kind then fail (.redeclaration name.name) name.span
 else if !old.type.compatible t then fail (.conflictingTypes name.name) name.span
 else return ()

def redeclareFunction (old:Symbol) (name:Ident) (t:CType) (hasBody:Bool) :
  Check Unit := do
 sameEntity old .func t name
 if old.isDefined && hasBody then fail (.redefinition name.name) name.span
 else
  updateLocal name.name fun x =>
   { x with
     type := if t.signature?.any (·.prototyped) then t else x.type
     isDefined := x.isDefined || hasBody }

def declareFunction (name:Ident) (t:CType) (storage:Option StorageClass)
  (hasBody:Bool) : Check Unit := do
 match (← get).symbols.lookupLocal? name.name with
 | some old => redeclareFunction old name t hasBody
 | none => declare (.fresh name .func t storage hasBody)

def markInitialized (name:String) : Check Unit :=
 modify fun s => { s with initialized := name :: s.initialized }

/-- Declares a variable of the file scope again; it can be initialized once. The first
length that is known is kept. -/
def redeclareVariable (old:Symbol) (name:Ident) (t:CType) (hasInit isDefined:Bool) :
  Check Unit := do
 sameEntity old .var t name
 if hasInit && (← get).initialized.contains name.name then
  fail (.redefinition name.name) name.span
 else
  if hasInit then markInitialized name.name
  updateLocal name.name fun x =>
   { x with
     type := if x.type.kind matches .array _ none _ then t else x.type
     isDefined := x.isDefined || isDefined }

def enterVariable (d:VarDecl) (t:CType) : Check Unit := do
 let isDefined := d.init.isSome || d.storage ≠ some .external
 let fresh := Symbol.fresh d.name .var t d.storage isDefined
 if ← atFileScope then
  match (← get).symbols.lookupLocal? d.name.name with
  | some old => redeclareVariable old d.name t d.init.isSome isDefined
  | none =>
   if d.init.isSome then markInitialized d.name.name
   declare fresh
 else declare fresh

def fileScopeStorage (d:VarDecl) : Check Unit := do
 if ← atFileScope then
  match d.storage with
  | some .auto | some .register =>
   let word := (d.storage.map (·.word)).getD ""
   fail (.invalidDeclaration (.storageAtFileScope word)) d.span
  | _ => return ()

def initializedType (d:VarDecl) (t:CType) : Check CType := do
 match d.init with
 | none => return t
 | some i =>
  if d.storage = some .external && !(← atFileScope) then
   badInitializer (.externInitialized d.name.name) i.span
  else checkInitializer t i

/-- A variable that is defined has a complete type; a length that is left out can be
given later at file scope only. -/
def definable (d:VarDecl) (t:CType) : Check Unit := do
 if d.storage ≠ some .external
   && ((t.isUnsizedArray && !(← atFileScope)) || !(← isComplete t)) then
  fail (.incompleteType (← typeName t)) d.name.span

def declareObject (d:VarDecl) (t:CType) : Check Unit := do
 if t.isVoid then fail (.voidVariable d.name.name) d.name.span
 else
  fileScopeStorage d
  let t ← initializedType d t
  definable d t
  enterVariable d t

def declareVariable (d:VarDecl) : Check Unit := do
 let t ← resolveType d.type
 if t.isFunction then
  if d.init.isSome then badInitializer (.functionInitialized d.name.name) d.span
  else declareFunction d.name t d.storage false
 else declareObject d t

def declareRecord (spec:RecordSpec) : Check Unit := do
 match spec.tag, spec.members with
 | some tag, none =>
  if ((← get).symbols.tagLocal? tag.name).isNone then
   let _ ← newTaggedRecord spec.kind tag
  else
   let _ ← resolveRecord spec
 | _, _ =>
  let _ ← resolveRecord spec

end Check

open Check

def checkDeclaration : Declaration → Check Unit
 | .var d => declareVariable d
 | .func d => do declareFunction d.name (← resolveType d.type) d.storage false
 | .record spec => declareRecord spec
 | .enum spec => resolveEnum spec
 | .typedef d => do
  declare (.fresh d.name .type (← resolveType d.type) (some .typedef) true)

def checkDeclarations : List Declaration → Check Unit
 | [] => return ()
 | d :: ds => do
  reporting (checkDeclaration d)
  checkDeclarations ds

end CCheck
