import CCheck.CType.Basic
import CCheck.Fault

/-! # Structs and unions

The registry holds the structs and unions of a program by number. A record is declared
first and given its members later, which fixes its layout: every member of a struct
stands at the first multiple of its alignment after the member before it, every member
of a union at offset zero, and the size is a multiple of the alignment. -/

set_option autoImplicit false

namespace CCheck

structure Field where
 name : String
 type : CType
 offset : Nat
deriving DecidableEq

structure RecordDef where
 kind : RecordKind
 tag : Option String
 fields : Option (List Field)
 size : Nat
 align : Nat
deriving DecidableEq

namespace RecordDef

def isComplete (d:RecordDef) : Bool := d.fields.isSome

def field? (d:RecordDef) (name:String) : Option Field :=
 d.fields.bind (·.find? (·.name == name))

end RecordDef

structure Registry where
 records : List RecordDef
deriving DecidableEq

def maxObjectSize : Nat := 0x7fffffffffffffff

def alignUp? (value align:Nat) : Option Nat :=
 if align ≤ 1 then some value
 else if value + (align - 1) < UInt64.size then some ((value + (align - 1)) / align * align)
 else none

def objectSize? (n:Nat) : Option Nat := if n ≤ maxObjectSize then some n else none

namespace Registry

def empty : Registry := ⟨[]⟩

instance : Inhabited Registry := ⟨empty⟩

def size (r:Registry) : Nat := r.records.length

def get? (r:Registry) (id:Nat) : Option RecordDef := r.records[id]?

def declare (r:Registry) (kind:RecordKind) (tag:Option String) : Nat × Registry :=
 (r.records.length,⟨r.records ++ [⟨kind,tag,none,0,1⟩]⟩)

mutual

/-- The size in bytes. There is none for `void`, functions, incomplete records and
arrays that are too large; an array without a known length counts as empty. -/
def sizeOf? (r:Registry) : CType → Option Nat
 | ⟨k,_⟩ => r.kindSize? k
termination_by structural t => t

def kindSize? (r:Registry) : TypeKind → Option Nat
 | .void => none
 | .function _ => none
 | .bool => some 1
 | .int rank _ => some rank.size
 | .float kind => some kind.size
 | .pointer _ => some 8
 | .array elem length vla =>
  (r.sizeOf? elem).bind fun n =>
   match length, vla with
   | some m, false => objectSize? (n * m)
   | _, _ => some 0
 | .record id => (r.get? id).bind fun d => if d.isComplete then some d.size else none

end

mutual

def alignOf? (r:Registry) : CType → Option Nat
 | ⟨k,_⟩ => r.kindAlign? k
termination_by structural t => t

def kindAlign? (r:Registry) : TypeKind → Option Nat
 | .array elem _ _ => r.alignOf? elem
 | .record id => (r.get? id).bind fun d => if d.isComplete then some d.align else none
 | k => r.kindSize? k

end

mutual

def isComplete (r:Registry) : CType → Bool
 | ⟨k,_⟩ => r.kindIsComplete k
termination_by structural t => t

def kindIsComplete (r:Registry) : TypeKind → Bool
 | .void => false
 | .function _ => false
 | .array elem _ _ => r.isComplete elem
 | .record id => (r.get? id).any (·.isComplete)
 | _ => true

end

def member? (r:Registry) (t:CType) (name:String) : Option Field :=
 match t.kind with
 | .record id => (r.get? id).bind (·.field? name)
 | _ => none

/-- The members placed so far: `stop` is where the last one of a struct ends, `widest`
the size of the largest one. -/
structure Placement where
 fields : List Field
 stop : Nat
 widest : Nat
 align : Nat
deriving DecidableEq

def Placement.start : Placement := ⟨[],0,0,1⟩

def place (r:Registry) (kind:RecordKind) (p:Placement) (name:String) (type:CType) :
  Except LayoutFlaw Placement :=
 match r.sizeOf? type with
 | none => .error (.incompleteMember name)
 | some size =>
  let align := (r.alignOf? type).getD 1
  match kind with
  | .struct =>
   match alignUp? p.stop align with
   | none => .error .tooLarge
   | some offset =>
    match objectSize? (offset + size) with
    | none => .error .tooLarge
    | some stop =>
     .ok ⟨p.fields ++ [⟨name,type,offset⟩],stop,p.widest,max p.align align⟩
  | .union =>
   .ok ⟨p.fields ++ [⟨name,type,0⟩],p.stop,max p.widest size,max p.align align⟩

def placeAll (r:Registry) (kind:RecordKind) :
  Placement → List (String × CType) → Except LayoutFlaw Placement
 | p, [] => .ok p
 | p, (name,type) :: ms =>
  match r.place kind p name type with
  | .error e => .error e
  | .ok p => r.placeAll kind p ms

def Placement.extent (p:Placement) : RecordKind → Nat
 | .struct => p.stop
 | .union => p.widest

def complete (r:Registry) (id:Nat) (members:List (String × CType)) :
  Except LayoutFlaw Registry :=
 match r.get? id with
 | none => .error .unknownRecord
 | some d =>
  if d.isComplete then .error .alreadyDefined
  else
   match r.placeAll d.kind .start members with
   | .error e => .error e
   | .ok p =>
    match (alignUp? (p.extent d.kind) p.align).bind objectSize? with
    | none => .error .tooLarge
    | some size =>
     .ok ⟨r.records.set id { d with fields := some p.fields,size,align := p.align }⟩

/-! ### Completing a record in place -/

def placeInPlace (kind:RecordKind) :
  Placement → List (String × CType) → EStateM LayoutFlaw Registry Placement
 | p, [], r => .ok p r
 | p, (name,type) :: ms, r =>
  match r.place kind p name type with
  | .error e => .error e r
  | .ok p => placeInPlace kind p ms r

/-- The registry is read again for every member, and written once, after the last of them. -/
def completeInPlace (id:Nat) (members:List (String × CType)) :
  EStateM LayoutFlaw Registry Unit := fun r =>
 match r.get? id with
 | none => .error .unknownRecord r
 | some d =>
  if d.isComplete then .error .alreadyDefined r
  else
   match placeInPlace d.kind .start members r with
   | .error e r => .error e r
   | .ok p r =>
    match (alignUp? (p.extent d.kind) p.align).bind objectSize? with
    | none => .error .tooLarge r
    | some size =>
     .ok () ⟨r.records.set id { d with fields := some p.fields,size,align := p.align }⟩

section InPlace

variable {r r':Registry} {kind:RecordKind} {p q:Placement} {e:LayoutFlaw} {id:Nat}
 {members:List (String × CType)}

theorem placeInPlace_ok (h:r.placeAll kind p members = .ok q) :
  placeInPlace kind p members r = .ok q r := by
 induction members generalizing p with
 | nil =>
  cases h
  rfl
 | cons m members ih =>
  rw [placeAll] at h
  rw [placeInPlace]
  split at h
  · cases h
  · exact ih h

theorem placeInPlace_error (h:r.placeAll kind p members = .error e) :
  placeInPlace kind p members r = .error e r := by
 induction members generalizing p with
 | nil => cases h
 | cons m members ih =>
  rw [placeAll] at h
  rw [placeInPlace]
  split at h
  · cases h
    rfl
  · exact ih h

theorem completeInPlace_ok (h:r.complete id members = .ok r') :
  completeInPlace id members r = .ok () r' := by
 unfold complete at h
 unfold completeInPlace
 split at h
 · cases h
 · split at h
   · cases h
   · rename_i hopen
     rw [if_neg hopen]
     split at h
     · cases h
     · rename_i hp
       rw [placeInPlace_ok hp]
       dsimp only
       split at h <;> cases h
       rfl

theorem completeInPlace_error (h:r.complete id members = .error e) :
  completeInPlace id members r = .error e r := by
 unfold complete at h
 unfold completeInPlace
 split at h
 · cases h
   rfl
 · split at h
   · rename_i hcomplete
     cases h
     rw [if_pos hcomplete]
   · rename_i hopen
     rw [if_neg hopen]
     split at h
     · rename_i hp
       cases h
       rw [placeInPlace_error hp]
     · rename_i hp
       rw [placeInPlace_ok hp]
       dsimp only
       split at h <;> cases h
       rfl

end InPlace

end Registry

/-! ### Names of types -/

def TypeKind.intName : IntRank → String
 | .char => "char"
 | .short => "short"
 | .int => "int"
 | .long => "long"
 | .longLong => "long long"

def TypeKind.floatName : FloatKind → String
 | .float => "float"
 | .double => "double"
 | .longDouble => "long double"

def Qualifiers.before (q:Qualifiers) : String := if q.isEmpty then "" else q.text ++ " "

def Qualifiers.after (q:Qualifiers) : String := if q.isEmpty then "" else " " ++ q.text

def Signature.paramsText (names:List String) (variadic prototyped:Bool) : String :=
 let names := if variadic then names ++ ["..."] else names
 ", ".intercalate (if names.isEmpty && prototyped then ["void"] else names)

namespace Registry

mutual

def typeName (r:Registry) : CType → String
 | ⟨.void,q⟩ => q.before ++ "void"
 | ⟨.bool,q⟩ => q.before ++ "_Bool"
 | ⟨.int rank true,q⟩ => q.before ++ TypeKind.intName rank
 | ⟨.int rank false,q⟩ => q.before ++ "unsigned " ++ TypeKind.intName rank
 | ⟨.float kind,q⟩ => q.before ++ TypeKind.floatName kind
 | ⟨.pointer t,q⟩ => r.typeName t ++ " *" ++ q.after
 | ⟨.array elem (some n) false,_⟩ => r.typeName elem ++ " [" ++ toString n ++ "]"
 | ⟨.array elem _ true,_⟩ => r.typeName elem ++ " [*]"
 | ⟨.array elem none false,_⟩ => r.typeName elem ++ " []"
 | ⟨.function f,_⟩ => r.signatureName f
 | ⟨.record id,q⟩ =>
  match r.get? id with
  | some d => q.before ++ d.kind.word ++ " " ++ d.tag.getD "<anonymous>"
  | none => q.before ++ "<record>"
termination_by structural t => t

def signatureName (r:Registry) : Signature → String
 | ⟨ret,params,variadic,prototyped⟩ =>
  r.typeName ret ++ " (" ++ Signature.paramsText (r.typeNames params) variadic prototyped ++ ")"

def typeNames (r:Registry) : List CType → List String
 | [] => []
 | t :: ts => r.typeName t :: r.typeNames ts

end

end Registry

end CCheck
