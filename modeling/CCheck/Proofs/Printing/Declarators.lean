import CCheck.Proofs.Layout.Declarators
import CCheck.Proofs.Printing.RoundTrip

/-! # Types, printed as declarators

A type is printed around a name from the inside out: stars go before what has been printed, brackets
and parameter lists after it, and stars that a suffix follows into parentheses. -/

set_option autoImplicit false

namespace CCheck

/-! ### Printing -/

def TypeExpr.base : TypeExpr → TypeExpr
 | ⟨.pointer t,_,_⟩ => t.base
 | ⟨.array t _ _,_,_⟩ => t.base
 | ⟨.function t _ _ _,_,_⟩ => t.base
 | t => t
termination_by structural t => t

def TypeExpr.printBase (t:TypeExpr) : List TokenKind :=
 match t.base with
 | ⟨.base b,q,_⟩ => q.print ++ b.print
 | _ => []

def printName (name:Option Ident) : List TokenKind :=
 (name.map fun i => TokenKind.ident i.name).toList

def inParens (ts:List TokenKind) : List TokenKind :=
 .punct .lparen :: (ts ++ [.punct .rparen])

def beforeSuffix (starred:Bool) (ts:List TokenKind) : List TokenKind :=
 if starred then inParens ts else ts

def printStar (q:Qualifiers) : List TokenKind := .punct .star :: q.print

def printSize (size:Option Expr) (vla:Bool) : List TokenKind :=
 match size with
 | some e => e.printAt .assignment
 | none => if vla then [.punct .star] else []

def printArray (size:Option Expr) (vla:Bool) : List TokenKind :=
 .punct .lbracket :: (printSize size vla ++ [.punct .rbracket])

def printParams (params:List (List TokenKind)) (variadic:Bool) : List TokenKind :=
 [.punct .comma].intercalate (params ++ if variadic then [[.punct .ellipsis]] else [])

/-- What stands between the parentheses of a function: nothing if it has no prototype, `void`
if it has no parameters. -/
def printClause (params:List (List TokenKind)) (variadic prototyped:Bool) : List TokenKind :=
 if !prototyped then []
 else if params.isEmpty && !variadic then [.keyword .kwVoid]
 else printParams params variadic

def printFunction (params:List (List TokenKind)) (variadic prototyped:Bool) :
  List TokenKind :=
 inParens (printClause params variadic prototyped)

mutual

def TypeExpr.printAround : TypeExpr → Bool → List TokenKind → List TokenKind
 | ⟨.pointer t,q,_⟩, _, inner => t.printAround true (printStar q ++ inner)
 | ⟨.array t size vla,_,_⟩, starred, inner =>
  t.printAround false (beforeSuffix starred inner ++ printArray size vla)
 | ⟨.function t params variadic prototyped,_,_⟩, starred, inner =>
  t.printAround false
   (beforeSuffix starred inner ++ printFunction (Param.printAll params) variadic prototyped)
 | _, _, inner => inner
termination_by structural t => t

def Param.print : Param → List TokenKind
 | ⟨name,type,_⟩ => type.printBase ++ type.printAround false (printName name)
termination_by structural p => p

def Param.printAll : List Param → List (List TokenKind)
 | [] => []
 | p :: ps => p.print :: Param.printAll ps
termination_by structural ps => ps

end

def TypeExpr.printDeclaration (t:TypeExpr) (name:String) : List TokenKind :=
 t.printBase ++ t.printAround false [.ident name] ++ [.punct .semicolon]

inductive PlainSize : Option Expr → Bool → Prop where
 | missing : PlainSize none false
 | star : PlainSize none true
 | literal (n:IntLiteral) (span:Span) : PlainSize (some (.literal (.int n span))) false

def Param.IsVoid (p:Param) : Prop := ∃ s s', p = ⟨none,⟨.base .void,.none,s⟩,s'⟩

def IsVoidClause (params:List Param) (variadic:Bool) : Prop :=
 variadic = false ∧ ∃ p : Param, params = [p] ∧ p.IsVoid

inductive PlainClause : List Param → Bool → Bool → Prop where
 | unprototyped : PlainClause [] false false
 | prototype {params:List Param} {variadic:Bool} (h:¬IsVoidClause params variadic) :
    PlainClause params variadic true

/-- Types built from base types by pointers, arrays and functions. -/
inductive TypeExpr.Declarable : TypeExpr → Prop where
 | base (b:BaseType) (q:Qualifiers) (span:Span) : Declarable ⟨.base b,q,span⟩
 | pointer {t:TypeExpr} (q:Qualifiers) (span:Span) (ht:t.Declarable) :
    Declarable ⟨.pointer t,q,span⟩
 | array {t:TypeExpr} {size:Option Expr} {vla:Bool} (span:Span) (ht:t.Declarable)
    (hsize:PlainSize size vla) : Declarable ⟨.array t size vla,.none,span⟩
 | function {t:TypeExpr} {params:List Param} {variadic prototyped:Bool} (span:Span)
    (ht:t.Declarable) (hparams:∀ p ∈ params, p.type.Declarable)
    (hclause:PlainClause params variadic prototyped) :
    Declarable ⟨.function t params variadic prototyped,.none,span⟩

lemma Param.printAll_eq (params:List Param) :
  Param.printAll params = params.map Param.print := by
 induction params with
 | nil => rfl
 | cons p params ih => rw [Param.printAll,ih,List.map_cons]

/-! ### Declarators -/

def Suffix.print : Suffix → List TokenKind
 | .array size vla _ => printArray size vla
 | .function params variadic prototyped _ =>
  printFunction (Param.printAll params) variadic prototyped

def Declarator.print : Declarator → List TokenKind
 | ⟨name,pointers,suffixes,none⟩ =>
  pointers.flatMap (fun p => printStar p.1) ++ printName name ++ suffixes.flatMap Suffix.print
 | ⟨_,pointers,suffixes,some d⟩ =>
  pointers.flatMap (fun p => printStar p.1) ++ inParens d.print
   ++ suffixes.flatMap Suffix.print
termination_by structural d => d

namespace Declarator

def ofName (name:Option Ident) : Declarator := ⟨name,[],[],none⟩

def starred (d:Declarator) : Bool := !d.pointers.isEmpty

def addStar (d:Declarator) (q:Qualifiers) : Declarator :=
 { d with pointers := (q,.nowhere) :: d.pointers }

def addSuffix (d:Declarator) (s:Suffix) : Declarator :=
 if d.starred then ⟨none,[],[s],some d⟩ else { d with suffixes := d.suffixes ++ [s] }

lemma print_addStar (d:Declarator) (q:Qualifiers) :
  (d.addStar q).print = printStar q ++ d.print := by
 obtain ⟨name,pointers,suffixes,nested⟩:=d
 cases nested <;> simp only [addStar,print,List.flatMap_cons,List.append_assoc]

lemma print_addSuffix (d:Declarator) (s:Suffix) :
  (d.addSuffix s).print = beforeSuffix d.starred d.print ++ s.print := by
 unfold addSuffix beforeSuffix
 split
 · simp [print]
 · obtain ⟨name,pointers,suffixes,nested⟩:=d
   cases nested <;> simp [print]

lemma print_of_starred {d:Declarator} (h:d.starred = true) :
  ∃ ts, d.print = .punct .star :: ts := by
 obtain ⟨name,pointers,suffixes,nested⟩:=d
 cases pointers with
 | nil => cases h
 | cons p pointers => cases nested <;> exact ⟨_,rfl⟩

lemma starred_addStar (d:Declarator) (q:Qualifiers) : (d.addStar q).starred = true := rfl

lemma starred_addSuffix (d:Declarator) (s:Suffix) : (d.addSuffix s).starred = false := by
 unfold addSuffix
 split
 · rfl
 · rename_i h
   exact Bool.eq_false_iff.mpr h

lemma apply_addStar (d:Declarator) (q:Qualifiers) (t:TypeExpr) :
  (d.addStar q).apply t = d.apply (t.addPointer q .nowhere) := by
 obtain ⟨name,pointers,suffixes,nested⟩:=d
 cases nested <;> rfl

lemma apply_addSuffix (d:Declarator) (s:Suffix) (t:TypeExpr) :
  (d.addSuffix s).apply t = d.apply (t.addSuffix s) := by
 unfold addSuffix
 split
 · rfl
 · rename_i h
   obtain ⟨name,pointers,suffixes,nested⟩:=d
   obtain rfl : pointers = [] := by simpa [starred] using h
   cases nested <;> simp [apply]

end Declarator

def Declarator.withoutPlaces (d:Declarator) : Declarator := d.mapSpans fun _ => .nowhere

def unplaced (x:Option Ident × TypeExpr) : Option Ident × TypeExpr :=
 (x.1.map (·.mapSpan fun _ => .nowhere),x.2.withoutPlaces)

lemma unplaced_eq {x y:Option Ident × TypeExpr} (h:unplaced x = unplaced y) :
  x.1.map (·.name) = y.1.map (·.name) ∧ x.2.withoutPlaces = y.2.withoutPlaces := by
 obtain ⟨hname,htype⟩:=Prod.mk.inj h
 have hnames:=congrArg (Option.map Ident.name) hname
 rw [Option.map_map,Option.map_map] at hnames
 exact ⟨hnames,htype⟩

lemma Declarator.apply_congr {d d':Declarator} {t t':TypeExpr}
  (hd:d.withoutPlaces = d'.withoutPlaces) (ht:t.withoutPlaces = t'.withoutPlaces) :
  unplaced (d.apply t) = unplaced (d'.apply t') := by
 have hmerge:∀ a b : Span, Span.nowhere = Span.nowhere.merge .nowhere:=fun _ _ => rfl
 calc unplaced (d.apply t) = d.withoutPlaces.apply t.withoutPlaces :=
       (mapSpans_apply hmerge d t).symm
   _ = d'.withoutPlaces.apply t'.withoutPlaces := by rw [hd,ht]
   _ = unplaced (d'.apply t') := mapSpans_apply hmerge d' t'

/-- The declarator that makes the type of the one at the bottom, around an inner one. -/
def TypeExpr.declarator : TypeExpr → Declarator → Declarator
 | ⟨.pointer t,q,_⟩, d => t.declarator (d.addStar q)
 | ⟨.array t size vla,_,s⟩, d => t.declarator (d.addSuffix (.array size vla s))
 | ⟨.function t params variadic prototyped,_,s⟩, d =>
  t.declarator (d.addSuffix (.function params variadic prototyped s))
 | _, d => d
termination_by structural t => t

namespace TypeExpr.Declarable

variable {t:TypeExpr}

lemma print_declarator (ht:t.Declarable) (d:Declarator) :
  (t.declarator d).print = t.printAround d.starred d.print := by
 induction ht generalizing d with
 | base b q span => rfl
 | pointer q span _ ih =>
  unfold TypeExpr.declarator TypeExpr.printAround
  rw [ih,d.starred_addStar,d.print_addStar]
 | array span _ _ ih =>
  unfold TypeExpr.declarator TypeExpr.printAround
  rw [ih,d.starred_addSuffix,d.print_addSuffix]
  rfl
 | function span _ _ _ ih =>
  unfold TypeExpr.declarator TypeExpr.printAround
  rw [ih,d.starred_addSuffix,d.print_addSuffix]
  rfl

lemma apply_declarator (ht:t.Declarable) (d:Declarator) :
  unplaced ((t.declarator d).apply t.base) = unplaced (d.apply t) := by
 induction ht generalizing d with
 | base b q span => rfl
 | pointer q span _ ih =>
  unfold TypeExpr.declarator TypeExpr.base
  rw [ih,d.apply_addStar]
  exact Declarator.apply_congr rfl rfl
 | array span _ _ ih =>
  unfold TypeExpr.declarator TypeExpr.base
  rw [ih,d.apply_addSuffix]
  exact Declarator.apply_congr rfl rfl
 | function span _ _ _ ih =>
  unfold TypeExpr.declarator TypeExpr.base
  rw [ih,d.apply_addSuffix]
  exact Declarator.apply_congr rfl rfl

end TypeExpr.Declarable

end CCheck
