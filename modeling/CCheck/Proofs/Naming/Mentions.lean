import CCheck.Grammar.Declarator
import Mathlib.Tactic.Lemma

/-! # Names in trees

The names that a tree mentions: identifiers, type names, and the enumerators that it declares on the
way. -/

set_option autoImplicit false

namespace CCheck

inductive NameUse where
 | value
 | type
 | constant
deriving DecidableEq, Repr

structure Mention where
 name : String
 use : NameUse
 inParams : Bool
 inExpr : Bool
deriving DecidableEq, Repr

namespace Mention

def of (name:String) (use:NameUse) : Mention := ⟨name,use,false,false⟩

def toParams (m:Mention) : Mention := { m with inParams := true }

def toExpr (m:Mention) : Mention := { m with inExpr := true }

/-- An enumerator of the scope that the tree stands in. -/
def IsLocal (m:Mention) : Prop := m.use = .constant ∧ m.inParams = false

def IsBuried (m:Mention) : Prop := m.use = .constant ∧ (m.inParams = true ∨ m.inExpr = true)

instance (m:Mention) : Decidable m.IsBuried := inferInstanceAs (Decidable (_ ∧ _))

end Mention

mutual

def Expr.mentions : Expr → List Mention
 | .literal _ => []
 | .ident i => [.of i.name .value]
 | .binary _ l r _ => l.mentions ++ r.mentions
 | .unary _ e _ => e.mentions
 | .assign _ target e _ => target.mentions ++ e.mentions
 | .cond test yes no _ => test.mentions ++ (yes.mentions ++ no.mentions)
 | .call callee args _ => callee.mentions ++ Expr.mentionsAll args
 | .index base index _ => base.mentions ++ index.mentions
 | .member base _ _ _ => base.mentions
 | .cast type e _ => type.mentions ++ e.mentions
 | .sizeofType type _ => type.mentions
 | .sizeofExpr e _ => e.mentions
 | .comma l r _ => l.mentions ++ r.mentions
termination_by structural e => e

def Expr.mentionsAll : List Expr → List Mention
 | [] => []
 | e :: es => e.mentions ++ Expr.mentionsAll es

def TypeExpr.mentions : TypeExpr → List Mention
 | ⟨form,_,_⟩ => form.mentions

def TypeForm.mentions : TypeForm → List Mention
 | .base _ => []
 | .record spec => spec.mentions
 | .enum spec => spec.mentions
 | .named name => [.of name .type]
 | .pointer target => target.mentions
 | .array elem none _ => elem.mentions
 | .array elem (some size) _ => elem.mentions ++ size.mentions.map .toExpr
 | .function ret params _ _ => ret.mentions ++ (Param.mentionsAll params).map .toParams

def RecordSpec.mentions : RecordSpec → List Mention
 | ⟨_,_,none,_⟩ => []
 | ⟨_,_,some members,_⟩ => Member.mentionsAll members

def Member.mentionsAll : List Member → List Mention
 | [] => []
 | ⟨_,type,_⟩ :: ms => type.mentions ++ Member.mentionsAll ms

def EnumSpec.mentions : EnumSpec → List Mention
 | ⟨_,none,_⟩ => []
 | ⟨_,some es,_⟩ => Enumerator.mentionsAll es

def Enumerator.mentionsAll : List Enumerator → List Mention
 | [] => []
 | ⟨name,none,_⟩ :: es => .of name.name .constant :: Enumerator.mentionsAll es
 | ⟨name,some value,_⟩ :: es =>
  value.mentions.map .toExpr ++ .of name.name .constant :: Enumerator.mentionsAll es

def Param.mentionsAll : List Param → List Mention
 | [] => []
 | ⟨_,type,_⟩ :: ps => type.mentions ++ Param.mentionsAll ps

end

mutual

def Initializer.mentions : Initializer → List Mention
 | .expr e => e.mentions
 | .list items _ => Initializer.mentionsAll items
termination_by structural i => i

def Initializer.mentionsAll : List Initializer → List Mention
 | [] => []
 | i :: is => i.mentions ++ Initializer.mentionsAll is

end

lemma Expr.mentionsAll_eq (es:List Expr) : Expr.mentionsAll es = es.flatMap Expr.mentions := by
 induction es with
 | nil => rfl
 | cons e es ih => rw [Expr.mentionsAll,ih,List.flatMap_cons]

lemma Initializer.mentionsAll_eq (is:List Initializer) :
  Initializer.mentionsAll is = is.flatMap Initializer.mentions := by
 induction is with
 | nil => rfl
 | cons i is ih => rw [Initializer.mentionsAll,ih,List.flatMap_cons]

lemma Member.mentionsAll_append (ms ms':List Member) :
  Member.mentionsAll (ms ++ ms') = Member.mentionsAll ms ++ Member.mentionsAll ms' := by
 induction ms with
 | nil => rfl
 | cons m ms ih =>
  obtain ⟨name,type,span⟩:=m
  rw [List.cons_append,Member.mentionsAll,ih,Member.mentionsAll,List.append_assoc]

lemma Enumerator.mentionsAll_append (es es':List Enumerator) :
  Enumerator.mentionsAll (es ++ es') =
   Enumerator.mentionsAll es ++ Enumerator.mentionsAll es' := by
 induction es with
 | nil => rfl
 | cons e es ih =>
  obtain ⟨name,value,span⟩:=e
  cases value with
  | none => rw [List.cons_append,Enumerator.mentionsAll,ih,Enumerator.mentionsAll,
    List.cons_append]
  | some v => rw [List.cons_append,Enumerator.mentionsAll,ih,Enumerator.mentionsAll,
    List.append_assoc,List.cons_append]

/-! ### Declarators -/

def Suffix.mentions : Suffix → List Mention
 | .array none _ _ => []
 | .array (some size) _ _ => size.mentions.map .toExpr
 | .function params _ _ _ => (Param.mentionsAll params).map .toParams

def Declarator.mentions : Declarator → List Mention
 | ⟨_,_,suffixes,none⟩ => suffixes.flatMap Suffix.mentions
 | ⟨_,_,suffixes,some inner⟩ => inner.mentions ++ suffixes.flatMap Suffix.mentions
termination_by structural d => d

lemma TypeExpr.mentions_addPointer (t:TypeExpr) (q:Qualifiers) (s:Span) :
  (t.addPointer q s).mentions = t.mentions := rfl

lemma TypeExpr.mentions_addSuffix (t:TypeExpr) (s:Suffix) :
  (t.addSuffix s).mentions = t.mentions ++ s.mentions := by
 cases s with
 | array size vla s =>
  cases size with
  | none => exact (List.append_nil _).symm
  | some size => rfl
 | function params variadic prototyped s => rfl

lemma TypeExpr.mem_mentions_wrap (t:TypeExpr) (pointers:List (Qualifiers × Span))
  (suffixes:List Suffix) (m:Mention) :
  m ∈ (suffixes.foldr (fun s t => t.addSuffix s)
    (pointers.foldl (fun t p => t.addPointer p.1 p.2) t)).mentions ↔
   m ∈ t.mentions ∨ m ∈ suffixes.flatMap Suffix.mentions := by
 induction suffixes with
 | nil =>
  have hstars:(pointers.foldl (fun t p => t.addPointer p.1 p.2) t).mentions = t.mentions := by
   induction pointers generalizing t with
   | nil => rfl
   | cons p ps ih => rw [List.foldl_cons,ih,TypeExpr.mentions_addPointer]
  simp only [List.foldr_nil,hstars,List.flatMap_nil,List.not_mem_nil,or_false]
 | cons s ss ih =>
  simp only [List.foldr_cons,TypeExpr.mentions_addSuffix,List.mem_append,ih,
   List.flatMap_cons]
  exact or_right_comm.trans or_assoc

lemma Declarator.mem_mentions_apply : ∀ (d:Declarator) (t:TypeExpr) (m:Mention),
  m ∈ (d.apply t).2.mentions ↔ m ∈ t.mentions ∨ m ∈ d.mentions
 | ⟨name,pointers,suffixes,none⟩, t, m => by
  simp only [Declarator.apply,Declarator.mentions,TypeExpr.mem_mentions_wrap]
 | ⟨name,pointers,suffixes,some inner⟩, t, m => by
  simp only [Declarator.apply,Declarator.mentions,Declarator.mem_mentions_apply inner,
   TypeExpr.mem_mentions_wrap,List.mem_append]
  exact or_right_comm.trans or_assoc

/-- The name that a declarator declares does not depend on the type around it. -/
def Declarator.declared? : Declarator → Option Ident
 | ⟨name,_,_,none⟩ => name
 | ⟨_,_,_,some inner⟩ => inner.declared?
termination_by structural d => d

lemma Declarator.apply_fst : ∀ (d:Declarator) (t:TypeExpr), (d.apply t).1 = d.declared?
 | ⟨name,pointers,suffixes,none⟩, t => by
  simp only [Declarator.apply,Declarator.declared?]
 | ⟨name,pointers,suffixes,some inner⟩, t => by
  simp only [Declarator.apply,Declarator.declared?,Declarator.apply_fst inner]

def TypeExpr.baseName? : TypeExpr → Option String
 | ⟨.named name,_,_⟩ => some name
 | ⟨.pointer t,_,_⟩ => t.baseName?
 | ⟨.array t _ _,_,_⟩ => t.baseName?
 | ⟨.function t _ _ _,_,_⟩ => t.baseName?
 | _ => none

lemma TypeExpr.baseName?_addSuffix (t:TypeExpr) (s:Suffix) :
  (t.addSuffix s).baseName? = t.baseName? := by
 cases s <;> rfl

lemma TypeExpr.baseName?_wrap (t:TypeExpr) (pointers:List (Qualifiers × Span))
  (suffixes:List Suffix) :
  (suffixes.foldr (fun s t => t.addSuffix s)
   (pointers.foldl (fun t p => t.addPointer p.1 p.2) t)).baseName? = t.baseName? := by
 induction suffixes with
 | nil =>
  induction pointers generalizing t with
  | nil => rfl
  | cons p ps ih => exact ih _
 | cons s ss ih => rw [List.foldr_cons,TypeExpr.baseName?_addSuffix,ih]

lemma TypeExpr.baseName?_apply : ∀ (d:Declarator) (t:TypeExpr),
  (d.apply t).2.baseName? = t.baseName?
 | ⟨name,pointers,suffixes,none⟩, t => by
  simp only [Declarator.apply,TypeExpr.baseName?_wrap]
 | ⟨name,pointers,suffixes,some inner⟩, t => by
  simp only [Declarator.apply,TypeExpr.baseName?_apply inner,TypeExpr.baseName?_wrap]

/-! ### Declarations and statements -/

namespace Declaration

def declared? : Declaration → Option (String × Bool)
 | .var d => some (d.name.name,false)
 | .func d => some (d.name.name,false)
 | .typedef d => some (d.name.name,true)
 | .record _ | .enum _ => none

def baseName? : Declaration → Option String
 | .var d => d.type.baseName?
 | .func d => d.type.baseName?
 | .typedef d => d.type.baseName?
 | .record _ | .enum _ => none

def mentions : Declaration → List Mention
 | .var d => d.type.mentions ++ d.init.toList.flatMap fun i => i.mentions.map .toExpr
 | .func d => d.type.mentions
 | .typedef d => d.type.mentions
 | .record spec => spec.mentions
 | .enum spec => spec.mentions

/-- The names that a declaration adds to the scope it stands in: its own, and the enumerators
in it. -/
def Introduces (d:Declaration) (p:String × Bool) : Prop :=
 d.declared? = some p ∨ ∃ m ∈ d.mentions, m.IsLocal ∧ p = (m.name,false)

end Declaration

/-- The declarators of one declaration share its specifiers. None that names an object or a
function takes the name that the specifiers consist of while others follow. -/
def KeepsSpecifier (ds:List Declaration) : Prop :=
 ds.Pairwise fun d d' => ∀ p ∈ d.declared?, p.2 = false → d'.baseName? ≠ some p.1

instance (ds:List Declaration) : Decidable (KeepsSpecifier ds) :=
 inferInstanceAs (Decidable (ds.Pairwise _))

def ForInit.mentions : ForInit → List Mention
 | .decls ds => ds.flatMap Declaration.mentions
 | .expr e => e.mentions.map .toExpr

def ForInit.groups : ForInit → List (List Declaration)
 | .decls ds => [ds]
 | .expr _ => []

mutual

def Stmt.mentions : Stmt → List Mention
 | .compound ss _ => Stmt.mentionsAll ss
 | .decls ds _ => ds.flatMap Declaration.mentions
 | .expr e _ => e.mentions.map .toExpr
 | .ifElse test yes none _ => test.mentions.map .toExpr ++ yes.mentions
 | .ifElse test yes (some no) _ => test.mentions.map .toExpr ++ (yes.mentions ++ no.mentions)
 | .whileLoop test body _ => test.mentions.map .toExpr ++ body.mentions
 | .doLoop body test _ => body.mentions ++ test.mentions.map .toExpr
 | .forLoop init test step body _ =>
  init.toList.flatMap ForInit.mentions ++
   ((test.toList ++ step.toList).flatMap (fun e => e.mentions.map .toExpr) ++ body.mentions)
 | .switch value body _ => value.mentions.map .toExpr ++ body.mentions
 | .caseLabel value body _ => value.mentions.map .toExpr ++ body.mentions
 | .defaultLabel body _ => body.mentions
 | .returnJump value _ => value.toList.flatMap fun e => e.mentions.map .toExpr
 | .labeled _ body _ => body.mentions
 | .breakJump _ | .continueJump _ | .gotoJump _ _ | .empty _ => []
termination_by structural s => s

def Stmt.mentionsAll : List Stmt → List Mention
 | [] => []
 | s :: ss => s.mentions ++ Stmt.mentionsAll ss

end

mutual

def Stmt.groups : Stmt → List (List Declaration)
 | .compound ss _ => Stmt.groupsAll ss
 | .decls ds _ => [ds]
 | .ifElse _ yes none _ => yes.groups
 | .ifElse _ yes (some no) _ => yes.groups ++ no.groups
 | .forLoop init _ _ body _ => init.toList.flatMap ForInit.groups ++ body.groups
 | .whileLoop _ body _ | .doLoop body _ _ | .switch _ body _ | .caseLabel _ body _
 | .defaultLabel body _ | .labeled _ body _ => body.groups
 | .expr .. | .breakJump _ | .continueJump _ | .returnJump .. | .gotoJump .. | .empty _ => []
termination_by structural s => s

def Stmt.groupsAll : List Stmt → List (List Declaration)
 | [] => []
 | s :: ss => s.groups ++ Stmt.groupsAll ss

end

end CCheck
