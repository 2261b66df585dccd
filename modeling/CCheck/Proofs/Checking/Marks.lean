import CCheck.Analysis
import Mathlib.Tactic.Lemma

/-! # Marks of a tree

What an analysis may come upon when it checks a tree, in the order in which it does: names that are
read, calls, specifiers that define a record or an enumeration, declared variables and type names.
-/

set_option autoImplicit false

namespace CCheck

/-- A specifier that defines a record or an enumeration is known by the offset that it starts at:
the declarators of one declaration share it. -/
inductive SpecifierKey where
 | record (start:Nat)
 | enum (start:Nat)
deriving DecidableEq, Repr

inductive Mark where
 | value (i:Ident)
 | call (i:Ident) (span:Span)
 | definition (key:SpecifierKey) (body:List Mark)
 | again (ms:List Mark)
 | object (d:VarDecl)
 | typedef (d:TypedefDecl)

namespace Mark

def reread (mayBeNull:Bool) (ms:List Mark) : List Mark := if mayBeNull then [again ms] else []

def ofCallee (callee:Expr) (span:Span) (ms:List Mark) : List Mark :=
 match callee with
 | .ident i => [call i span]
 | _ => ms

def ofSize (vla:Bool) (checked evaluated:List Mark) : List Mark :=
 if vla then again evaluated :: checked else evaluated

end Mark

mutual

def Expr.marks : Expr → List Mark
 | .literal _ => []
 | .ident i => [.value i]
 | .binary op l r _ =>
  l.marks ++ (r.marks ++ (Mark.reread (op.takesNull && l.mayBeNull) l.evaluated ++
   Mark.reread (op.takesNull && r.mayBeNull) r.evaluated))
 | .unary _ e _ => e.marks
 | .assign op target e _ =>
  target.marks ++ (e.marks ++ Mark.reread (op.binary?.isNone && e.mayBeNull) e.evaluated)
 | .cond test yes no _ =>
  test.marks ++ (yes.marks ++ (no.marks ++
   (Mark.reread yes.mayBeNull yes.evaluated ++ Mark.reread no.mayBeNull no.evaluated)))
 | .call callee args span => Mark.ofCallee callee span callee.marks ++ Expr.argumentMarks args
 | .index base index _ => base.marks ++ index.marks
 | .member base _ _ _ => base.marks
 | .cast type e _ => type.marks ++ e.marks
 | .sizeofType type _ => type.marks
 | .sizeofExpr e _ => e.marks
 | .comma l r _ => l.marks ++ r.marks
termination_by structural e => e

def Expr.argumentMarks : List Expr → List Mark
 | [] => []
 | e :: es => (e.marks ++ Mark.reread e.mayBeNull e.evaluated) ++ Expr.argumentMarks es

def Expr.evaluated : Expr → List Mark
 | .literal _ | .ident _ => []
 | .unary _ e _ => e.evaluated
 | .binary _ l r _ => l.evaluated ++ r.evaluated
 | .cond test yes no _ => test.evaluated ++ (yes.evaluated ++ no.evaluated)
 | .cast type e _ => type.marks ++ e.evaluated
 | .sizeofType type _ => type.marks
 | .sizeofExpr e _ => e.marks
 | .assign .. | .call .. | .index .. | .member .. | .comma .. => []

def TypeExpr.marks : TypeExpr → List Mark
 | ⟨form,_,_⟩ => form.marks

def TypeForm.marks : TypeForm → List Mark
 | .base _ | .named _ => []
 | .record spec => spec.marks
 | .enum spec => spec.marks
 | .pointer target => target.marks
 | .array elem none _ => elem.marks
 | .array elem (some size) vla => elem.marks ++ Mark.ofSize vla size.marks size.evaluated
 | .function ret params _ _ => ret.marks ++ Param.marksAll params

def Param.marksAll : List Param → List Mark
 | [] => []
 | p :: ps => p.marks ++ Param.marksAll ps

/-- The size of a parameter that is written as an array is not looked at. -/
def Param.marks : Param → List Mark
 | ⟨_,⟨.array elem _ _,_,_⟩,_⟩ => elem.marks
 | ⟨_,type,_⟩ => type.marks

def RecordSpec.marks : RecordSpec → List Mark
 | ⟨_,_,none,_⟩ => []
 | ⟨_,_,some members,span⟩ =>
  [.definition (.record span.start) (Member.marksAll members)]

def Member.marksAll : List Member → List Mark
 | [] => []
 | ⟨_,type,_⟩ :: ms => type.marks ++ Member.marksAll ms

def EnumSpec.marks : EnumSpec → List Mark
 | ⟨_,none,_⟩ => []
 | ⟨_,some es,span⟩ => [.definition (.enum span.start) (Enumerator.marksAll es)]

def Enumerator.marksAll : List Enumerator → List Mark
 | [] => []
 | ⟨_,none,_⟩ :: es => Enumerator.marksAll es
 | ⟨_,some value,_⟩ :: es => value.evaluated ++ Enumerator.marksAll es

end

mutual

def Initializer.marks : Initializer → List Mark
 | .expr e => e.marks ++ Mark.reread e.mayBeNull e.evaluated
 | .list items _ => Initializer.marksAll items
termination_by structural i => i

def Initializer.marksAll : List Initializer → List Mark
 | [] => []
 | i :: is => i.marks ++ Initializer.marksAll is

end

def Declaration.marks : Declaration → List Mark
 | .var d => d.type.marks ++ (d.init.toList.flatMap Initializer.marks ++ [.object d])
 | .func d => d.type.marks
 | .record spec => spec.marks
 | .enum spec => spec.marks
 | .typedef d => d.type.marks ++ [.typedef d]

def ForInit.marks : ForInit → List Mark
 | .decls ds => ds.flatMap Declaration.marks
 | .expr e => e.marks

mutual

def Stmt.marks : Stmt → List Mark
 | .compound ss _ => Stmt.marksAll ss
 | .decls ds _ => ds.flatMap Declaration.marks
 | .expr e _ => e.marks
 | .ifElse test yes none _ => test.marks ++ yes.marks
 | .ifElse test yes (some no) _ => test.marks ++ (yes.marks ++ no.marks)
 | .whileLoop test body _ => test.marks ++ body.marks
 | .doLoop body test _ => body.marks ++ test.marks
 | .forLoop init test step body _ =>
  init.toList.flatMap ForInit.marks ++
   (test.toList.flatMap Expr.marks ++ (step.toList.flatMap Expr.marks ++ body.marks))
 | .switch value body _ => value.marks ++ body.marks
 | .caseLabel value body _ => value.marks ++ (.again value.evaluated :: body.marks)
 | .defaultLabel body _ => body.marks
 | .returnJump value _ =>
  value.toList.flatMap fun e => e.marks ++ Mark.reread e.mayBeNull e.evaluated
 | .labeled _ body _ => body.marks
 | .breakJump _ | .continueJump _ | .gotoJump _ _ | .empty _ => []
termination_by structural s => s

def Stmt.marksAll : List Stmt → List Mark
 | [] => []
 | s :: ss => s.marks ++ Stmt.marksAll ss

end

def External.marks : External → List Mark
 | .declaration d => d.marks
 | .definition head body => head.type.marks ++ Stmt.marksAll body.stmts

def ProgramUnit.marks (u:ProgramUnit) : List Mark := u.externals.flatMap External.marks

/-! ### Marks within marks -/

mutual

def Mark.flat : Mark → List Mark
 | .value i => [.value i]
 | .call i span => [.call i span]
 | .definition key body => .definition key body :: Mark.flatAll body
 | .again ms => .again ms :: Mark.flatAll ms
 | .object d => [.object d]
 | .typedef d => [.typedef d]
termination_by structural m => m

def Mark.flatAll : List Mark → List Mark
 | [] => []
 | m :: ms => m.flat ++ Mark.flatAll ms

end

namespace Mark

lemma flatAll_eq (ms:List Mark) : flatAll ms = ms.flatMap flat := by
 induction ms with
 | nil => rfl
 | cons m ms ih => rw [flatAll,ih,List.flatMap_cons]

lemma flatAll_append (ms ms':List Mark) : flatAll (ms ++ ms') = flatAll ms ++ flatAll ms' := by
 simp only [flatAll_eq,List.flatMap_append]

lemma flatAll_definition (key:SpecifierKey) (ms:List Mark) :
  flatAll [definition key ms] = definition key ms :: flatAll ms := by
 rw [flatAll,flatAll,flat,List.append_nil]

lemma flatAll_again (ms:List Mark) : flatAll [again ms] = again ms :: flatAll ms := by
 rw [flatAll,flatAll,flat,List.append_nil]

lemma flatAll_subset {ms ms':List Mark} (h:ms.Sublist ms') : flatAll ms ⊆ flatAll ms' := by
 rw [flatAll_eq,flatAll_eq]
 intro m hm
 obtain ⟨n,hn,hmn⟩:=List.mem_flatMap.mp hm
 exact List.mem_flatMap.mpr ⟨n,h.subset hn,hmn⟩

end Mark

lemma Expr.evaluated_sublist : ∀ e : Expr, e.evaluated.Sublist e.marks
 | .literal _ => .slnil
 | .ident i => List.nil_sublist _
 | .unary _ e _ => by
  rw [Expr.evaluated,Expr.marks]
  exact e.evaluated_sublist
 | .binary op l r _ => by
  rw [Expr.evaluated,Expr.marks]
  exact l.evaluated_sublist.append
   (r.evaluated_sublist.trans (List.sublist_append_left _ _))
 | .cond test yes no _ => by
  rw [Expr.evaluated,Expr.marks]
  exact test.evaluated_sublist.append
   (yes.evaluated_sublist.append (no.evaluated_sublist.trans (List.sublist_append_left _ _)))
 | .cast type e _ => by
  rw [Expr.evaluated,Expr.marks]
  exact (List.Sublist.refl _).append e.evaluated_sublist
 | .sizeofType type _ => List.Sublist.refl _
 | .sizeofExpr e _ => List.Sublist.refl _
 | .assign .. => List.nil_sublist _
 | .call .. => List.nil_sublist _
 | .index .. => List.nil_sublist _
 | .member .. => List.nil_sublist _
 | .comma .. => List.nil_sublist _
termination_by structural e => e

end CCheck
