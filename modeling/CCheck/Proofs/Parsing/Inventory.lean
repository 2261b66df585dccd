import Mathlib.Data.List.Flatten
import CCheck.Proofs.Parsing.Books

/-! # Marks are paid for

Names that are read, and calls, cost the tokens that they start at, and a definition is entered once
with what its body costs. -/

set_option autoImplicit false

namespace CCheck

open CCheck.Parser Mark

variable {p n m:Nat}

variable {e:Expr} {f:TypeForm} {ms:List Mark} {source:String} {ts:List Token} {u:ProgramUnit}

/-! ### Marks of pieces -/

@[simp] def Piece.marks : Piece → List Mark
 | expr e => e.marks
 | argument e => e.marks ++ Mark.reread e.mayBeNull e.evaluated
 | form f => f.marks
 | param q => q.marks
 | member m => m.type.marks
 | enumerator e => e.value.toList.flatMap Expr.evaluated
 | initializer i => i.marks
 | declaration d => d.marks
 | forInit i => i.marks
 | stmt s => s.marks

@[simp] lemma TypeExpr.marks_form (t:TypeExpr) : t.marks = t.form.marks := by
 cases t
 rfl

lemma Expr.argumentMarks_eq (es:List Expr) :
  Expr.argumentMarks es = (es.map .argument).flatMap Piece.marks :=
 Piece.collect_eq _ rfl (fun _ _ => rfl) es

lemma Param.marksAll_eq (ps:List Param) :
  Param.marksAll ps = (ps.map .param).flatMap Piece.marks :=
 Piece.collect_eq _ rfl (fun _ _ => rfl) ps

lemma Member.marksAll_eq (ms:List Member) :
  Member.marksAll ms = (ms.map .member).flatMap Piece.marks := by
 refine Piece.collect_eq _ rfl (fun m ms => ?_) ms
 cases m
 rfl

lemma Enumerator.marksAll_eq (es:List Enumerator) :
  Enumerator.marksAll es = (es.map .enumerator).flatMap Piece.marks := by
 refine Piece.collect_eq _ rfl (fun e es => ?_) es
 obtain ⟨name,value,span⟩:=e
 cases value with
 | none => rfl
 | some value =>
  rw [Enumerator.marksAll,Piece.marks,Option.toList_some,List.flatMap_singleton]

lemma Initializer.marksAll_eq (is:List Initializer) :
  Initializer.marksAll is = (is.map .initializer).flatMap Piece.marks :=
 Piece.collect_eq _ rfl (fun _ _ => rfl) is

lemma Stmt.marksAll_eq (ss:List Stmt) :
  Stmt.marksAll ss = (ss.map .stmt).flatMap Piece.marks :=
 Piece.collect_eq _ rfl (fun _ _ => rfl) ss

namespace Mark.Within

lemma left (ms ns:List Mark) : Within p ms (ms ++ ns) :=
 of_sublist (List.sublist_append_left ms ns)

lemma right (ms ns:List Mark) : Within p ns (ms ++ ns) :=
 of_sublist (List.sublist_append_right ms ns)

lemma ofSize (vla:Bool) (size:Expr) :
  Within p (Mark.ofSize vla size.marks size.evaluated) size.marks := by
 have hevaluated:Within p size.evaluated size.marks:=evaluated size
 cases vla with
 | true => exact (swap [_] _).trans ((refl size.marks).again hevaluated.definitions)
 | false => exact hevaluated

lemma param (q:Param) : Within p q.marks q.type.form.marks := by
 obtain ⟨name,⟨form,quals,s⟩,span⟩:=q
 cases form with
 | array elem size vla =>
  cases size with
  | none => exact refl _
  | some size => exact left _ _
 | _ => exact refl _

lemma binary (op:BinOp) (l r:Expr) (span:Span) :
  Within p (Expr.binary op l r span).marks (l.marks ++ r.marks) := by
 have hl:Within p l.evaluated (l.marks ++ r.marks):=(evaluated l).trans (left _ _)
 have hr:Within p r.evaluated (l.marks ++ r.marks):=(evaluated r).trans (right _ _)
 have hboth:=((refl (p := p) (l.marks ++ r.marks)).reread (op.takesNull && l.mayBeNull)
  hl.definitions).reread (op.takesNull && r.mayBeNull) hr.definitions
 rwa [List.append_assoc,List.append_assoc] at hboth

lemma assign (op:AssignOp) (l r:Expr) (span:Span) :
  Within p (Expr.assign op l r span).marks (l.marks ++ r.marks) := by
 have hr:Within p r.evaluated (l.marks ++ r.marks):=(evaluated r).trans (right _ _)
 have hreread:=(refl (p := p) (l.marks ++ r.marks)).reread (op.binary?.isNone && r.mayBeNull)
  hr.definitions
 rwa [List.append_assoc] at hreread

lemma cond (test yes no:Expr) (span:Span) :
  Within p (Expr.cond test yes no span).marks (test.marks ++ (yes.marks ++ no.marks)) := by
 refine (refl test.marks).append ?_
 have hyes:Within p yes.evaluated (yes.marks ++ no.marks):=(evaluated yes).trans (left _ _)
 have hno:Within p no.evaluated (yes.marks ++ no.marks):=(evaluated no).trans (right _ _)
 have hboth:=((refl (p := p) (yes.marks ++ no.marks)).reread yes.mayBeNull
  hyes.definitions).reread no.mayBeNull hno.definitions
 rwa [List.append_assoc,List.append_assoc] at hboth

lemma converted (e:Expr) : Within p (e.marks ++ Mark.reread e.mayBeNull e.evaluated) e.marks :=
 (refl e.marks).reread _ (evaluated (p := p) e).definitions

end Mark.Within

namespace Piece

lemma within_expr (he:(expr e).isPlain = true) :
  Within p e.marks ((expr e).children.flatMap marks) := by
 cases e with
 | ident i => cases he
 | call callee args span => cases he
 | binary op l r span => simpa using Within.binary op l r span
 | assign op l r span => simpa using Within.assign op l r span
 | cond test yes no span => simpa using Within.cond test yes no span
 | _ => simpa [Expr.marks] using Within.refl _

lemma within_form (hf:(form f).isPlain = true) :
  Within p f.marks ((form f).children.flatMap marks) := by
 cases f with
 | record spec =>
  obtain ⟨kind,tag,members,span⟩:=spec
  cases members with
  | none => exact .refl _
  | some members => cases hf
 | enum spec =>
  obtain ⟨tag,items,span⟩:=spec
  cases items with
  | none => exact .refl _
  | some items => cases hf
 | array t size vla =>
  cases size with
  | none => simpa [TypeForm.marks] using Within.refl _
  | some size => simpa [TypeForm.marks] using (Within.refl t.form.marks).append (.ofSize vla size)
 | _ => simpa [TypeForm.marks,Param.marksAll_eq] using Within.refl _

lemma within_declaration (d:Declaration) :
  Within p d.marks ((declaration d).children.flatMap marks) := by
 cases d with
 | var d =>
  rw [Declaration.marks,← List.append_assoc]
  refine Within.append_free ?_ rfl fun _ _ hm => by
   cases hm with | tail _ hm => cases hm
  simpa [List.flatMap_map] using Within.refl _
 | typedef d =>
  refine Within.append_free ?_ rfl fun _ _ hm => by
   cases hm with | tail _ hm => cases hm
  simpa using Within.refl _
 | _ => simpa [Declaration.marks,TypeForm.marks] using Within.refl _

lemma within_stmt (s:Stmt) : Within p s.marks ((stmt s).children.flatMap marks) := by
 cases s with
 | ifElse e yes no span => cases no <;> simpa [Stmt.marks] using Within.refl _
 | caseLabel e s span =>
  have hagain:Within p (e.marks ++ [.again e.evaluated]) e.marks:=
   (Within.refl e.marks).again (Within.evaluated (p := p) e).definitions
  simpa [Stmt.marks] using hagain.append (.refl s.marks)
 | returnJump e span =>
  cases e with
  | none => exact .refl _
  | some e => simpa [Stmt.marks] using Within.converted e
 | forLoop init test step s span =>
  simpa [Stmt.marks,List.flatMap_map] using Within.refl _
 | _ => simpa [Stmt.marks,Stmt.marksAll_eq,List.flatMap_map] using Within.refl _

lemma within_children {x:Piece} (hx:x.isPlain = true) :
  Within p x.marks (x.children.flatMap marks) := by
 cases x with
 | expr e => exact within_expr hx
 | form f => exact within_form hx
 | declaration d => exact within_declaration d
 | stmt s => exact within_stmt s
 | argument e => simpa using Within.converted e
 | param q => simpa using Within.param q
 | member m => simpa using Within.refl _
 | enumerator e =>
  cases hvalue : e.value with
  | none => simpa [hvalue] using Within.refl _
  | some value => simpa [hvalue] using Within.evaluated value
 | initializer i =>
  cases i with
  | expr e => simpa [Initializer.marks] using Within.converted e
  | list items span => simpa [Initializer.marks,Initializer.marksAll_eq] using Within.refl _
 | forInit i => cases i <;> simpa [ForInit.marks,List.flatMap_map] using Within.refl _

end Piece

/-! ### Books of marks -/

lemma Mark.Paid.call {args:List Expr} (last:Span)
  (h:Paid p n (e.marks ++ Expr.argumentMarks args) m) :
  Paid p n (Expr.call e args (e.span.merge last)).marks (m + last.credit p) := by
 cases e with
 | ident i =>
  obtain ⟨entries,hentered,hle⟩:=h
  have hcredit:=Span.credit_merge p i.span last
  refine ⟨entries,fun key body hm => hentered key body ?_,?_⟩
  · rcases List.mem_cons.mp hm with hm | hm
    · cases hm
    · exact List.mem_cons_of_mem _ hm
  · change n + (i.span.credit p + chargeAll p (Expr.argumentMarks args)) + _ ≤ m at hle
    change n + ((i.span.merge last).credit p + chargeAll p (Expr.argumentMarks args)) + _ ≤ _
    omega
 | _ => exact h.mono (Nat.le_add_right _ _)

lemma Mark.Paid.bodied {first:Span}
  (h:Paid p (n + first.credit p) ms m) (key:SpecifierKey) (last:Span) :
  Paid p n [.definition key ms] (m + last.credit p) := by
 obtain ⟨entries,hentered,hle⟩:=h
 refine ⟨(key,chargeAll p ms) :: entries,fun key' body hm => ?_,?_⟩
 · rw [flatAll_definition,List.mem_cons] at hm
   rcases hm with hm | hm
   · cases hm
     exact ⟨_,List.mem_cons_self,Nat.le_refl _⟩
   · exact hentered.mono (List.subset_cons_self _ _) key' body hm
 · simp only [chargeAll_cons,chargeAll_nil,Mark.charge,total]
   omega

lemma Mark.Paid.share {k:Nat} {ts ns ds:List Mark} (h:Paid p n (ts ++ ms) m)
  (free:chargeAll p ts = 0) (hds:Paid p m ds k) (hns:Within p ns (ts ++ ds)) :
  Paid p n (ts ++ (ms ++ ns)) k := by
 refine (h.append hds).within ⟨?_,fun key body hm => ?_⟩
 · have hcharge:=hns.charge
   simp only [chargeAll_append] at hcharge ⊢
   omega
 · have hdefinitions:=hns.definitions key body
   simp only [flatAll_append,List.mem_append] at hm hdefinitions ⊢
   grind

lemma TypeForm.IsSpecifier.free (hf:f.IsSpecifier) :
  chargeAll p f.marks = 0 := by
 cases f with
 | base _ | named _ => rfl
 | record spec =>
  obtain ⟨kind,tag,members,span⟩:=spec
  cases members <;> rfl
 | enum spec =>
  obtain ⟨tag,items,span⟩:=spec
  cases items <;> rfl
 | _ => cases hf

def markBooks (p:Nat) : Books p where
 Paid n xs m := Mark.Paid p n (xs.flatMap Piece.marks) m
 Within xs ys := Mark.Within p (xs.flatMap Piece.marks) (ys.flatMap Piece.marks)
 nil h := .nil h
 append h h' := by
  rw [List.flatMap_append]
  exact h.append h'
 within h hxs := h.within hxs
 of_sublist h := .of_sublist (h.flatMap _)
 trans h h' := h.trans h'
 both h h' := by
  rw [List.flatMap_append,List.flatMap_append]
  exact h.append h'
 swap xs ys := by
  rw [List.flatMap_append,List.flatMap_append]
  exact .swap _ _
 children hx := by
  rw [List.flatMap_singleton]
  exact Piece.within_children hx
 head d := by simpa [Declaration.marks] using Within.refl _
 ident n i := by
  refine ⟨[],fun key body hm => ?_,Nat.le_refl _⟩
  cases hm with
  | tail _ hm => cases hm
 call last h := by
  rw [List.flatMap_cons,← Expr.argumentMarks_eq] at h
  rw [List.flatMap_singleton]
  exact h.call last
 record kind tag last h := by
  rw [← Member.marksAll_eq] at h
  exact h.bodied (.record _) last
 enum tag last h := by
  rw [← Enumerator.marksAll_eq] at h
  exact h.bodied (.enum _) last
 labeled label span h := h.less (Nat.le_add_right _ _)
 share hf h hys hx := by
  rw [List.flatMap_cons] at h hx ⊢
  rw [List.flatMap_append]
  exact h.share hf.free hys hx
 Whole n es m := Mark.Paid p n (es.flatMap External.marks) m
 whole_nil h := .nil h
 whole_append h h' := by
  rw [List.flatMap_append]
  exact h.append h'
 whole_declarations h := by
  rw [List.flatMap_map] at h ⊢
  exact h
 whole_definition h h' := by
  rw [List.flatMap_singleton,External.marks,TypeExpr.marks_form,Stmt.marksAll_eq]
  exact (List.flatMap_singleton .. ▸ h).append h'

structure ExternalsPaid (p n:Nat) (es:List External) (m:Nat) : Prop where
 paid : Paid p n (es.flatMap External.marks) m
 headed : ∀ e ∈ es, e.Headed

lemma paid_of_parseTokens (h:parseTokens ts = .ok u)
  (p:Nat) : ExternalsPaid p 0 u.externals (ts.countP (·.span.start == p)) := by
 obtain ⟨m,hm,hpaid⟩:=(markBooks p).whole_of_parseTokens h
 exact ⟨Mark.Paid.mono hpaid.paid hm,hpaid.headed⟩

lemma stage_of_parseTokens {f:Fault} (h:parseTokens ts = .error f) :
  f.stage = .grammatical := by
 obtain ⟨u,_,_,hu,_⟩ | ⟨g,hg,hstage⟩:=
  Parser.Simulation.same.session.parseTokens ts (n := ()) rfl trivial
 · cases h.symm.trans hu
 · cases h.symm.trans hg
   exact hstage

lemma tokens_of_parse (h:parse source = .ok u) :
  ∃ ts, tokenize source = .ok ts ∧ parseTokens ts = .ok u := by
 unfold parse at h
 cases hts : tokenize source with
 | error f =>
  rw [hts] at h
  cases h
 | ok ts =>
  rw [hts] at h
  exact ⟨ts,rfl,h⟩

lemma exists_unit {α:Type} {f:ProgramUnit → Option α} {a:α}
  (h:(parse source).toOption.bind f = some a) : ∃ u, parse source = .ok u ∧ f u = some a := by
 cases hu : parse source with
 | error fault =>
  rw [hu] at h
  cases h
 | ok u =>
  rw [hu] at h
  exact ⟨u,rfl,h⟩

end CCheck
