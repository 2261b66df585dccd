import CCheck.Grammar
import Mathlib.Tactic.Lemma

/-! # The `if` that an `else` belongs to

A statement that ends in an `if` without an `else` is never followed by an `else`: the innermost
`if` would have taken it. So no branch before an `else` ends that way. -/

set_option autoImplicit false

namespace CCheck

/-- Does the statement end in an `if` without an `else`? -/
def Stmt.endsOpen : Stmt → Bool
 | .ifElse _ _ none _ => true
 | .ifElse _ _ (some no) _ => no.endsOpen
 | .whileLoop _ body _ | .forLoop _ _ _ body _ | .switch _ body _ => body.endsOpen
 | .caseLabel _ body _ | .defaultLabel body _ | .labeled _ body _ => body.endsOpen
 | _ => false
termination_by structural s => s

mutual

/-- No branch before an `else` ends in an `if` without one, anywhere in the statement. -/
def Stmt.elsesNearest : Stmt → Bool
 | .ifElse _ yes none _ => yes.elsesNearest
 | .ifElse _ yes (some no) _ => !yes.endsOpen && yes.elsesNearest && no.elsesNearest
 | .whileLoop _ body _ | .doLoop body _ _ | .forLoop _ _ _ body _ => body.elsesNearest
 | .switch _ body _ | .caseLabel _ body _ | .defaultLabel body _ => body.elsesNearest
 | .labeled _ body _ => body.elsesNearest
 | .compound ss _ => Stmt.elsesNearestAll ss
 | _ => true
termination_by structural s => s

def Stmt.elsesNearestAll : List Stmt → Bool
 | [] => true
 | s :: ss => s.elsesNearest && Stmt.elsesNearestAll ss

end

lemma Stmt.elsesNearestAll_append (ss ss':List Stmt) :
  elsesNearestAll (ss ++ ss') = (elsesNearestAll ss && elsesNearestAll ss') := by
 induction ss with
 | nil => rfl
 | cons s ss ih => rw [List.cons_append,elsesNearestAll,elsesNearestAll,ih,Bool.and_assoc]

def External.elsesNearest : External → Bool
 | .declaration _ => true
 | .definition _ body => Stmt.elsesNearestAll body.stmts

def ProgramUnit.elsesNearest (u:ProgramUnit) : Bool := u.externals.all External.elsesNearest

/-! ### What parsers leave behind -/

namespace Parser

variable {α β σ:Type} {P:α → TokenStream → Prop} {Q:β → TokenStream → Prop} {x:Parser α}
 {k:α → Parser β}

/-- What holds of the answer and of the place where the parser comes to stand, if it starts from
the state. -/
def GivesFrom (s:ParserState) (P:α → TokenStream → Prop) (x:Parser α) : Prop :=
 ∀ a s', x s = .ok a s' → P a s'.stream

def Gives (P:α → TokenStream → Prop) (x:Parser α) : Prop := ∀ s, GivesFrom s P x

lemma GivesFrom.checkKeyword {s:ParserState} {w:Keyword} {x y:Parser α}
  (hx:s.stream.current.kind = .keyword w → GivesFrom s P x)
  (hy:s.stream.current.kind ≠ .keyword w → GivesFrom s P y) :
  GivesFrom s P (do if ← checkKeyword w then x else y) := by
 have hrun:(do if ← Parser.checkKeyword w then x else y : Parser α) s =
   if s.stream.current.kind == .keyword w then x s else y s := by
  simp only [Parser.checkKeyword,Parser.kind,Parser.current]
  exact apply_ite (fun p:Parser α => p s) _ x y
 intro a s' h
 rw [hrun] at h
 split at h
 · exact hx (eq_of_beq ‹_›) a s' h
 · exact hy (ne_of_beq_false ((Bool.not_eq_true _).mp ‹_›)) a s' h

namespace Gives

lemma pure {a:α} (h:∀ s, P a s) : Gives P (pure a) := by
 rintro s _ _ ⟨⟩
 exact h s.stream

lemma throw (f:Fault) : Gives P (throw f) := nofun

lemma bind (hx:Gives P x) (hk:∀ a s, P a s.stream → GivesFrom s Q (k a)) :
  Gives Q (x >>= k) := by
 intro s b s' h
 simp only [Bind.bind,EStateM.bind] at h
 split at h
 · rename_i a t ha
   exact hk a t (hx s a t ha) b s' h
 · cases h

lemma past (hk:∀ a, Gives Q (k a)) : Gives Q (x >>= k) :=
 bind (P := fun _ _ => True) (fun _ _ _ _ => trivial) fun a s _ => hk a s

lemma map {f:α → β} (hx:Gives P x) (h:∀ a s, P a s → Q (f a) s) :
  Gives Q (x >>= fun a => Pure.pure (f a)) := by
 rintro s b s' hrun
 exact hx.bind (fun a s ha _ _ hpure => by cases hpure; exact h a _ ha) s b s' hrun

lemma ite {c:Prop} [Decidable c] {x y:Parser α} (hx:Gives P x) (hy:Gives P y) :
  Gives P (if c then x else y) := by
 split
 · exact hx
 · exact hy

lemma inScope (hx:Gives P x) : Gives P (inScope x) := by
 intro s a s' h
 unfold Parser.inScope at h
 split at h
 · rename_i t ht
   cases h
   exact hx _ _ t ht
 · cases h

lemma repeatUpTo {I:σ → Prop} {step:σ → Parser (ForInStep σ)}
  (hstep:∀ a, I a → Gives (fun b _ => ∀ c, b = .yield c ∨ b = .done c → I c) (step a))
  (n:Nat) {a:σ} (ha:I a) : Gives (fun b _ => I b) (repeatUpTo step n a) := by
 induction n generalizing a with
 | zero => exact past fun _ => throw _
 | succ n ih =>
  refine (hstep a ha).bind fun b s hb => ?_
  cases b with
  | done b => exact pure (P := fun b _ => I b) (fun _ => hb b (.inr rfl)) s
  | yield b => exact ih (hb b (.inl rfl)) s

lemma loop {I:σ → Prop} {step:σ → Parser (ForInStep σ)}
  (hstep:∀ a, I a → Gives (fun b _ => ∀ c, b = .yield c ∨ b = .done c → I c) (step a)) {a:σ}
  (ha:I a) : Gives (fun b _ => I b) (loop step a) :=
 fun s b s' h => repeatUpTo hstep _ ha s b s' h

end Gives

end Parser

/-! ### Statements -/

open CCheck.Parser (Gives)

/-- The statement is in order, and if it ends in an `if` without an `else`, none follows. -/
structure Stmt.Ended (s:Stmt) (place:TokenStream) : Prop where
 nearest : s.elsesNearest = true
 follow : s.endsOpen = true → place.current.kind ≠ .keyword .kwElse

def Reader.EndsStatements (r:Reader) : Prop := Gives Stmt.Ended (r .statement)

namespace Grammar

variable {r:Reader} (start:Span)

lemma gives_plainStatement (k:TokenKind) :
  Gives Stmt.Ended (plainStatement r start k) := by
 refine .past fun _ => .ite ?_ ?_
 · exact .past fun _ => .past fun _ => .pure fun _ => ⟨rfl,nofun⟩
 · exact .past fun _ => .past fun _ => .past fun _ => .pure fun _ => ⟨rfl,nofun⟩

variable (hr:r.EndsStatements)
include hr

lemma gives_blockItems : Gives (fun ss _ => Stmt.elsesNearestAll ss = true) (blockItems r) := by
 refine .loop (fun ss hss => .past fun _ => .past fun _ => .ite (.pure ?_) ?_) rfl
 · rintro _ _ (h | h)
   · cases h
   · cases h
     exact hss
 · refine Gives.map hr fun s _ hs => ?_
   rintro _ (h | h)
   · cases h
     rw [Stmt.elsesNearestAll_append,hss,Stmt.elsesNearestAll,hs.nearest]
     rfl
   · cases h

lemma gives_block : Gives (fun b _ => Stmt.elsesNearestAll b.stmts = true) (block r) := by
 refine .past fun _ => (gives_blockItems hr).inScope.bind fun ss s hss => ?_
 exact Gives.past (fun _ => .past fun _ => .pure fun _ => hss) s

lemma gives_ifStatement : Gives Stmt.Ended (ifStatement r start) := by
 refine .past fun _ => .past fun test => Gives.bind hr fun yes s hyes => .checkKeyword ?_ ?_
 · intro helse
   have hclosed:yes.endsOpen = false:=
    (Bool.not_eq_true _).mp fun hopen => hyes.follow hopen helse
   refine Gives.past (fun _ => Gives.map hr fun no _ hno => ⟨?_,hno.follow⟩) s
   rw [Stmt.elsesNearest,hclosed,hyes.nearest,hno.nearest]
   rfl
 · rintro helse _ _ ⟨⟩
   exact ⟨hyes.nearest,fun _ => helse⟩

lemma gives_body {f:Stmt → Stmt} (hnearest:∀ s, (f s).elsesNearest = s.elsesNearest)
  (hopen:∀ s, (f s).endsOpen = s.endsOpen) :
  Gives Stmt.Ended (do return f (← r .statement)) := by
 refine Gives.map hr fun s _ hs => ⟨(hnearest s).trans hs.nearest,fun h => ?_⟩
 exact hs.follow ((hopen s).symm.trans h)

lemma gives_doStatement : Gives Stmt.Ended (doStatement r start) := by
 refine .past fun _ => Gives.bind hr fun body s hbody => ?_
 refine Gives.past (fun _ => .past fun test => .past fun _ => .past fun _ => .pure fun _ => ?_) s
 exact ⟨hbody.nearest,nofun⟩

lemma gives_statement : Gives Stmt.Ended (statement r) := by
 refine .past fun t => ?_
 split
 · exact (gives_block hr).map fun b _ hb => ⟨hb,nofun⟩
 · exact .past fun _ => .pure fun _ => ⟨rfl,nofun⟩
 · exact gives_ifStatement t.span hr
 · exact .past fun _ => .past fun _ => gives_body hr (fun _ => rfl) fun _ => rfl
 · exact gives_doStatement t.span hr
 · refine .past fun _ => .past fun _ => Gives.inScope ?_
   exact .past fun _ => .past fun _ => .past fun _ => gives_body hr (fun _ => rfl) fun _ => rfl
 · exact .past fun _ => .past fun _ => gives_body hr (fun _ => rfl) fun _ => rfl
 · exact .past fun _ => .past fun _ => .past fun _ => gives_body hr (fun _ => rfl) fun _ => rfl
 · exact .past fun _ => .past fun _ => gives_body hr (fun _ => rfl) fun _ => rfl
 · exact .past fun _ => .past fun _ => .pure fun _ => ⟨rfl,nofun⟩
 · exact .past fun _ => .past fun _ => .pure fun _ => ⟨rfl,nofun⟩
 · exact .past fun _ => .past fun _ => .past fun _ => .pure fun _ => ⟨rfl,nofun⟩
 · exact .past fun _ => .past fun _ => .past fun _ => .past fun _ => .pure fun _ => ⟨rfl,nofun⟩
 · refine .past fun _ => .ite ?_ (gives_plainStatement t.span _)
   exact .past fun _ => .past fun _ => gives_body hr (fun _ => rfl) fun _ => rfl
 · exact gives_plainStatement t.span _

lemma gives_functionBody (type:TypeExpr) :
  Gives (fun b _ => Stmt.elsesNearestAll b.stmts = true) (functionBody r type) :=
 .inScope (.past fun _ => gives_block hr)

lemma gives_externalDeclaration :
  Gives (fun es _ => es.all External.elsesNearest = true) (externalDeclaration r) := by
 have declarations (ds:List Declaration) :
   (ds.map External.declaration).all External.elsesNearest = true := by
  rw [List.all_map]
  exact List.all_eq_true.mpr fun _ _ => rfl
 refine .past fun start => .past fun specs => .past fun _ => .ite ?_ (.past fun first => ?_)
 · exact .pure fun _ => declarations _
 · split
   · refine .past fun _ => .ite ?_ (.past fun ds => .pure fun _ => declarations ds)
     refine (gives_functionBody hr _).map fun body _ hbody => ?_
     rw [List.all_cons,External.elsesNearest,hbody]
     rfl
   · exact .past fun ds => .pure fun _ => declarations ds

lemma gives_externals :
  Gives (fun es _ => es.all External.elsesNearest = true) (externals r) := by
 refine .loop (fun es hes => .past fun _ => .ite (.pure ?_) ?_) rfl
 · rintro _ _ (h | h)
   · cases h
   · cases h
     exact hes
 refine .past fun _ => .ite (.pure ?_) ?_
 · rintro _ _ (h | h)
   · cases h
     exact hes
   · cases h
 · refine (gives_externalDeclaration hr).map fun new _ hnew => ?_
   rintro _ (h | h)
   · cases h
     rw [List.all_append,hes,hnew]
     rfl
   · cases h

omit hr in
lemma endsStatements_read (depth:Nat) : Reader.EndsStatements (read depth) := by
 induction depth with
 | zero => exact .past fun _ => .throw _
 | succ depth ih => exact gives_statement ih

end Grammar

lemma Parser.gives_unit : Gives (fun u _ => u.elsesNearest = true) Parser.unit := by
 intro s u s' h
 have hreader:=Grammar.endsStatements_read (s.stream.rest.length + 1)
 have hunit:Gives (fun u _ => u.elsesNearest = true)
   (do return ProgramUnit.mk (← Grammar.externals (Grammar.read (s.stream.rest.length + 1)))) :=
  (Grammar.gives_externals hreader).map fun _ _ hes => hes
 unfold Parser.unit Grammar.withReader at h
 exact hunit s u s' h

/-- Every `else` belongs to the nearest `if`: in no tree does the branch before an `else` end in an
`if` without one. A statement that ends so is never followed by an `else`. -/
theorem else_of_nearest_if :
  (∀ (depth:Nat) (st st':ParserState) (s:Stmt),
   Grammar.read depth .statement st = .ok s st' → s.elsesNearest = true ∧
    (s.endsOpen = true → st'.stream.current.kind ≠ .keyword .kwElse)) ∧
  (∀ (st st':ParserState) (u:ProgramUnit),
   Parser.unit st = .ok u st' → u.elsesNearest = true) ∧
  ∀ (source:String) (u:ProgramUnit), parse source = .ok u → u.elsesNearest = true := by
 refine ⟨fun depth st st' s h => ?_,fun st st' u h => Parser.gives_unit st u st' h,?_⟩
 · have hended:s.Ended st'.stream:=Grammar.endsStatements_read depth st s st' h
   exact ⟨hended.nearest,hended.follow⟩
 · intro source u h
   unfold parse parseTokens at h
   split at h
   · cases h
   · split at h
     · rename_i hunit
       cases h
       exact Parser.gives_unit _ _ _ hunit
     · cases h

end CCheck
