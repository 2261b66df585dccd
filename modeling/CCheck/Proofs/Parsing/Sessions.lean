import CCheck.Proofs.Layout.Declarators
import CCheck.Proofs.Parsing.Journals
import CCheck.Proofs.Parsing.Passing

/-! # Two readings and their books

A simulation of parsers is a relation of parser states that the primitive steps of reading
keep: related states stand on tokens of the same kind, at places that a relocation takes
to each other, and know the same type names. Two parsers are run in related states, and a journal is
kept on what the first one reads. -/

set_option autoImplicit false

namespace CCheck

def Image {α β:Type} (m:α → β) (a:α) (b:β) : Prop := b = m a

lemma image_iff {α β:Type} {m:α → β} {a:α} {b:β} : Image m a b ↔ b = m a := Iff.rfl

structure Parser.Simulation (ρ:Relocation) where
 rel : ParserState → ParserState → Prop
 kind : ∀ {s t}, rel s t → t.stream.current.kind = s.stream.current.kind
 span : ∀ {s t}, rel s t → t.stream.current.span = ρ s.stream.current.span
 peek : ∀ {s t}, rel s t → t.stream.peek? = s.stream.peek?
 previous : ∀ {s t}, rel s t → t.stream.previous = ρ s.stream.previous
 length : ∀ {s t}, rel s t → t.stream.rest.length = s.stream.rest.length
 isType : ∀ {s t}, rel s t → ∀ name, t.names.isType name = s.names.isType name
 advance : ∀ {s t}, rel s t →
  rel { s with stream := s.stream.advance } { t with stream := t.stream.advance }
 declare : ∀ {s t}, rel s t → ∀ name isType,
  rel { s with names := s.names.declare name isType }
   { t with names := t.names.declare name isType }
 openScope : ∀ {s t}, rel s t →
  rel { s with names := s.names.openScope } { t with names := t.names.openScope }
 closeScope : ∀ {s t}, rel s t →
  rel { s with names := s.names.closeScope } { t with names := t.names.closeScope }

def Parser.Simulation.same : Parser.Simulation .identity where
 rel := Eq
 kind h := congrArg (·.stream.current.kind) h.symm
 span h := congrArg (·.stream.current.span) h.symm
 peek h := congrArg (·.stream.peek?) h.symm
 previous h := congrArg (·.stream.previous) h.symm
 length h := congrArg (·.stream.rest.length) h.symm
 isType h _ := h ▸ rfl
 advance h := h ▸ rfl
 declare h _ _ := h ▸ rfl
 openScope h := h ▸ rfl
 closeScope h := h ▸ rfl

lemma Parser.Simulation.declareParams {ρ:Relocation} (T:Parser.Simulation ρ)
  {s t:ParserState} (h:T.rel s t) (ps:List Param) :
  T.rel { s with names := s.names.declareParams ps }
   { t with names := t.names.declareParams (ps.map (Param.mapSpans ρ)) } := by
 induction ps generalizing s t with
 | nil => exact h
 | cons p ps ih =>
  obtain ⟨name,type,span⟩:=p
  cases name with
  | none => exact ih h
  | some name => exact ih (T.declare h name.name false)

structure Token.Moved (ρ:Relocation) (t u:Token) : Prop where
 kind : u.kind = t.kind
 span : u.span = ρ t.span

lemma Token.Moved.eq {ρ:Relocation} {t u:Token} (h:t.Moved ρ u) :
  u = ⟨t.kind,u.text,ρ t.span⟩ := by
 rw [← h.kind,← h.span]

def mapStep {α β:Type} (m:α → β) : ForInStep α → ForInStep β
 | .done a => .done (m a)
 | .yield a => .yield (m a)

structure Session (ρ:Relocation) extends Parser.Simulation ρ, Journal where
 Holds : State → ParserState → Prop
 passed : ∀ {n s}, Holds n s → Holds n { s with stream := s.stream.advance }
 earned : ∀ {n s}, Holds n s → s.stream.current.kind.isEof = false →
  Holds (earn s.stream.current.span n) { s with stream := s.stream.advance }
 notes : ∀ {n s name}, Holds n s → s.stream.current.kind = .ident name →
  Holds (note ⟨name,s.stream.current.span⟩ n) { s with stream := s.stream.advance }
 enrolled : ∀ {n s}, Holds n s → ∀ name isType,
  Holds (enroll name isType n) { s with names := s.names.declare name isType }
 entered : ∀ {n s}, Holds n s → ∀ ps,
  Holds (enter ps n) { s with names := s.names.openScope.declareParams ps }
 left : ∀ {n s}, Holds n s → Holds (leave n) { s with names := s.names.closeScope }
 known : ∀ {n s name}, Holds n s → s.names.isType name = true → Knows n name

def Parser.Simulation.session {ρ:Relocation} (T:Parser.Simulation ρ) : Session ρ :=
 { T,Journal.blank with
   Holds := fun _ _ => True
   passed := fun _ => trivial
   earned := fun _ _ => trivial
   notes := fun _ _ => trivial
   enrolled := fun _ _ _ => trivial
   entered := fun _ _ => trivial
   left := fun _ => trivial
   known := fun _ _ => trivial }

namespace Session

open TokenStream CCheck.Parser

variable {α β γ δ σ τ:Type} {ρ:Relocation} (K:Session ρ)

/-- Both readings succeed with related answers, or fail for the same cause. The first one has passed
tokens only, at least one if its answer satisfies `e`, and has come to books that satisfy `Q`. -/
inductive Outcome (n:K.State) (s:TokenStream) (e:α → Bool) (R:α → β → Prop)
  (Q:K.State → α → Prop) :
  EStateM.Result Fault ParserState α → EStateM.Result Fault ParserState β → Prop
 | ok {a:α} {b:β} {s' t':ParserState} {m:K.State} (answer:R a b) (state:K.rel s' t')
   (passes:Passes (e a).toNat s s'.stream) (holds:K.Holds m s') (reach:K.Reach n m)
   (paid:Q m a) : Outcome n s e R Q (.ok a s') (.ok b t')
 | error {f:Fault} {s' t':ParserState} {m:K.State} (state:K.rel s' t')
   (passes:Passes 0 s s'.stream) (holds:K.Holds m s') (reach:K.Reach n m)
   (stage:f.stage = .grammatical) : Outcome n s e R Q (.error f s') (.error (f.mapSpan ρ) t')

/-- The outcome of the two parsers wherever fewer than `B` tokens are left, the place satisfies `P`
and the books are in the state `n`. -/
def Goes (B:Nat) (P:TokenStream → Prop) (e:α → Bool) (R:α → β → Prop) (n:K.State)
  (Q:K.State → α → Prop) (x:Parser α) (y:Parser β) : Prop :=
 ∀ s t, K.rel s t → s.stream.rest.length < B → P s.stream → K.Holds n s →
  K.Outcome n s.stream e R Q (x s) (y t)

def Reads (B:Nat) (e:Bool) (μ:α → β) (F:K.State → α → K.State → Prop) (x:Parser α)
  (y:Parser β) : Prop :=
 ∀ n, K.Goes B Anywhere (fun _ => e) (Image μ) n (fun m a => F n a m) x y

def Steps (B:Nat) (e:Bool) (μ:α → β) (x:Parser α) (y:Parser β) : Prop :=
 ∀ n, K.Goes B Anywhere (fun _ => e) (Image μ) n (fun m _ => m = n) x y

def Takes (B:Nat) (P:TokenStream → Prop) (x y:Parser Token) : Prop :=
 ∀ n, K.Goes B P (fun _ => true) (Token.Moved ρ) n (fun m _ => m = n) x y

def Next (I J:K.State → σ → Prop) (m:K.State) : ForInStep σ → Prop
 | .done a => J m a
 | .yield a => I m a

def Turns (B:Nat) (d:σ → Bool) (μ:σ → τ) (n:K.State) (I J:K.State → σ → Prop)
  (x:Parser (ForInStep σ)) (y:Parser (ForInStep τ)) : Prop :=
 K.Goes B Anywhere (turns d) (Image (mapStep μ)) n (K.Next I J) x y

def Peers (x:Parser α) : Prop := ∀ s t, K.rel s t → ∃ a, x s = .ok a s ∧ x t = .ok a t

variable {K} {B:Nat} {P:TokenStream → Prop} {e:α → Bool} {e':γ → Bool} {R:α → β → Prop}
 {R':γ → δ → Prop} {n:K.State} {Q:K.State → α → Prop} {Q':K.State → γ → Prop}
 {x:Parser α} {y:Parser β} {k:α → Parser γ} {l:β → Parser δ} {μ:α → β}

lemma Outcome.after {s:TokenStream} {u:ParserState} {m:K.State} {d:α → Bool} {j:Nat}
  {p:EStateM.Result Fault ParserState α} {q:EStateM.Result Fault ParserState β}
  (passes:Passes j s u.stream) (reach:K.Reach n m) (h:K.Outcome m u.stream d R Q p q)
  (he:∀ a, (e a).toNat ≤ j + (d a).toNat) : K.Outcome n s e R Q p q := by
 cases h with
 | error state passes' holds reach' stage =>
  exact .error state ((passes.trans passes').weaken (Nat.zero_le _)) holds
   (K.reach_trans reach reach') stage
 | ok answer state passes' holds reach' paid =>
  exact .ok answer state ((passes.trans passes').weaken (he _)) holds
   (K.reach_trans reach reach') paid

namespace Goes

lemma mono {d:α → Bool} (h:K.Goes B P e R n Q x y) (he:∀ a, d a = true → e a = true) :
  K.Goes B P d R n Q x y := by
 refine fun s t hst hs hP hn =>
  .after (Passes.refl _) (K.reach_refl n) (h s t hst hs hP hn) fun a => ?_
 cases ha : d a with
 | false => exact Nat.zero_le _
 | true =>
  rw [he a ha]
  decide

lemma idle (h:K.Goes B P e R n Q x y) : K.Goes B P (fun _ => false) R n Q x y :=
 h.mono fun _ ha => nomatch ha

lemma weaken {Q':K.State → α → Prop} (h:K.Goes B P e R n Q x y)
  (hQ:∀ m a, Q m a → Q' m a) : K.Goes B P e R n Q' x y := by
 intro s t hst hs hP hn
 have hrun:=h s t hst hs hP hn
 generalize x s = p at hrun
 generalize y t = q at hrun
 cases hrun with
 | error state passes holds reach stage => exact .error state passes holds reach stage
 | ok answer state passes holds reach paid =>
  exact .ok answer state passes holds reach (hQ _ _ paid)

lemma restrict (h:K.Goes B P e R n Q x y) {C:Nat} (hC:C ≤ B) {P':TokenStream → Prop}
  (hP:∀ s, P' s → P s) : K.Goes C P' e R n Q x y :=
 fun s t hst hs hs' => h s t hst (Nat.lt_of_lt_of_le hs hC) (hP _ hs')

lemma fewer (h:K.Goes (B + 1) P e R n Q x y) : K.Goes B P e R n Q x y :=
 h.restrict (Nat.le_succ B) fun _ hP => hP

lemma anywhere (h:K.Goes B Anywhere e R n Q x y) : K.Goes B P e R n Q x y :=
 h.restrict (Nat.le_refl B) fun _ _ => trivial

lemma pure {a:α} {b:β} (h:Q n a) (he:e a = false) (hR:R a b) :
  K.Goes B P e R n Q (pure a) (pure b) := by
 intro s t hst _ _ hn
 refine .ok hR hst ?_ hn (K.reach_refl n) h
 rw [he]
 exact Passes.refl _

lemma throw {f g:Fault} (hf:f.stage = .grammatical) (hg:g = f.mapSpan ρ) :
  K.Goes B P e R n Q (MonadExcept.throw f) (MonadExcept.throw g) := by
 subst hg
 exact fun s t hst _ _ hn => .error hst (Passes.refl _) hn (K.reach_refl n) hf

/-- What the first part has passed is no longer left, and the second part need not pass it. -/
lemma seq (h:K.Goes B P e R n Q x y)
  (hk:∀ a b m, R a b → Q m a →
   K.Goes (B - (e a).toNat) Anywhere (fun c => !e a && e' c) R' m Q' (k a) (l b)) :
  K.Goes B P e' R' n Q' (x >>= k) (y >>= l) := by
 intro s t hst hs hP hn
 have hxy:=h s t hst hs hP hn
 simp only [Bind.bind,EStateM.bind]
 generalize x s = p at hxy
 generalize y t = q at hxy
 cases hxy with
 | error state passes holds reach stage => exact .error state passes holds reach stage
 | @ok a b s' t' m answer state passes holds reach paid =>
  have hleft:=passes.rest_length
  refine .after passes reach (hk a b m answer paid s' t' state (by omega) trivial holds) ?_
  intro c
  cases e a <;> cases e' c <;> decide

lemma bind (h:K.Goes B P e R n Q x y)
  (hk:∀ a b m, R a b → Q m a →
   K.Goes B Anywhere (fun c => !e a && e' c) R' m Q' (k a) (l b)) :
  K.Goes B P e' R' n Q' (x >>= k) (y >>= l) :=
 h.seq fun a b m hab hm => (hk a b m hab hm).restrict (Nat.sub_le _ _) fun _ h => h

lemma stop (h:K.Goes B P (fun _ => false) (fun _ _ => False) n (fun _ _ => True) x y) :
  K.Goes B P e' R' n Q' (x >>= k) (y >>= l) :=
 h.bind fun _ _ _ hab => hab.elim

lemma same {x:Parser α} {k:α → Parser γ} {l:α → Parser δ} {M:α → TokenStream → Prop}
  (hx:∀ {s t}, K.rel s t → ∃ a, x s = .ok a s ∧ x t = .ok a t ∧ M a s.stream)
  (h:∀ a, K.Goes B (fun s => P s ∧ M a s) e' R' n Q' (k a) (l a)) :
  K.Goes B P e' R' n Q' (x >>= k) (x >>= l) := by
 intro s t hst hs hP hn
 obtain ⟨a,hs',ht',hM⟩:=hx hst
 simp only [Bind.bind,EStateM.bind,hs',ht']
 exact h a s t hst hs ⟨hP,hM⟩ hn

end Goes

namespace Peers

variable {x:Parser α} {k:α → Parser γ} {l:α → Parser δ}

lemma «then» (hx:K.Peers x) (h:∀ a, K.Goes B P e' R' n Q' (k a) (l a)) :
  K.Goes B P e' R' n Q' (x >>= k) (x >>= l) := by
 refine .same (M := fun _ _ => True) (fun hst => ?_) fun a =>
  (h a).restrict (Nat.le_refl B) fun _ hP => hP.1
 obtain ⟨a,hs,ht⟩:=hx _ _ hst
 exact ⟨a,hs,ht,trivial⟩

lemma bind (hx:K.Peers x) (hk:∀ a, K.Peers (k a)) : K.Peers (x >>= k) := by
 intro s t hst
 obtain ⟨a,hs,ht⟩:=hx _ _ hst
 obtain ⟨b,hs',ht'⟩:=hk a s t hst
 exact ⟨b,by simp only [Bind.bind,EStateM.bind,hs,hs'],
  by simp only [Bind.bind,EStateM.bind,ht,ht']⟩

lemma pure (a:α) : K.Peers (Pure.pure a) := fun _ _ _ => ⟨a,rfl,rfl⟩

lemma kind : K.Peers Parser.kind :=
 fun _ _ hst => ⟨_,rfl,congrArg (EStateM.Result.ok · _) (K.kind hst)⟩

lemma peek? : K.Peers Parser.peek? :=
 fun _ _ hst => ⟨_,rfl,congrArg (EStateM.Result.ok · _) (K.peek hst)⟩

lemma check (p:Punctuator) : K.Peers (Parser.check p) := kind.bind fun _ => pure _

lemma peeks (p:Punctuator) : K.Peers (Parser.peeks p) := peek?.bind fun _ => pure _

lemma atEnd : K.Peers Parser.atEnd := kind.bind fun _ => pure _

lemma isTypeName (name:String) : K.Peers (Parser.isTypeName name) :=
 fun _ _ hst => ⟨_,rfl,congrArg (EStateM.Result.ok · _) (K.isType hst name)⟩

lemma startsTypeName (k:TokenKind) : K.Peers (Parser.startsTypeName k) := by
 unfold Parser.startsTypeName
 split
 · exact isTypeName _
 · exact pure _

lemma startsDeclaration (k:TokenKind) : K.Peers (Parser.startsDeclaration k) := by
 unfold Parser.startsDeclaration
 split
 · exact isTypeName _
 · exact pure _

end Peers

/-! ### One phrase after another -/

section Sequences

variable {F:K.State → α → K.State → Prop} {b:Bool}

lemma Goes.past (h:K.Goes B P (fun _ => true) (Image μ) n Q x y)
  (hk:∀ a m, Q m a → K.Goes B Anywhere (fun _ => false) R' m Q' (k a) (l (μ a))) :
  K.Goes B P e' R' n Q' (x >>= k) (y >>= l) :=
 h.bind fun a b m hab ha => by
  cases hab
  exact hk a m ha

lemma Goes.after (h:K.Goes B P e (Image μ) n Q x y)
  (hk:∀ a m, Q m a → K.Goes B Anywhere e' R' m Q' (k a) (l (μ a))) :
  K.Goes B P e' R' n Q' (x >>= k) (y >>= l) :=
 h.idle.bind fun a b m hab ha => by
  cases hab
  exact hk a m ha

lemma Reads.past (h:K.Reads B true μ F x y)
  (hk:∀ a m, F n a m → K.Goes B Anywhere (fun _ => false) R' m Q' (k a) (l (μ a))) :
  K.Goes B P e' R' n Q' (x >>= k) (y >>= l) :=
 (h n).anywhere.past hk

lemma Reads.after (h:K.Reads B b μ F x y)
  (hk:∀ a m, F n a m → K.Goes B Anywhere e' R' m Q' (k a) (l (μ a))) :
  K.Goes B P e' R' n Q' (x >>= k) (y >>= l) :=
 (h n).anywhere.after hk

lemma Reads.fewer (h:K.Reads (B + 1) b μ F x y) : K.Reads B b μ F x y := fun n => (h n).fewer

lemma Steps.past (h:K.Steps B true μ x y)
  (hk:∀ a, K.Goes B Anywhere (fun _ => false) R' n Q' (k a) (l (μ a))) :
  K.Goes B P e' R' n Q' (x >>= k) (y >>= l) :=
 Reads.past (F := fun n _ m => m = n) h fun a _ hm => hm ▸ hk a

lemma Steps.after (h:K.Steps B b μ x y)
  (hk:∀ a, K.Goes B Anywhere e' R' n Q' (k a) (l (μ a))) :
  K.Goes B P e' R' n Q' (x >>= k) (y >>= l) :=
 Reads.after (F := fun n _ m => m = n) h fun a _ hm => hm ▸ hk a

variable {x y:Parser Token} {k:Token → Parser γ} {l:Token → Parser δ}

lemma Takes.next (h:K.Takes (B + 1) P x y)
  (hk:∀ t text, K.Goes B Anywhere (fun _ => false) R' n Q' (k t) (l ⟨t.kind,text,ρ t.span⟩)) :
  K.Goes (B + 1) P e' R' n Q' (x >>= k) (y >>= l) :=
 (h n).seq fun t u m htu hm => by
  cases hm
  rw [htu.eq]
  exact hk t _

lemma Takes.past (h:K.Takes B P x y)
  (hk:∀ t text, K.Goes B Anywhere (fun _ => false) R' n Q' (k t) (l ⟨t.kind,text,ρ t.span⟩)) :
  K.Goes B P e' R' n Q' (x >>= k) (y >>= l) :=
 (h n).bind fun t u m htu hm => by
  cases hm
  rw [htu.eq]
  exact hk t _

end Sequences

/-! ### Primitive steps -/

namespace Goes

section Looks

variable {k:Token → Parser γ} {l:Token → Parser δ}

lemma currentAt
  (h:∀ kind text text' span, K.Goes B (At ⟨kind,text,span⟩) e' R' n Q' (k ⟨kind,text,span⟩)
   (l ⟨kind,text',ρ span⟩)) :
  K.Goes B P e' R' n Q' (Parser.current >>= k) (Parser.current >>= l) := by
 intro s t hst hs hP hn
 have hmoved:s.stream.current.Moved ρ t.stream.current:=⟨K.kind hst,K.span hst⟩
 have hrun:=h s.stream.current.kind s.stream.current.text t.stream.current.text
  s.stream.current.span s t hst hs rfl hn
 rw [← hmoved.eq] at hrun
 exact hrun

lemma current
  (h:∀ kind text text' span, K.Goes B (Standing kind) e' R' n Q' (k ⟨kind,text,span⟩)
   (l ⟨kind,text',ρ span⟩)) :
  K.Goes B P e' R' n Q' (Parser.current >>= k) (Parser.current >>= l) :=
 .currentAt fun kind text text' span =>
  (h kind text text' span).restrict (Nat.le_refl B) fun _ ht => congrArg Token.kind ht

lemma refuse (cause:String → Cause) (hcause:∀ text, (cause text).stage = .grammatical) :
  K.Goes B P e R n Q (Parser.refuse cause) (Parser.refuse cause) :=
 .current fun _ _ _ _ => .throw (hcause _) rfl

lemma here {k:Span → Parser γ} {l:Span → Parser δ}
  (h:∀ span, K.Goes B P e' R' n Q' (k span) (l (ρ span))) :
  K.Goes B P e' R' n Q' (Parser.here >>= k) (Parser.here >>= l) := by
 intro s t hst hs hP hn
 have hrun:=h s.stream.current.span s t hst hs hP hn
 rw [← K.span hst] at hrun
 exact hrun

lemma previous {k:Span → Parser γ} {l:Span → Parser δ}
  (h:∀ span, K.Goes B P e' R' n Q' (k span) (l (ρ span))) :
  K.Goes B P e' R' n Q' (Parser.previous >>= k) (Parser.previous >>= l) := by
 intro s t hst hs hP hn
 have hrun:=h s.stream.previous s t hst hs hP hn
 rw [← K.previous hst] at hrun
 exact hrun

lemma unsupported (feature:Feature) :
  K.Goes B P e R n Q (Parser.unsupported feature) (Parser.unsupported feature) :=
 .here fun _ => .throw rfl rfl

lemma kind {k:TokenKind → Parser γ} {l:TokenKind → Parser δ}
  (h:∀ w, K.Goes B (Standing w) e' R' n Q' (k w) (l w)) :
  K.Goes B P e' R' n Q' (Parser.kind >>= k) (Parser.kind >>= l) :=
 same (M := fun w s => s.current.kind = w)
  (fun hst => ⟨_,rfl,congrArg (EStateM.Result.ok · _) (K.kind hst),rfl⟩)
  fun w => (h w).restrict (Nat.le_refl B) fun _ hw => hw.2

variable {k:Bool → Parser γ} {l:Bool → Parser δ}

lemma isTypeName {name:String}
  (h:∀ b, (b = true → K.Knows n name) → K.Goes B P e' R' n Q' (k b) (l b)) :
  K.Goes B P e' R' n Q' (Parser.isTypeName name >>= k) (Parser.isTypeName name >>= l) := by
 intro s t hst hs hP hn
 change K.Outcome n s.stream e' R' Q' (k (s.names.isType name) s) (l (t.names.isType name) t)
 rw [K.isType hst name]
 exact h _ (K.known hn) s t hst hs hP hn

lemma branch {x:Parser Bool} {M:TokenStream → Prop} (hx:K.Peers x)
  (hM:∀ s, x s = .ok true s → M s.stream)
  (yes:K.Goes B (fun s => P s ∧ M s) e' R' n Q' (k true) (l true))
  (no:K.Goes B P e' R' n Q' (k false) (l false)) :
  K.Goes B P e' R' n Q' (x >>= k) (x >>= l) := by
 refine same (M := fun b s => b = true → M s) (fun hst => ?_) fun b => ?_
 · obtain ⟨b,hs,ht⟩:=hx _ _ hst
   exact ⟨b,hs,ht,fun hb => hM _ (hb ▸ hs)⟩
 · cases b with
   | true => exact yes.restrict (Nat.le_refl B) fun _ h => ⟨h.1,h.2 rfl⟩
   | false => exact no.restrict (Nat.le_refl B) fun _ h => h.1

lemma check {p:Punctuator} (yes:K.Goes B (Standing (.punct p)) e' R' n Q' (k true) (l true))
  (no:K.Goes B P e' R' n Q' (k false) (l false)) :
  K.Goes B P e' R' n Q' (Parser.check p >>= k) (Parser.check p >>= l) := by
 refine branch (Peers.check p) (M := Standing (.punct p)) (fun s h => ?_)
  (yes.restrict (Nat.le_refl B) fun _ h => h.2) no
 exact eq_of_beq (EStateM.Result.ok.inj h).1

lemma checkKeyword {w:Keyword}
  (yes:K.Goes B (Standing (.keyword w)) e' R' n Q' (k true) (l true))
  (no:K.Goes B P e' R' n Q' (k false) (l false)) :
  K.Goes B P e' R' n Q' (Parser.checkKeyword w >>= k) (Parser.checkKeyword w >>= l) := by
 refine branch (Peers.kind.bind fun _ => .pure _) (M := Standing (.keyword w)) (fun s h => ?_)
  (yes.restrict (Nat.le_refl B) fun _ h => h.2) no
 exact eq_of_beq (EStateM.Result.ok.inj h).1

lemma peeks {p:Punctuator}
  (yes:K.Goes B (fun s => P s ∧ s.peek? = some (.punct p)) e' R' n Q' (k true) (l true))
  (no:K.Goes B P e' R' n Q' (k false) (l false)) :
  K.Goes B P e' R' n Q' (Parser.peeks p >>= k) (Parser.peeks p >>= l) :=
 branch (M := fun s => s.peek? = some (.punct p)) (Peers.peeks p)
  (fun _ h => eq_of_beq (EStateM.Result.ok.inj h).1) yes no

end Looks

lemma advance {w:TokenKind} (hw:w.isEof = false) :
  K.Takes B (Standing w) Parser.advance Parser.advance :=
 fun _ _ _ hst _ hs hn => .ok ⟨K.kind hst,K.span hst⟩ (K.advance hst)
  (passes_advance ((congrArg TokenKind.isEof hs).trans hw)) (K.passed hn) (K.reach_refl _) rfl

lemma advanceAt {t:Token} (ht:t.kind.isEof = false) :
  K.Takes B (At t) Parser.advance Parser.advance :=
 fun n => (advance ht n).restrict (Nat.le_refl B) fun _ h => congrArg Token.kind h

lemma earning {t:Token} {k:Token → Parser γ} {l:Token → Parser δ}
  (h:∀ text, K.Goes B Anywhere (fun _ => false) R' (K.earn t.span n) Q' (k t)
   (l ⟨t.kind,text,ρ t.span⟩)) (ht:t.kind.isEof = false) :
  K.Goes (B + 1) (At t) e' R' n Q' (Parser.advance >>= k) (Parser.advance >>= l) := by
 have hadvance:K.Goes (B + 1) (At t) (fun _ => true)
   (fun u u' => u = t ∧ t.Moved ρ u') n (fun m _ => m = K.earn t.span n) Parser.advance
   Parser.advance := by
  rintro s u hst - rfl hn
  exact .ok ⟨rfl,K.kind hst,K.span hst⟩ (K.advance hst) (passes_advance ht) (K.earned hn ht)
   (K.reach_earn _ _) rfl
 refine hadvance.seq fun u u' m hu hm => ?_
 cases hu.1
 cases hm
 rw [hu.2.eq]
 exact h _

lemma expectKind {w:TokenKind} (hw:w.isEof = false) :
  K.Takes B P (Parser.expectKind w) (Parser.expectKind w) := by
 refine fun n => .kind fun w' => ?_
 split
 · rename_i h
   rw [eq_of_beq h]
   exact advance hw n
 · exact .refuse _ fun _ => rfl

lemma expect (p:Punctuator) : K.Takes B P (Parser.expect p) (Parser.expect p) := expectKind rfl

lemma expectKeyword (w:Keyword) :
  K.Takes B P (Parser.expectKeyword w) (Parser.expectKeyword w) :=
 expectKind rfl

lemma closing {p:Punctuator} {k:Span → Parser γ} {l:Span → Parser δ}
  (h:∀ span, K.Goes B Anywhere (fun _ => false) R' (K.earn span n) Q' (k span) (l (ρ span))) :
  K.Goes B P e' R' n Q' (Parser.expect p >>= fun _ => Parser.previous >>= k)
   (Parser.expect p >>= fun _ => Parser.previous >>= l) := by
 have hclose:K.Goes B P (fun _ => true) (Image ρ) n (fun m span => m = K.earn span n)
   (Parser.expect p >>= fun _ => Parser.previous)
   (Parser.expect p >>= fun _ => Parser.previous) := by
  rw [Parser.expect,Parser.expectKind,bind_assoc]
  refine .kind fun w => ?_
  split
  · rename_i hw
    intro s t hst _ hs hn
    have heof:s.stream.current.kind.isEof = false := by
     rw [show s.stream.current.kind = w from hs,eq_of_beq hw]
     rfl
    have hearned:=K.earned hn heof
    rw [← previous_advance heof] at hearned
    exact .ok (K.previous (K.advance hst)) (K.advance hst) (passes_advance heof) hearned
     (K.reach_earn _ _) rfl
  · exact .stop (.refuse _ fun _ => rfl)
 rw [← bind_assoc,← bind_assoc]
 refine hclose.bind fun span span' m hspan hm => ?_
 cases hspan
 cases hm
 exact h span

lemma ident : K.Steps B true (Ident.mapSpan ρ) Parser.ident Parser.ident := by
 refine fun n => .kind fun w => ?_
 split
 · exact (advance rfl).past fun _ _ => .pure rfl rfl rfl
 · exact .refuse _ fun _ => rfl

lemma noting : K.Goes B P (fun _ => true) (Image (Ident.mapSpan ρ)) n
  (fun m i => m = K.note i n) Parser.ident Parser.ident := by
 refine .kind fun w => ?_
 split
 · intro s t hst _ hs hn
   exact .ok (congrArg (Ident.mk _) (K.span hst)) (K.advance hst)
    (passes_advance (congrArg TokenKind.isEof hs)) (K.notes hn hs) (K.reach_note ..) rfl
 · exact .refuse _ fun _ => rfl

lemma ident? :
  K.Steps B false (Option.map (Ident.mapSpan ρ)) Parser.ident? Parser.ident? := by
 refine fun n => .kind fun w => ?_
 split
 · exact ident.past fun _ => .pure rfl rfl rfl
 · exact .pure rfl rfl rfl

lemma ident_before {k:Ident → Parser γ} {l:Ident → Parser δ} {w:TokenKind} {name:String}
  (h:∀ i, K.Goes B (Standing w) (fun _ => false) R' (K.earn i.span n) Q' (k i)
   (l (i.mapSpan ρ))) :
  K.Goes (B + 1) (fun s => Standing (.ident name) s ∧ s.peek? = some w) e' R' n Q'
   (Parser.ident >>= k) (Parser.ident >>= l) := by
 intro s t hst hs hP hn
 have hident {s:ParserState} (hs:s.stream.current.kind = .ident name) : Parser.ident s =
   .ok ⟨name,s.stream.current.span⟩ { s with stream := s.stream.advance } := by
  have hkind:Parser.kind s = .ok (.ident name) s:=congrArg (EStateM.Result.ok · s) hs
  simp only [Parser.ident,Bind.bind,EStateM.bind,hkind]
  rfl
 have heof:s.stream.current.kind.isEof = false:=congrArg TokenKind.isEof hP.1
 have hpass:Passes 1 s.stream s.stream.advance:=passes_advance heof
 have hleft:=hpass.rest_length
 simp only [Bind.bind,EStateM.bind,hident hP.1,hident ((K.kind hst).trans hP.1),K.span hst]
 exact .after (u := { s with stream := s.stream.advance }) hpass (K.reach_earn n _)
  (h ⟨name,s.stream.current.span⟩ _ _ (K.advance hst) (by dsimp only; omega)
   (current_advance hP.2) (K.earned hn heof)) fun c => Bool.toNat_le (e' c)

section Consuming

variable {p:Punctuator} {k:Bool → Parser γ} {l:Bool → Parser δ}

lemma consumes (p:Punctuator) :
  K.Goes B P id Eq n (fun m _ => m = n) (Parser.consume p) (Parser.consume p) :=
 .check ((advance rfl).past fun _ _ => .pure rfl rfl rfl) (.pure rfl rfl rfl)

lemma consume (yes:K.Goes B Anywhere (fun _ => false) R' n Q' (k true) (l true))
  (no:K.Goes B Anywhere e' R' n Q' (k false) (l false)) :
  K.Goes B P e' R' n Q' (Parser.consume p >>= k) (Parser.consume p >>= l) := by
 refine (consumes p).bind fun b c m hbc hm => ?_
 cases hbc
 cases hm
 cases b with
 | true => exact yes
 | false => exact no

lemma consume_next (yes:K.Goes B Anywhere (fun _ => false) R' n Q' (k true) (l true))
  (no:K.Goes (B + 1) Anywhere e' R' n Q' (k false) (l false)) :
  K.Goes (B + 1) P e' R' n Q' (Parser.consume p >>= k) (Parser.consume p >>= l) := by
 refine (consumes p).seq fun b c m hbc hm => ?_
 cases hbc
 cases hm
 cases b with
 | true => exact yes
 | false => exact no

lemma optional {k:Option α → Parser γ} {l:Option β → Parser δ} {f:α → Piece}
  (hx:K.Reads B true μ (fun n a m => K.Paid n [f a] m) x y)
  (hk:∀ a m, K.Paid n (a.toList.map f) m →
   K.Goes B Anywhere (fun _ => false) R' m Q' (k a) (l (a.map μ))) :
  K.Goes B P (fun _ => false) R' n Q'
   (Parser.consume p >>= fun b => if b = true then some <$> x >>= k else Pure.pure none >>= k)
   (Parser.consume p >>= fun b =>
    if b = true then some <$> y >>= l else Pure.pure none >>= l) := by
 refine .consume ?_ (hk none n (K.nil n))
 simp only [if_true,← bind_pure_comp,bind_assoc,pure_bind]
 exact hx.past fun a m ha => hk (some a) m ha

end Consuming

lemma declareName {k:Unit → Parser γ} {l:Unit → Parser δ} (name:String) (isType:Bool)
  (hname:K.Noted n name) (h:K.Goes B P e' R' (K.enroll name isType n) Q' (k ()) (l ())) :
  K.Goes B P e' R' n Q' (Parser.declareName name isType >>= k)
   (Parser.declareName name isType >>= l) :=
 fun s t hst hs hP hn => .after (u := s) (Passes.refl s.stream) (K.reach_enroll hname isType)
  (h { s with names := s.names.declare name isType }
  { t with names := t.names.declare name isType }
    (K.declare hst name isType) hs hP (K.enrolled hn name isType)) fun _ => Nat.le_add_left _ _

/-- The scope may have names of parameters in it as soon as it is open. -/
lemma inScopeWith {ps:List Param}
  (h:∀ s t, K.rel s t → s.stream.rest.length < B → P s.stream → K.Holds n s →
   K.Outcome (K.enter ps n) s.stream e R Q (x { s with names := s.names.openScope })
    (y { t with names := t.names.openScope })) :
  K.Goes B P e R n (fun m a => ∃ m', m = K.leave m' ∧ Q m' a) (Parser.inScope x)
   (Parser.inScope y) := by
 intro s t hst hs hP hn
 have hrun:=h s t hst hs hP hn
 unfold Parser.inScope
 generalize x _ = p at hrun
 generalize y _ = q at hrun
 cases hrun with
 | error state passes holds reach stage =>
  exact .error (K.closeScope state) passes (K.left holds) (K.reach_leave reach) stage
 | ok answer state passes holds reach paid =>
  exact .ok answer (K.closeScope state) passes (K.left holds) (K.reach_leave reach)
   ⟨_,rfl,paid⟩

lemma inScope (h:K.Goes B P e R (K.enter [] n) Q x y) :
  K.Goes B P e R n (fun m a => ∃ m', m = K.leave m' ∧ Q m' a) (Parser.inScope x)
   (Parser.inScope y) :=
 .inScopeWith fun _ _ hst hs hP hn => h _ _ (K.openScope hst) hs hP (K.entered hn [])

section Loops

variable {step:σ → Parser (ForInStep σ)} {step':τ → Parser (ForInStep τ)} {d:σ → σ → Bool}
 {μ:σ → τ} {I J:K.State → σ → Prop}

/-- A loop that has as many turns as there are tokens left does not run out of them: a turn that
asks for another one passes a token. -/
lemma repeatUpTo
  (h:∀ a m, I m a → K.Turns B (d a) μ m I J (step a) (step' (μ a)))
  {c C:Nat} (hB:C ≤ B) (hc:C ≤ c) {a:σ} (ha:I n a) :
  K.Goes C Anywhere (d a) (Image μ) n J (repeatUpTo step c a) (repeatUpTo step' c (μ a)) := by
 induction c generalizing C a n with
 | zero => exact fun s t _ hs => absurd hs (by omega)
 | succ c ih =>
  refine (Goes.restrict (h a n ha) hB fun _ hs => hs).seq fun turn turn' m hturn hI => ?_
  cases hturn
  cases turn with
  | done b => exact .pure hI (Bool.not_and_self _) rfl
  | yield b => exact (ih (by change C - 1 ≤ B; omega) (by change C - 1 ≤ c; omega) hI).idle

lemma loop (h:∀ a m, I m a → K.Turns B (d a) μ m I J (step a) (step' (μ a))) {a:σ}
  (ha:I n a) :
  K.Goes B P (d a) (Image μ) n J (Parser.loop step a) (Parser.loop step' (μ a)) := by
 intro s t hst hs _ hn
 unfold Parser.loop
 rw [K.length hst]
 exact repeatUpTo h hs (Nat.le_refl _) ha s t hst (Nat.lt_succ_self _) trivial hn

lemma steps_loop {step:σ → Parser (ForInStep σ)} {step':τ → Parser (ForInStep τ)} {μ:σ → τ}
  (h:∀ a n, K.Turns B (fun _ => false) μ n (fun m _ => m = n) (fun m _ => m = n) (step a)
   (step' (μ a))) (a:σ) : K.Steps B false μ (Parser.loop step a) (Parser.loop step' (μ a)) :=
 fun n => loop (fun a m (hm:m = n) => by subst hm; exact h a m) rfl

end Loops

end Goes

end Session

end CCheck
