import CCheck.Proofs.Parsing.UnitRules

/-! # Reading ends and stays inside the text

The depth of the readers and the turns of the loops are bounded by the number of tokens left, and
the bounds are never used up. Every call moves forward in one token list. -/

set_option autoImplicit false

namespace CCheck

open TokenStream
open CCheck.Parser (Anywhere Moves)

variable {α σ:Type}

/-! ### The token list and the place in it -/

/-- The list with an end of file at its last token, if it has none at its end. -/
def closedTokens (ts:List Token) : List Token :=
 match ts.getLast? with
 | none => [.eof .nowhere]
 | some t => if t.kind.isEof then ts else ts ++ [.eof t.span]

def Token.mark (t:Token) : TokenKind × Span := (t.kind,t.span)

lemma marks_tokens_ofTokens (ts:List Token) :
  (ofTokens ts).tokens.map Token.mark = (closedTokens ts).map Token.mark := by
 unfold ofTokens closedTokens
 cases hlast : ts.getLast? with
 | none => rfl
 | some t =>
  dsimp only
  split
  · rename_i heof
    obtain ⟨us,rfl⟩:=List.getLast?_eq_some_iff.mp hlast
    have hkind:t.kind = .eof := by
     cases hk : t.kind with
     | eof => rfl
     | _ => rw [hk] at heof; exact nomatch heof
    simp [tokens,Token.mark,Token.eof,hkind]
  · simp [tokens]

namespace TokenStream

variable (s:TokenStream)

lemma length_tokens : s.tokens.length = s.position + s.rest.length + 1 := by
 simp [tokens,position,Nat.add_assoc]

lemma position_lt : s.position < s.tokens.length := by
 rw [length_tokens]
 omega

lemma drop_tokens : s.tokens.drop s.position = s.rest ++ [.eof s.finish] := by
 simp [tokens,position,List.append_assoc]

lemma getElem?_current : s.tokens[s.position]? = some s.current := by
 have h:s.tokens[s.position]? = (s.rest ++ [Token.eof s.finish])[0]? := by
  rw [← drop_tokens,List.getElem?_drop,Nat.add_zero]
 rw [h]
 unfold current
 cases s.rest with
 | nil => rfl
 | cons t ts => rfl

lemma getElem?_next : s.tokens[s.position + 1]?.map Token.kind = s.peek? := by
 have h:s.tokens[s.position + 1]? = (s.rest ++ [Token.eof s.finish])[1]? := by
  rw [← drop_tokens,List.getElem?_drop]
 rw [h]
 unfold peek?
 rcases s.rest with _ | ⟨t,_ | ⟨u,us⟩⟩
 · rfl
 · rfl
 · rfl

lemma getElem?_previous : s.tokens[s.position - 1]?.map Token.span = some s.previous := by
 have hcurrent:=getElem?_current s
 unfold previous
 cases hpassed : s.passed with
 | nil =>
  have hzero:s.position = 0 := by rw [position,hpassed]; rfl
  rw [hzero] at hcurrent ⊢
  rw [hcurrent]
  rfl
 | cons t ts => simp [tokens,position,hpassed]

end TokenStream

inductive ParserCall where
 | unit
 | expr
deriving DecidableEq, Repr

def ParserCall.after (s:ParserState) : ParserCall → ParserState
 | unit =>
  match Parser.unit s with
  | .ok _ t => t
  | .error _ t => t
 | expr =>
  match Parser.expr s with
  | .ok _ t => t
  | .error _ t => t

/-! ### Readers -/

namespace Grammar

/-- Reads phrases that nest less than `depth` deep, and asks `last` for those below. -/
def readOver (last:Reader) : Nat → Reader
 | 0 => last
 | depth + 1 => rule (readOver last depth)

lemma read_eq_readOver (depth:Nat) :
  (read depth:Reader) = readOver (fun _ => Parser.refuse .expectedExpr) depth := by
 induction depth with
 | zero => rfl
 | succ depth ih => exact congrArg rule ih

end Grammar

open Grammar

namespace Session

abbrev self : Session .identity := Parser.Simulation.same.session

variable {β:Type} {e:α → Bool} {x:Parser α}

lemma moves {y:Parser β} {R:α → β → Prop} {Q:self.State → α → Prop}
  (h:∀ B, self.Goes B Anywhere e R () Q x y) (s:ParserState) : Moves e s.stream (x s) := by
 have hrun:=h _ s s rfl (Nat.lt_succ_self _) trivial trivial
 generalize x s = p at hrun
 generalize y s = q at hrun
 cases hrun with
 | ok _ _ passes => exact passes
 | error _ passes => exact passes

lemma same {y:Parser α} {μ:α → α} {Q:self.State → α → Prop} {s:ParserState}
  (h:self.Goes (s.stream.rest.length + 1) Anywhere e (Image μ) () Q x y) (hμ:∀ a, μ a = a) :
  x s = y s := by
 have hrun:=h s s rfl (Nat.lt_succ_self _) trivial trivial
 generalize x s = p at hrun
 generalize y s = q at hrun
 cases hrun with
 | ok answer state =>
  cases answer
  cases state
  rw [hμ]
 | error state =>
  cases state
  rfl

lemma reading_readOver (last last':Reader) {B d d':Nat} (hd:B ≤ d) (hd':B ≤ d') :
  self.Reading B (readOver last d) (readOver last' d') := by
 induction B generalizing d d' with
 | zero => constructor <;> intros <;> exact fun _ _ _ _ hs => absurd hs (Nat.not_lt_zero _)
 | succ B ih =>
  obtain ⟨d,rfl⟩ : ∃ e, d = e + 1:=⟨d - 1,by omega⟩
  obtain ⟨d',rfl⟩ : ∃ e, d' = e + 1:=⟨d' - 1,by omega⟩
  exact (ih (by omega) (by omega)).rule

lemma reading_read_readOver (last:Reader) {n depth:Nat} (h:n < depth) :
  self.Reading (n + 1) (read (n + 1)) (readOver last depth) := by
 rw [read_eq_readOver]
 exact reading_readOver _ _ (Nat.le_refl _) h

end Session

open Session (self moves)

/-- Turn after turn, without a bound on their number, the loop ends with the outcome. -/
inductive Parser.Finishes (step:σ → Parser (ForInStep σ)) :
  σ → ParserState → EStateM.Result Fault ParserState σ → Prop where
 | done {a b:σ} {s t:ParserState} (h:step a s = .ok (.done b) t) :
   Finishes step a s (.ok b t)
 | failed {a:σ} {s t:ParserState} {f:Fault} (h:step a s = .error f t) :
   Finishes step a s (.error f t)
 | next {a b:σ} {s t:ParserState} {o:EStateM.Result Fault ParserState σ}
   (h:step a s = .ok (.yield b) t) (more:Finishes step b t o) : Finishes step a s o

open CCheck.Parser (Finishes)

/-- A loop has as many turns as there are tokens left, and one that asks for another turn passes
a token. -/
lemma finishes_loop {τ:Type} {step:σ → Parser (ForInStep σ)}
  {step':σ → Parser (ForInStep τ)} {d:σ → σ → Bool} {μ:σ → τ}
  {I J:σ → self.State → σ → Prop}
  (h:∀ B a, self.Turns B (d a) μ () (I a) (J a) (step a) (step' a)) (a:σ) (s:ParserState) :
  Finishes step a s (Parser.loop step a s) := by
 have hbound (n:Nat) : ∀ a s, s.stream.rest.length < n →
   Finishes step a s (Parser.repeatUpTo step n a s) := by
  induction n with
  | zero => exact fun _ _ hn => absurd hn (Nat.not_lt_zero _)
  | succ n ih =>
   intro a s hn
   have hmove:=moves (fun B => h B a) s
   simp only [Parser.repeatUpTo,bind,EStateM.bind]
   cases hstep : step a s with
   | error f t => exact .failed hstep
   | ok turn t =>
    rw [hstep] at hmove
    cases turn with
    | done b => exact .done hstep
    | yield b =>
     have hpass:Passes 1 s.stream t.stream:=hmove
     have hleft:=hpass.rest_length
     exact .next hstep (ih b t (by omega))
 exact hbound _ a s (Nat.lt_succ_self _)

inductive Repetition (r:Reader) : {σ:Type} → (σ → Parser (ForInStep σ)) → Prop where
 | strings : Repetition r stringStep
 | arguments : Repetition r (argumentStep r)
 | postfixes : Repetition r (postfixStep r)
 | operators (least:Nat) : Repetition r (binaryStep r least)
 | commas : Repetition r (commaStep r)
 | specifiers (allowed:Bool) : Repetition r (specifierStep r allowed)
 | members (start:Span) (type:TypeExpr) : Repetition r (memberStep r start type)
 | memberDeclarations : Repetition r (memberListStep r)
 | enumerators : Repetition r (enumeratorStep r)
 | stars : Repetition r starStep
 | starQualifiers : Repetition r starQualifierStep
 | arrayQualifiers : Repetition r arrayQualifierStep
 | parameters : Repetition r (parameterStep r)
 | suffixes : Repetition r (suffixStep r)
 | initializers : Repetition r (initializerStep r)
 | declarators (start:Span) (specs:Specifiers) : Repetition r (declaratorStep r start specs)
 | blockItems : Repetition r (blockItemStep r)
 | externals : Repetition r (externalStep r)

lemma Repetition.finishes {r:Reader} {step:σ → Parser (ForInStep σ)}
  (h:Repetition r step) (hr:∀ B, self.Reading B r r) :
  ∀ a s, Finishes step a s (Parser.loop step a s) := by
 cases h with
 | strings => exact finishes_loop fun _ a => turns_stringStep (K := self) a ()
 | arguments => exact finishes_loop fun B _ => (hr B).argumentStep (n := ()) trivial
 | postfixes => exact finishes_loop fun B _ => ((hr B).postfixStep (n := ()) trivial).fewer
 | operators least =>
  exact finishes_loop fun B _ => ((hr B).binaryStep (n := ()) least trivial).fewer
 | commas => exact finishes_loop fun B _ => ((hr B).commaStep (n := ()) trivial).fewer
 | specifiers allowed =>
  have named (s:SpecifierState) : self.Named () () s.named := by cases s.named <;> trivial
  exact finishes_loop fun B s => ((hr B).specifierStep allowed (named s)).fewer
 | members start type => exact finishes_loop fun B _ => (hr B).memberStep (n := ()) start trivial
 | memberDeclarations => exact finishes_loop fun B _ => (hr B).memberListStep (n := ()) trivial
 | enumerators => exact finishes_loop fun B _ => ((hr B).enumeratorStep (n := ()) trivial).fewer
 | stars => exact finishes_loop fun _ a => turns_starStep (K := self) a ()
 | starQualifiers => exact finishes_loop fun _ a => turns_starQualifierStep (K := self) a ()
 | arrayQualifiers => exact finishes_loop fun _ a => turns_arrayQualifierStep (K := self) a ()
 | parameters => exact finishes_loop fun B _ => (hr B).parameterStep (n := ()) trivial
 | suffixes => exact finishes_loop fun B _ => ((hr B).suffixStep (n := ()) trivial).fewer
 | initializers => exact finishes_loop fun B _ => (hr B).initializerStep (n := ()) trivial
 | declarators start specs =>
  have group (ds:List Declaration) : self.Group () specs.type ds () ∧ 0 ≤ ds.length:=
   ⟨trivial,Nat.zero_le _⟩
  exact finishes_loop fun B ds => ((hr B).declaratorStep start (group ds)).fewer
 | blockItems => exact finishes_loop fun B _ => (hr B).blockItemStep (n := ()) trivial
 | externals => exact finishes_loop fun B _ => ((hr B).externalStep (n := ()) trivial).fewer

inductive Production (r:Reader) : {α:Type} → Parser α → Prop where
 | primary : Production r (primary r)
 | postfixed : Production r (postfixed r)
 | unary : Production r (unary r)
 | cast : Production r (cast r)
 | binary (least:Nat) : Production r (binary r least)
 | conditional : Production r (conditional r)
 | assignment : Production r (assignment r)
 | expression : Production r (expression r)
 | specifiers (allowed:Bool) : Production r (specifiers r allowed)
 | declarator : Production r (declarator r false)
 | typeName : Production r (typeName r)
 | parameter : Production r (parameter r)
 | member (start:Span) (type:TypeExpr) : Production r (member r start type)
 | memberDeclaration : Production r (memberDeclaration r)
 | enumerator : Production r (enumerator r)
 | initializer : Production r (initializer r)
 | initDeclarator (start:Span) (specs:Specifiers) :
   Production r (initDeclarator r start specs)
 | declaration : Production r (declaration r)
 | block : Production r (block r)
 | statement : Production r (statement r)
 | externalDeclaration : Production r (externalDeclaration r)
 | phrase (p:Phrase) (h:p.passes = true) : Production r (r p)

lemma Production.moves {r:Reader} {x:Parser α} (h:Production r x)
  (hr:∀ B, self.Reading B r r) (s:ParserState) : Moves (fun _ => true) s.stream (x s) := by
 cases h with
 | primary => exact moves (fun B => (hr B).primary.fewer ()) s
 | postfixed => exact moves (fun B => (hr B).postfixed.fewer ()) s
 | unary => exact moves (fun B => (hr B).unaryRule.fewer ()) s
 | cast => exact moves (fun B => (hr B).castRule.fewer ()) s
 | binary least => exact moves (fun B => ((hr B).binaryRule least).fewer ()) s
 | conditional => exact moves (fun B => (hr B).conditionalRule.fewer ()) s
 | assignment => exact moves (fun B => (hr B).assignmentRule.fewer ()) s
 | expression => exact moves (fun B => (hr B).expression.fewer ()) s
 | specifiers allowed => exact moves (fun B => ((hr B).specifiersRule allowed).fewer ()) s
 | declarator => exact moves (fun B => ((hr B).declaratorRule false).fewer ()) s
 | typeName => exact moves (fun B => (hr B).typeName.fewer ()) s
 | parameter => exact moves (fun B => (hr B).parameter ()) s
 | member start type =>
  have members:self.Members () type [] ():=trivial
  exact moves (fun B => (hr B).member start members) s
 | memberDeclaration => exact moves (fun B => (hr B).memberDeclaration ()) s
 | enumerator => exact moves (fun B => (hr B).enumerator.fewer ()) s
 | initializer => exact moves (fun B => (hr B).initializerRule.fewer ()) s
 | initDeclarator start specs =>
  have group:self.Group () specs.type [] ():=trivial
  exact moves (fun B => ((hr B).initDeclarator start group).fewer) s
 | declaration => exact moves (fun B => (hr B).declaration.fewer ()) s
 | block => exact moves (fun B => ((hr B).block ()).fewer) s
 | statement => exact moves (fun B => (hr B).statementRule.fewer) s
 | externalDeclaration => exact moves (fun B => (hr B).externalDeclaration.fewer ()) s
 | phrase p h =>
  cases p with
  | expr => exact moves (fun B => (hr B).expr ()) s
  | assignment => exact moves (fun B => (hr B).assignment ()) s
  | conditional => exact moves (fun B => (hr B).conditional ()) s
  | binary least => exact moves (fun B => (hr B).binary least ()) s
  | cast => exact moves (fun B => (hr B).cast ()) s
  | unary => exact moves (fun B => (hr B).unary ()) s
  | specifiers allowed => exact moves (fun B => (hr B).specifiers allowed ()) s
  | declarator abstract =>
   cases abstract with
   | false => exact moves (fun B => (hr B).declarator false ()) s
   | true => cases h
  | initializer => exact moves (fun B => (hr B).initializer ()) s
  | statement => exact moves (fun B => (hr B).statement ()) s

lemma ParserCall.passes_after (c:ParserCall) (s:ParserState) :
  Passes 0 s.stream (c.after s).stream := by
 cases c with
 | unit =>
  have h:Moves (fun _ => false) s.stream (Parser.unit s):=moves (fun B => self.unit ()) s
  unfold ParserCall.after
  dsimp only
  cases hrun : Parser.unit s with
  | ok u t => rw [hrun] at h; exact h
  | error f t => rw [hrun] at h; exact h
 | expr =>
  have h:Moves (fun _ => true) s.stream (Parser.expr s):=
   Production.expression.moves (fun B => self.reading_read B _) s
  unfold ParserCall.after
  dsimp only
  cases hrun : Parser.expr s with
  | ok e t => rw [hrun] at h; exact Passes.weaken h (Nat.zero_le 1)
  | error f t => rw [hrun] at h; exact h

lemma passes_calls (calls:List ParserCall) (s:ParserState) :
  Passes 0 s.stream (calls.foldl ParserCall.after s).stream := by
 induction calls generalizing s with
 | nil => exact Passes.refl _
 | cons c calls ih => exact (c.passes_after s).trans (ih (c.after s))

lemma unit_eq_readOver (last:Reader) (depth:Nat) (s:ParserState)
  (h:s.stream.rest.length < depth) :
  Parser.unit s = (do return ProgramUnit.mk (← externals (readOver last depth))) s := by
 have hunit:self.Goes (s.stream.rest.length + 1) Anywhere (fun _ => false)
   (Image (ProgramUnit.mapSpans id)) () (fun _ _ => True)
   (do return ProgramUnit.mk (← externals (read (s.stream.rest.length + 1))))
   (do return ProgramUnit.mk (← externals (readOver last depth))) :=
  (Session.reading_read_readOver last h).externals.fewer.after fun _ _ _ => .pure trivial rfl rfl
 have hsame:=Session.same hunit ProgramUnit.mapSpans_id
 exact hsame

lemma expr_eq_readOver (last:Reader) (depth:Nat) (s:ParserState)
  (h:s.stream.rest.length < depth) :
  Parser.expr s = expression (readOver last depth) s := by
 have hexpr:self.Goes (s.stream.rest.length + 1) Anywhere (fun _ => true)
   (Image (Expr.mapSpans id)) () (fun _ _ => True) (expression (read (s.stream.rest.length + 1)))
   (expression (readOver last depth)) :=
  ((Session.reading_read_readOver last h).expression.fewer ()).weaken fun _ _ _ => trivial
 have hsame:=Session.same hexpr Expr.mapSpans_id
 exact hsame

/-- A parser started on any token list works on that list, closed by an end of file. Its place is
always inside the list, so that the current, the next and the previous token are there to be looked
at. Calls for programs and expressions in any number and order, also after failed ones, keep the
list and never move back. They end: neither the depth of the phrases nor the turns of a loop reach
their bounds. And a construct that was read has passed a token, none of them an end of file. -/
theorem parser_progress :
  (∀ ts : List Token, (TokenStream.ofTokens ts).position = 0 ∧
   (TokenStream.ofTokens ts).tokens.map Token.mark = (closedTokens ts).map Token.mark) ∧
  (∀ s : TokenStream, s.position < s.tokens.length ∧
   s.tokens[s.position]? = some s.current ∧
   s.tokens[s.position + 1]?.map Token.kind = s.peek? ∧
   s.tokens[s.position - 1]?.map Token.span = some s.previous) ∧
  (∀ (calls:List ParserCall) (s:ParserState),
   (calls.foldl ParserCall.after s).stream.tokens = s.stream.tokens ∧
   s.stream.position ≤ (calls.foldl ParserCall.after s).stream.position) ∧
  (∀ (last:Reader) (depth:Nat) (s:ParserState), s.stream.rest.length < depth →
   Parser.unit s = (do return ProgramUnit.mk (← externals (readOver last depth))) s ∧
   Parser.expr s = expression (readOver last depth) s) ∧
  (∀ (depth:Nat) {σ:Type} (step:σ → Parser (ForInStep σ)), Repetition (read depth) step →
   ∀ a s, Finishes step a s (Parser.loop step a s)) ∧
  (∀ (depth:Nat) {α:Type} (x:Parser α), Production (read depth) x → ∀ s,
   (∀ a t, x s = .ok a t → Passes 1 s.stream t.stream) ∧
   ∀ f t, x s = .error f t → Passes 0 s.stream t.stream) := by
 refine ⟨fun ts => ⟨?_,marks_tokens_ofTokens ts⟩,fun s => ?_,fun calls s => ?_,
  fun last depth s h => ⟨unit_eq_readOver last depth s h,expr_eq_readOver last depth s h⟩,
  fun depth _ step h => h.finishes fun B => self.reading_read B depth,fun depth _ x h s => ?_⟩
 · unfold TokenStream.ofTokens
   split
   · rfl
   · split <;> rfl
 · exact ⟨s.position_lt,s.getElem?_current,s.getElem?_next,s.getElem?_previous⟩
 · exact ⟨(passes_calls calls s).tokens_eq,(passes_calls calls s).position_le⟩
 · have hmove:=h.moves (fun B => self.reading_read B depth) s
   constructor
   · intro a t ht
     rw [ht] at hmove
     exact hmove
   · intro f t ht
     rw [ht] at hmove
     exact hmove

end CCheck
