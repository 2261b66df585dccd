import CCheck.Proofs.Parsing.Termination
import CCheck.Proofs.Printing.Reads

/-! # Precedence levels

Binary operators are read by one loop that asks for tighter operands by precedence. The same trees
come of a cascade with one loop for each of the ten levels. When an operand has been read, the
operator that follows binds less tightly than the operand was asked to. -/

set_option autoImplicit false

namespace CCheck

open TokenStream Grammar
open CCheck.Session (self Reading Goes)
open CCheck.Session.Goes (advance loop)
open CCheck.Parser (Finishes Moves)

namespace Grammar

open CCheck.Parser

def levelStep (operand:Parser Expr) (level:Nat) (left:Expr) :
  Parser (ForInStep Expr) := do
 match (← kind).binary? with
 | some (op,p) =>
  if p = level then
   let _ ← advance
   let right ← operand
   return .yield (.binary op left right (left.span.merge right.span))
  else return .done left
 | none => return .done left

/-- The levels from the one for casts down, which is level 11: each reads its operands by the level
above it. -/
def cascade (r:Reader) : Nat → Parser Expr
 | 0 => cast r
 | n + 1 => do
  let left ← cascade r n
  loop (levelStep (cascade r n) (10 - n)) left

end Grammar

section

variable {ρ:Relocation} {K:Session ρ} {B:Nat} {r r':Reader} {n m:K.State}

lemma turns_levelStep {x y:Parser Expr} (h:K.ReadsExpr B x y) (level:Nat) {left:Expr}
  (hleft:K.Paid n [.expr left] m) :
  K.ExtendsExpr (B + 1) n m (levelStep x level left)
   (levelStep y level (left.mapSpans ρ)) := by
 refine Goes.kind fun w => ?_
 split
 · rename_i op p hop
   split
   · refine (advance (TokenKind.isEof_of_binary? hop)).next fun _ _ => h.past fun _ _ he => ?_
     exact .pure (K.children rfl (K.append hleft he)) rfl
      (by simp [image_iff,mapStep,Expr.mapSpans,Expr.mapSpans_span,Relocation.merge])
   · exact .pure hleft rfl rfl
 · exact .pure hleft rfl rfl

lemma Session.Reading.cascade (hr:K.Reading B r r') (levels:Nat) :
  K.ReadsExpr (B + 1) (cascade r levels) (cascade r' levels) := by
 induction levels with
 | zero => exact hr.castRule
 | succ levels ih =>
  exact fun _ => ih.past fun _ _ he => loop (fun _ _ => turns_levelStep ih.fewer _) he

end

section

variable {α β σ:Type}

lemma Parser.Finishes.unique {step:σ → Parser (ForInStep σ)} {a:σ} {s:ParserState}
  {o o':EStateM.Result Fault ParserState σ} (h:Finishes step a s o)
  (h':Finishes step a s o') : o = o' := by
 induction h with
 | done h =>
  cases h' with
  | done h' => cases h.symm.trans h'; rfl
  | failed h' => cases h.symm.trans h'
  | next h' _ => cases h.symm.trans h'
 | failed h =>
  cases h' with
  | done h' => cases h.symm.trans h'
  | failed h' => cases h.symm.trans h'; rfl
  | next h' _ => cases h.symm.trans h'
 | next h _ ih =>
  cases h' with
  | done h' => cases h.symm.trans h'
  | failed h' => cases h.symm.trans h'
  | next h' more => cases h.symm.trans h'; exact ih more

lemma Parser.bind_of_eq {x y:Parser α} {k:α → Parser β} {s t:ParserState}
  (h:x s = y t) : (x >>= k) s = (y >>= k) t := by
 simp only [bind,EStateM.bind,h]

lemma Parser.bind_congr_at {x:Parser α} {k k':α → Parser β} {s:ParserState}
  (h:∀ a t, x s = .ok a t → k a t = k' a t) : (x >>= k) s = (x >>= k') s := by
 simp only [bind,EStateM.bind]
 cases hx : x s with
 | ok a t => exact h a t hx
 | error f t => rfl

lemma Parser.loop_of_done {step:σ → Parser (ForInStep σ)} {a b:σ} {s t:ParserState}
  (h:∀ a s, Finishes step a s (Parser.loop step a s)) (hstep:step a s = .ok (.done b) t) :
  Parser.loop step a s = .ok b t :=
 (h a s).unique (.done hstep)

lemma Parser.loop_of_yield {step:σ → Parser (ForInStep σ)} {a:σ} {s s':ParserState}
  (h:∀ a s, Finishes step a s (Parser.loop step a s)) {x:Parser α} {f:α → σ}
  (hstep:step a s = (x >>= fun b => pure (.yield (f b))) s') :
  Parser.loop step a s = (x >>= fun b => Parser.loop step (f b)) s' := by
 simp only [bind,EStateM.bind] at hstep ⊢
 cases hx : x s' with
 | ok b t =>
  simp only [hx] at hstep ⊢
  exact (h a s).unique (.next hstep (h (f b) t))
 | error e t =>
  simp only [hx] at hstep ⊢
  exact (h a s).unique (.failed hstep)

end

/-! ### Operators -/

def TokenStream.Loose (least:Nat) (s:TokenStream) : Prop :=
 ∀ op p, s.current.kind.binary? = some (op,p) → p < least

lemma TokenKind.precedence_le_ten {k:TokenKind} {op:BinOp} {p:Nat}
  (h:k.binary? = some (op,p)) : p ≤ 10 := by
 cases k with
 | punct q => cases q <;> cases h <;> decide
 | _ => cases h

def ParserState.advance (s:ParserState) : ParserState := { s with stream := s.stream.advance }

lemma Parser.kind_bind {α:Type} (k:TokenKind → Parser α) (s:ParserState) :
  (Parser.kind >>= k) s = k s.stream.current.kind s := rfl

lemma Parser.advance_bind {α:Type} (x:Parser α) (s:ParserState) :
  (Parser.advance >>= fun _ => x) s = x s.advance := rfl

section

variable {r:Reader} {x:Parser Expr} {least level:Nat} {left:Expr} {s:ParserState}
 {op:BinOp} {p:Nat}

lemma ParserState.length_advance (h:s.stream.current.kind.binary? = some (op,p)) :
  s.advance.stream.rest.length < s.stream.rest.length :=
 (passes_advance (TokenKind.isEof_of_binary? h)).rest_length

lemma binaryStep_of_loose (h:s.stream.Loose least) :
  binaryStep r least left s = .ok (.done left) s := by
 rw [binaryStep,Parser.kind_bind]
 cases hop : s.stream.current.kind.binary? with
 | none => rfl
 | some found =>
  obtain ⟨op,p⟩:=found
  dsimp only
  rw [if_pos (h op p hop)]
  rfl

lemma binaryStep_of_tight (h:s.stream.current.kind.binary? = some (op,p)) (hp:least ≤ p) :
  binaryStep r least left s = (r (.binary (p + 1)) >>= fun right =>
   pure (.yield (.binary op left right (left.span.merge right.span)))) s.advance := by
 rw [binaryStep,Parser.kind_bind,h]
 dsimp only
 rw [if_neg (Nat.not_lt.mpr hp),Parser.advance_bind]

lemma loose_of_done {e:Expr} {t:ParserState}
  (h:binaryStep r least left s = .ok (.done e) t) : t.stream.Loose least := by
 by_cases hloose : s.stream.Loose least
 · rw [binaryStep_of_loose hloose] at h
   cases h
   exact hloose
 · unfold TokenStream.Loose at hloose
   push Not at hloose
   obtain ⟨op,p,hop,hp⟩:=hloose
   rw [binaryStep_of_tight hop hp] at h
   simp only [bind,EStateM.bind] at h
   split at h
   · cases h
   · cases h

lemma levelStep_of_ne (h:∀ op, s.stream.current.kind.binary? ≠ some (op,level)) :
  levelStep x level left s = .ok (.done left) s := by
 rw [levelStep,Parser.kind_bind]
 cases hop : s.stream.current.kind.binary? with
 | none => rfl
 | some found =>
  obtain ⟨op,p⟩:=found
  dsimp only
  rw [if_neg fun hp:p = level => h op (hp ▸ hop)]
  rfl

lemma levelStep_of_eq (h:s.stream.current.kind.binary? = some (op,level)) :
  levelStep x level left s = (x >>= fun right =>
   pure (.yield (.binary op left right (left.span.merge right.span)))) s.advance := by
 rw [levelStep,Parser.kind_bind,h]
 dsimp only
 rw [if_pos rfl,Parser.advance_bind]

end

/-! ### Loops -/

section

variable {depth:Nat} {left:Expr} {s t:ParserState} {op:BinOp} {p:Nat}

lemma finishes_binaryStep (depth least:Nat) (left:Expr) (s:ParserState) :
  Finishes (binaryStep (read depth) least) left s
   (Parser.loop (binaryStep (read depth) least) left s) :=
 (Repetition.operators least).finishes (fun B => self.reading_read B depth) left s

lemma finishes_levelStep (depth levels level:Nat) (left:Expr) (s:ParserState) :
  Finishes (levelStep (cascade (read depth) levels) level) left s
   (Parser.loop (levelStep (cascade (read depth) levels) level) left s) := by
 have hreads (B:Nat):=(self.reading_read B depth).cascade levels
 exact finishes_loop
  (fun B _ => (turns_levelStep (n := ()) (hreads B).fewer level trivial).fewer) left s

lemma loop_of_loose {least:Nat} (h:s.stream.Loose least) :
  Parser.loop (binaryStep (read depth) least) left s = .ok left s :=
 Parser.loop_of_done (finishes_binaryStep depth least) (binaryStep_of_loose h)

lemma loose_of_finishes {least:Nat} {o:EStateM.Result Fault ParserState Expr}
  (h:Finishes (binaryStep (read depth) least) left s o) :
  ∀ e t, o = .ok e t → t.stream.Loose least := by
 induction h with
 | done hstep =>
  rintro _ _ ⟨⟩
  exact loose_of_done hstep
 | failed => nofun
 | next _ _ ih => exact ih

lemma loose_of_binary {least:Nat} {e:Expr} (h:binary (read depth) least s = .ok e t) :
  t.stream.Loose least := by
 unfold binary at h
 simp only [bind,EStateM.bind] at h
 split at h
 · exact loose_of_finishes (finishes_binaryStep depth least _ _) e t h
 · cases h

lemma read_binary {least:Nat} (h:s.stream.rest.length + 1 < depth) :
  read depth (.binary least) s = binary (read depth) least s := by
 obtain ⟨d,rfl⟩ : ∃ d, depth = d + 1:=⟨depth - 1,by omega⟩
 have hd:s.stream.rest.length + 1 ≤ d := by omega
 have hreads:=Session.reading_readOver (fun _ => Parser.refuse .expectedExpr)
  (fun _ => Parser.refuse .expectedExpr) hd (Nat.le_succ_of_le hd)
 rw [← read_eq_readOver,← read_eq_readOver] at hreads
 exact Session.same ((hreads.binaryRule least).fewer ()) Expr.mapSpans_id

lemma passes_cast {e:Expr} (h:cast (read depth) s = .ok e t) :
  t.stream.rest.length ≤ s.stream.rest.length := by
 have hmoves:=Production.cast.moves (fun B => self.reading_read B depth) s
 rw [h] at hmoves
 exact Nat.le_of_succ_le (TokenStream.Passes.rest_length hmoves)

lemma passes_phrase {least:Nat} {e:Expr} (h:read depth (.binary least) s = .ok e t) :
  t.stream.rest.length ≤ s.stream.rest.length := by
 have hmoves:=(Production.phrase (.binary least) rfl).moves
  (fun B => self.reading_read B depth) s
 rw [h] at hmoves
 exact Nat.le_of_succ_le (TokenStream.Passes.rest_length hmoves)

/-- One loop for all operators from the level on is one for those above it, and then one for the
level. The operands of the level are read by what reads as the loop above it does. -/
lemma loop_level {levels level:Nat} (hoperand:∀ s : ParserState,
   s.stream.rest.length < depth →
    cascade (read depth) levels s = binary (read depth) (level + 1) s)
  (hs:s.stream.rest.length < depth) :
  Parser.loop (binaryStep (read depth) level) left s =
   (Parser.loop (binaryStep (read depth) (level + 1)) left >>=
    Parser.loop (levelStep (cascade (read depth) levels) level)) s := by
 induction hn : s.stream.rest.length using Nat.strong_induction_on generalizing s left with
 | _ n ih =>
  subst hn
  have hfinishes:=finishes_levelStep depth levels level
  by_cases hloose : s.stream.Loose level
  -- The operator is too loose for all three loops.
  · have habove:s.stream.Loose (level + 1):=fun op p hop =>
     Nat.lt_succ_of_lt (hloose op p hop)
    have hne (op) (hop:s.stream.current.kind.binary? = some (op,level)) : False:=
     absurd (hloose op level hop) (Nat.lt_irrefl level)
    rw [loop_of_loose hloose,Parser.bind_ok (loop_of_loose habove)]
    exact (Parser.loop_of_done hfinishes (levelStep_of_ne hne)).symm
  · unfold TokenStream.Loose at hloose
    push Not at hloose
    obtain ⟨op,p,hop,hp⟩:=hloose
    have hless:=ParserState.length_advance hop
    rw [Parser.loop_of_yield (finishes_binaryStep depth level) (binaryStep_of_tight hop hp)]
    obtain hlt | rfl:=Nat.lt_or_eq_of_le hp
    -- The loop above the level takes the operator as well.
    · rw [Parser.bind_of_eq (Parser.loop_of_yield (finishes_binaryStep depth (level + 1))
       (binaryStep_of_tight hop hlt)),bind_assoc]
      refine Parser.bind_congr_at fun right t ht => ?_
      have hlength:=passes_phrase ht
      exact ih _ (by omega) (by omega) rfl
    -- The operator is of the level, and the one after its operand is not above it.
    · have hstop:s.stream.Loose (level + 1) := by
       intro op' p' hop'
       cases hop.symm.trans hop'
       exact Nat.lt_succ_self level
      have hsame:cascade (read depth) levels s.advance =
        read depth (.binary (level + 1)) s.advance :=
       (hoperand _ (by omega)).trans (read_binary (by omega)).symm
      rw [Parser.bind_ok (loop_of_loose hstop),
       Parser.loop_of_yield hfinishes (levelStep_of_eq hop),Parser.bind_of_eq hsame]
      refine Parser.bind_congr_at fun right t ht => ?_
      have hlength:=passes_phrase ht
      have hnext:t.stream.Loose (level + 1):=
       loose_of_binary ((read_binary (by omega)).symm.trans ht)
      rw [ih _ (by omega) (by omega) rfl,Parser.bind_ok (loop_of_loose hnext)]

lemma cascade_eq_binary {levels:Nat} (hlevels:levels ≤ 10)
  (hs:s.stream.rest.length < depth) :
  cascade (read depth) levels s = binary (read depth) (11 - levels) s := by
 induction levels generalizing s with
 | zero =>
  have hloose (t:ParserState) : t.stream.Loose 11:=fun op p hop =>
   Nat.lt_succ_of_le (TokenKind.precedence_le_ten hop)
  have hcast:binary (read depth) 11 s = (cast (read depth) >>= pure) s:=
   Parser.bind_congr_at fun left t _ => loop_of_loose (hloose t)
  rw [bind_pure] at hcast
  exact hcast.symm
 | succ levels ih =>
  have hlevel:11 - levels = 10 - levels + 1 := by omega
  have hoperand (t:ParserState) (ht:t.stream.rest.length < depth) :
    cascade (read depth) levels t = binary (read depth) (10 - levels + 1) t := by
   rw [ih (by omega) ht,hlevel]
  rw [show 11 - (levels + 1) = 10 - levels by omega]
  calc
    cascade (read depth) (levels + 1) s
      = (binary (read depth) (10 - levels + 1) >>=
          Parser.loop (levelStep (cascade (read depth) levels) (10 - levels))) s :=
        Parser.bind_of_eq (hoperand s hs)
    _ = (cast (read depth) >>= fun left =>
          Parser.loop (binaryStep (read depth) (10 - levels + 1)) left >>=
            Parser.loop (levelStep (cascade (read depth) levels) (10 - levels))) s := by
        rw [binary,bind_assoc]
    _ = binary (read depth) (10 - levels) s :=
        Parser.bind_congr_at fun left t ht =>
          (loop_level hoperand (Nat.lt_of_le_of_lt (passes_cast ht) hs)).symm

end

/-- The parser of a level of the cascade, from `||` at 1 to the factors at 10 and casts at 11. -/
def Grammar.level (r:Reader) (k:Nat) : Parser Expr := cascade r (11 - k)

/-- Reading operators by precedence is reading by the cascade of the ten levels: the same tree or
fault, and the same place, from every state and with every reader that is deep enough for it. -/
theorem binary_eq_level :
  (∀ r : Reader, level r 11 = cast r ∧ ∀ k, 1 ≤ k → k ≤ 10 →
   level r k = do
    let left ← level r (k + 1)
    Parser.loop (levelStep (level r (k + 1)) k) left) ∧
  (∀ (k:Nat) (s:ParserState), 1 ≤ k → k ≤ 10 →
   withReader (fun r => binary r k) s = withReader (fun r => level r k) s) ∧
  ∀ (depth k:Nat) (s:ParserState), s.stream.rest.length < depth → 1 ≤ k → k ≤ 10 →
   binary (read depth) k s = level (read depth) k s := by
 have hdeep (depth k:Nat) (s:ParserState) (hs:s.stream.rest.length < depth) (hk:1 ≤ k)
   (hk':k ≤ 10) : binary (read depth) k s = level (read depth) k s := by
  have hlevels:11 - k ≤ 10 := by omega
  have hcascade:=cascade_eq_binary hlevels hs
  rw [show 11 - (11 - k) = k by omega] at hcascade
  exact hcascade.symm
 refine ⟨fun r => ⟨rfl,fun k hk hk' => ?_⟩,fun k s => hdeep _ k s (Nat.lt_succ_self _),hdeep⟩
 have hlevels:11 - k = 11 - (k + 1) + 1 := by omega
 have hlevel:10 - (11 - (k + 1)) = k := by omega
 unfold level
 rw [hlevels,cascade,hlevel]

end CCheck
