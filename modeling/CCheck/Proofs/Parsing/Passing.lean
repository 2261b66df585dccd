import CCheck.Grammar.Phrase
import Mathlib.Tactic.Lemma

/-! # Passing tokens

Reading moves tokens from those left to those passed and does nothing else to the stream. -/

set_option autoImplicit false

namespace CCheck

namespace TokenStream

def tokens (s:TokenStream) : List Token := s.passed.reverse ++ s.rest ++ [.eof s.finish]

def position (s:TokenStream) : Nat := s.passed.length

/-- The second place lies `n` tokens or more behind the first one in the same text, and no end of
file stands between them. -/
def Passes (n:Nat) (s t:TokenStream) : Prop :=
 ∃ us, s.rest = us ++ t.rest ∧ t.passed = us.reverse ++ s.passed ∧ t.finish = s.finish ∧
  n ≤ us.length ∧ ∀ u ∈ us, u.kind.isEof = false

variable {s t u:TokenStream} {m n:Nat}

lemma Passes.refl (s:TokenStream) : Passes 0 s s :=
 ⟨[],rfl,rfl,rfl,Nat.le_refl 0,List.forall_mem_nil _⟩

lemma Passes.trans (h:Passes m s t) (h':Passes n t u) : Passes (m + n) s u := by
 obtain ⟨us,hrest,hpassed,hfinish,hlength,heof⟩:=h
 obtain ⟨vs,hrest',hpassed',hfinish',hlength',heof'⟩:=h'
 refine ⟨us ++ vs,?_,?_,hfinish'.trans hfinish,?_,?_⟩
 · rw [hrest,hrest',List.append_assoc]
 · rw [hpassed',hpassed,List.reverse_append,List.append_assoc]
 · rw [List.length_append]
   omega
 · intro v hv
   rcases List.mem_append.mp hv with hv | hv
   · exact heof v hv
   · exact heof' v hv

lemma Passes.weaken (h:Passes n s t) (hmn:m ≤ n) : Passes m s t := by
 obtain ⟨us,hrest,hpassed,hfinish,hlength,heof⟩:=h
 exact ⟨us,hrest,hpassed,hfinish,Nat.le_trans hmn hlength,heof⟩

lemma Passes.rest_length (h:Passes n s t) : t.rest.length + n ≤ s.rest.length := by
 obtain ⟨us,hrest,_,_,hlength,_⟩:=h
 rw [hrest,List.length_append]
 omega

lemma Passes.tokens_eq (h:Passes n s t) : t.tokens = s.tokens := by
 obtain ⟨us,hrest,hpassed,hfinish,_,_⟩:=h
 simp only [tokens,hrest,hpassed,hfinish,List.reverse_append,List.reverse_reverse,
  List.append_assoc]

lemma Passes.position_le (h:Passes n s t) : s.position + n ≤ t.position := by
 obtain ⟨us,_,hpassed,_,hlength,_⟩:=h
 simp only [position,hpassed,List.length_append,List.length_reverse]
 omega

lemma passes_advance (h:s.current.kind.isEof = false) : Passes 1 s s.advance := by
 obtain ⟨passed,rest,finish⟩:=s
 cases rest with
 | nil => exact nomatch h
 | cons t ts =>
  refine ⟨[t],rfl,rfl,rfl,Nat.le_refl 1,?_⟩
  intro v hv
  cases List.mem_singleton.mp hv
  exact h

lemma previous_advance (h:s.current.kind.isEof = false) :
  s.advance.previous = s.current.span := by
 obtain ⟨passed,rest,finish⟩:=s
 cases rest with
 | nil => cases h
 | cons t ts => rfl

lemma current_advance {k:TokenKind} (h:s.peek? = some k) : s.advance.current.kind = k := by
 obtain ⟨passed,rest,finish⟩:=s
 rcases rest with _ | ⟨t,_ | ⟨u,us⟩⟩
 · exact nomatch h
 · exact Option.some.inj h
 · exact Option.some.inj h

end TokenStream

namespace Parser

open TokenStream

variable {σ:Type}

def At (t:Token) (s:TokenStream) : Prop := s.current = t

def Standing (k:TokenKind) (s:TokenStream) : Prop := s.current.kind = k

def Anywhere (_:TokenStream) : Prop := True

/-- Whether a turn of a loop passes a token: one that asks for another turn does, one that ends
the loop does if its answer says so. -/
def turns (e:σ → Bool) : ForInStep σ → Bool
 | .yield _ => true
 | .done a => e a

/-- A run that moved forward only: by a token or more, if it has an answer that satisfies `e`. -/
def Moves {α:Type} (e:α → Bool) (s:TokenStream) : EStateM.Result Fault ParserState α → Prop
 | .ok a t => Passes (e a).toNat s t.stream
 | .error _ t => Passes 0 s t.stream

end Parser

end CCheck
