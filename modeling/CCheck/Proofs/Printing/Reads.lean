import CCheck.Grammar.Stream
import Mathlib.Tactic.Lemma

/-! # What a parser reads

`Reads names p ts rest Q` says that `p`, before tokens of the kinds `ts` and then `rest`,
passes exactly the first of them and answers a value that satisfies `Q`. -/

set_option autoImplicit false

namespace CCheck

variable {α β σ:Type} {names names' names'':TypeNames} {ts us rest:List TokenKind}

/-- The state stands before tokens of the kinds `ts` and knows the type names `names`. -/
structure ParserState.Before (names:TypeNames) (ts:List TokenKind) (s:ParserState) :
  Prop where
 kinds : s.stream.rest.map (·.kind) = ts
 names : s.names = names

namespace ParserState.Before

variable {s:ParserState}

lemma kind (h:s.Before names ts) : s.stream.current.kind = ts.headD .eof := by
 obtain ⟨⟨passed,tokens,finish⟩,ns⟩:=s
 obtain ⟨rfl,-⟩:=h
 cases tokens <;> rfl

lemma length (h:s.Before names ts) : s.stream.rest.length = ts.length := by
 rw [← h.kinds,List.length_map]

lemma advance {k:TokenKind} (h:s.Before names (k :: ts)) :
  ParserState.Before names ts { s with stream := s.stream.advance } := by
 obtain ⟨⟨passed,tokens,finish⟩,ns⟩:=s
 obtain ⟨hkinds,hnames⟩:=h
 cases tokens with
 | nil => cases hkinds
 | cons t tokens => exact ⟨(List.cons.inj hkinds).2,hnames⟩

end ParserState.Before

def peekKind : List TokenKind → Option TokenKind
 | [] => none
 | _ :: ts => some (ts.headD .eof)

lemma Parser.bind_ok {p:Parser α} {k:α → Parser β} {a:α} {s t:ParserState}
  (h:p s = .ok a t) : (p >>= k) s = k a t := by
 simp only [bind,EStateM.bind,h]

def ReadsInto (names names':TypeNames) (p:Parser α) (ts rest:List TokenKind)
  (Q:α → Prop) : Prop :=
 ∀ s, s.Before names (ts ++ rest) → ∃ a s', p s = .ok a s' ∧ Q a ∧ s'.Before names' rest

def Reads (names:TypeNames) (p:Parser α) (ts rest:List TokenKind) (Q:α → Prop) : Prop :=
 ReadsInto names names p ts rest Q

variable {p:Parser α} {k:α → Parser β} {Q:α → Prop} {Q':β → Prop}

namespace ReadsInto

lemma bind (h:ReadsInto names names' p ts (us ++ rest) Q)
  (hk:∀ a, Q a → ReadsInto names' names'' (k a) us rest Q') :
  ReadsInto names names'' (p >>= k) (ts ++ us) rest Q' := by
 intro s hs
 rw [List.append_assoc] at hs
 obtain ⟨a,s',hp,ha,hs'⟩:=h s hs
 obtain ⟨b,s'',hb,hQ,hs''⟩:=hk a ha s' hs'
 refine ⟨b,s'',?_,hQ,hs''⟩
 rw [Parser.bind_ok hp]
 exact hb

lemma look (h:Reads names p [] (us ++ rest) Q)
  (hk:∀ a, Q a → ReadsInto names names' (k a) us rest Q') :
  ReadsInto names names' (p >>= k) us rest Q' :=
 bind h hk

lemma lookAfter (h:ReadsInto names names' p ts rest Q)
  (hk:∀ a, Q a → ReadsInto names' names'' (k a) [] rest Q') :
  ReadsInto names names'' (p >>= k) ts rest Q' := by
 rw [← List.append_nil ts]
 exact bind h hk

end ReadsInto

namespace Reads

lemma pure {a:α} (h:Q a) : Reads names (pure a) [] rest Q :=
 fun s hs => ⟨a,s,rfl,h,hs⟩

lemma mono {Q'':α → Prop} (h:Reads names p ts rest Q) (hQ:∀ a, Q a → Q'' a) :
  Reads names p ts rest Q'' := by
 intro s hs
 obtain ⟨a,s',hp,ha,hs'⟩:=h s hs
 exact ⟨a,s',hp,hQ a ha,hs'⟩

lemma bind (h:Reads names p ts (us ++ rest) Q) (hk:∀ a, Q a → Reads names (k a) us rest Q') :
  Reads names (p >>= k) (ts ++ us) rest Q' :=
 ReadsInto.bind h hk

lemma look (h:Reads names p [] (us ++ rest) Q) (hk:∀ a, Q a → Reads names (k a) us rest Q') :
  Reads names (p >>= k) us rest Q' :=
 bind h hk

lemma lookAfter (h:Reads names p ts rest Q) (hk:∀ a, Q a → Reads names (k a) [] rest Q') :
  Reads names (p >>= k) ts rest Q' :=
 ReadsInto.lookAfter h hk

lemma next {t:TokenKind} (h:Reads names p [t] (us ++ rest) Q)
  (hk:∀ a, Q a → Reads names (k a) us rest Q') : Reads names (p >>= k) (t :: us) rest Q' :=
 bind h hk

/-! ### Primitive steps -/

lemma current : Reads names Parser.current [] rest fun t => t.kind = rest.headD .eof :=
 fun s hs => ⟨_,s,rfl,hs.kind,hs⟩

lemma kind : Reads names Parser.kind [] rest fun k => k = rest.headD .eof :=
 fun s hs => ⟨_,s,rfl,hs.kind,hs⟩

lemma here : Reads names Parser.here [] rest fun _ => True :=
 fun s hs => ⟨_,s,rfl,trivial,hs⟩

lemma previous : Reads names Parser.previous [] rest fun _ => True :=
 fun s hs => ⟨_,s,rfl,trivial,hs⟩

lemma advance {k:TokenKind} : Reads names Parser.advance [k] rest fun t => t.kind = k :=
 fun _ hs => ⟨_,_,rfl,hs.kind,hs.advance⟩

lemma peek? : Reads names Parser.peek? [] rest fun k => k = peekKind rest := by
 intro s hs
 refine ⟨_,s,rfl,?_,hs⟩
 obtain ⟨⟨passed,tokens,finish⟩,ns⟩:=s
 obtain ⟨rfl,-⟩:=hs
 match tokens with
 | [] => rfl
 | [_] => rfl
 | _ :: _ :: _ => rfl

lemma check (p:Punctuator) :
  Reads names (Parser.check p) [] rest fun b => b = (rest.headD .eof == .punct p) :=
 kind.look fun _ hk => pure (congrArg (· == TokenKind.punct p) hk)

lemma checkKeyword (w:Keyword) :
  Reads names (Parser.checkKeyword w) [] rest fun b => b = (rest.headD .eof == .keyword w) :=
 kind.look fun _ hk => pure (congrArg (· == TokenKind.keyword w) hk)

lemma peeks (p:Punctuator) :
  Reads names (Parser.peeks p) [] rest fun b => b = (peekKind rest == some (.punct p)) :=
 peek?.look fun _ hk => pure (congrArg (· == some (TokenKind.punct p)) hk)

lemma consume_present (p:Punctuator) :
  Reads names (Parser.consume p) [.punct p] rest fun b => b = true := by
 refine (check p).look fun b hb => ?_
 obtain rfl : b = true := by simpa using hb
 exact advance.bind fun _ _ => pure rfl

lemma consume_absent {p:Punctuator} (h:rest.headD .eof ≠ .punct p) :
  Reads names (Parser.consume p) [] rest fun b => b = false := by
 refine (check p).look fun b hb => ?_
 obtain rfl : b = false := by rw [hb]; exact beq_false_of_ne h
 exact pure rfl

lemma expect (p:Punctuator) : Reads names (Parser.expect p) [.punct p] rest fun _ => True := by
 refine kind.look fun k hk => ?_
 rw [if_pos (by simp [hk])]
 exact advance.mono fun _ _ => trivial

lemma ident (name:String) :
  Reads names Parser.ident [.ident name] rest fun i => i.name = name := by
 refine kind.look fun k hk => ?_
 obtain rfl : k = .ident name:=hk
 exact advance.bind fun _ _ => pure rfl

lemma isTypeName (name:String) :
  Reads names (Parser.isTypeName name) [] rest fun b => b = names.isType name :=
 fun s hs => ⟨_,s,rfl,by rw [← hs.names],hs⟩

end Reads

/-! ### Loops -/

inductive LoopRuns (step:σ → Parser (ForInStep σ)) :
  σ → ParserState → σ → ParserState → Prop where
 | done {a b:σ} {s t:ParserState} (h:step a s = .ok (.done b) t) : LoopRuns step a s b t
 | next {a b c:σ} {s t u:ParserState} (h:step a s = .ok (.yield b) t)
    (shorter:t.stream.rest.length < s.stream.rest.length) (tail:LoopRuns step b t c u) :
    LoopRuns step a s c u

lemma LoopRuns.repeatUpTo {step:σ → Parser (ForInStep σ)} {a b:σ} {s t:ParserState}
  (h:LoopRuns step a s b t) {n:Nat} (hn:s.stream.rest.length < n) :
  Parser.repeatUpTo step n a s = .ok b t := by
 induction h generalizing n with
 | done h =>
  obtain ⟨n,rfl⟩ : ∃ m, n = m + 1:=⟨n - 1,by omega⟩
  rw [Parser.repeatUpTo,Parser.bind_ok h]
  rfl
 | next h shorter _ ih =>
  obtain ⟨n,rfl⟩ : ∃ m, n = m + 1:=⟨n - 1,by omega⟩
  rw [Parser.repeatUpTo,Parser.bind_ok h]
  exact ih (by omega)

lemma LoopRuns.loop {step:σ → Parser (ForInStep σ)} {a b:σ} {s t:ParserState}
  (h:LoopRuns step a s b t) : Parser.loop step a s = .ok b t :=
 h.repeatUpTo (Nat.lt_succ_self _)

/-- The start of a loop and some of its steps pass `ts`; the loop stands before `rest` with
a value that satisfies `Q`, and ends as it does from there. -/
def Opens (names:TypeNames) (start:Parser σ) (step:σ → Parser (ForInStep σ))
  (ts rest:List TokenKind) (Q:σ → Prop) : Prop :=
 ∀ s, s.Before names (ts ++ rest) → ∃ a t, Q a ∧ t.Before names rest ∧
  ∀ b u, LoopRuns step a t b u → (start >>= Parser.loop step) s = .ok b u

namespace Opens

variable {start:Parser σ} {step:σ → Parser (ForInStep σ)} {Q Q':σ → Prop}

lemma of_start (h:Reads names start ts rest Q) : Opens names start step ts rest Q := by
 intro s hs
 obtain ⟨a,t,hstart,ha,ht⟩:=h s hs
 refine ⟨a,t,ha,ht,fun b u hruns => ?_⟩
 rw [Parser.bind_ok hstart]
 exact hruns.loop

lemma next (h:Opens names start step ts (us ++ rest) Q) (hus:us ≠ [])
  (hstep:∀ a, Q a → Reads names (step a) us rest fun r => ∃ b, r = .yield b ∧ Q' b) :
  Opens names start step (ts ++ us) rest Q' := by
 intro s hs
 rw [List.append_assoc] at hs
 obtain ⟨a,t,ha,ht,hloop⟩:=h s hs
 obtain ⟨_,u,hu,⟨b,rfl,hb⟩,hbefore⟩:=hstep a ha t ht
 refine ⟨b,u,hb,hbefore,fun c v hruns => hloop c v (.next hu ?_ hruns)⟩
 have hlength:=List.length_pos_iff.mpr hus
 rw [ht.length,hbefore.length,List.length_append]
 omega

lemma finish (h:Opens names start step ts (us ++ rest) Q)
  (hdone:∀ a, Q a → Reads names (step a) us rest fun r => ∃ b, r = .done b ∧ Q' b) :
  Reads names (start >>= Parser.loop step) (ts ++ us) rest Q' := by
 intro s hs
 rw [List.append_assoc] at hs
 obtain ⟨a,t,ha,ht,hloop⟩:=h s hs
 obtain ⟨_,u,hu,⟨b,rfl,hb⟩,hbefore⟩:=hdone a ha t ht
 exact ⟨b,u,hloop b u (.done hu),hb,hbefore⟩

lemma close (h:Opens names start step ts rest Q)
  (hdone:∀ a, Q a → Reads names (step a) [] rest fun r => r = .done a) :
  Reads names (start >>= Parser.loop step) ts rest Q := by
 rw [← List.append_nil ts]
 exact finish h fun a ha => (hdone a ha).mono fun r hr => ⟨a,hr,ha⟩

/-- A loop that collects a list reads items one after another, if whatever may follow an
item is begun by every other item. Items are compared by their keys. -/
lemma items {ι κ τ:Type} {step:List τ → Parser (ForInStep (List τ))}
  {print:ι → List TokenKind} {key:τ → κ} {keyOf:ι → κ} {F:List TokenKind → Prop}
  {xs:List ι} (hprint:∀ x ∈ xs, print x ≠ [] ∧ ∀ us, F (print x ++ us))
  (hstep:∀ x ∈ xs, ∀ rest acc, F rest → Reads names (step acc) (print x) rest
   fun y => ∃ a, y = .yield (acc ++ [a]) ∧ key a = keyOf x)
  {done:List κ} (hrest:F rest)
  (h:Opens names (pure []) step ts (xs.flatMap print ++ rest) fun l => l.map key = done) :
  Opens names (pure []) step (ts ++ xs.flatMap print) rest
   fun l => l.map key = done ++ xs.map keyOf := by
 induction xs generalizing ts done with
 | nil => simpa using h
 | cons x xs ih =>
  have hx:=List.mem_cons_self (a := x) (l := xs)
  have hxs (y:ι) (hy:y ∈ xs):=List.mem_cons_of_mem x hy
  have hfollow:F (xs.flatMap print ++ rest) := by
   cases xs with
   | nil => exact hrest
   | cons y ys =>
    rw [List.flatMap_cons,List.append_assoc]
    exact (hprint y (hxs y List.mem_cons_self)).2 _
  rw [List.flatMap_cons,List.append_assoc] at h
  have hnext:Opens names (pure []) step (ts ++ print x) (xs.flatMap print ++ rest)
    fun l => l.map key = done ++ [keyOf x] := by
   refine Opens.next h (hprint x hx).1 fun l hl => ?_
   refine (hstep x hx _ l hfollow).mono fun y hy => ?_
   obtain ⟨a,rfl,ha⟩:=hy
   exact ⟨_,rfl,by rw [List.map_append,hl,List.map_singleton,ha]⟩
  have hall:=ih (fun y hy => hprint y (hxs y hy)) (fun y hy => hstep y (hxs y hy)) hnext
  simpa [List.append_assoc] using hall

end Opens

lemma Reads.loop_done {step:σ → Parser (ForInStep σ)} {a:σ}
  (h:Reads names (step a) [] rest fun r => r = .done a) :
  Reads names (Parser.loop step a) [] rest fun b => b = a := by
 have hstart:Opens names (Pure.pure a) step [] rest fun b => b = a:=.of_start (.pure rfl)
 exact hstart.close fun b hb => by rwa [hb]

end CCheck
