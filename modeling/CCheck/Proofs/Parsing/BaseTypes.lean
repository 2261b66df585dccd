import CCheck.Grammar
import Mathlib.Data.List.Perm.Basic

/-! # Base types as multisets of words

The words of a base type and the qualifiers may stand in any order. What they name together is what
the table of base types says about the words with their repetitions. -/

set_option autoImplicit false

namespace CCheck

open Keyword

namespace SpecifierCounts

def baseTypes : List (List Keyword × BaseType) :=
 [([kwVoid],.void),([kwBool],.bool),([kwChar],.char),([kwSigned,kwChar],.schar),
  ([kwUnsigned,kwChar],.uchar),
  ([kwShort],.short),([kwSigned,kwShort],.short),([kwShort,kwInt],.short),
  ([kwSigned,kwShort,kwInt],.short),([kwUnsigned,kwShort],.ushort),
  ([kwUnsigned,kwShort,kwInt],.ushort),
  ([kwInt],.int),([kwSigned],.int),([kwSigned,kwInt],.int),([kwUnsigned],.uint),
  ([kwUnsigned,kwInt],.uint),
  ([kwLong],.long),([kwSigned,kwLong],.long),([kwLong,kwInt],.long),
  ([kwSigned,kwLong,kwInt],.long),([kwUnsigned,kwLong],.ulong),
  ([kwUnsigned,kwLong,kwInt],.ulong),
  ([kwLong,kwLong],.longLong),([kwSigned,kwLong,kwLong],.longLong),
  ([kwLong,kwLong,kwInt],.longLong),([kwSigned,kwLong,kwLong,kwInt],.longLong),
  ([kwUnsigned,kwLong,kwLong],.ulongLong),([kwUnsigned,kwLong,kwLong,kwInt],.ulongLong),
  ([kwFloat],.float),([kwDouble],.double),([kwLong,kwDouble],.longDouble)]

def words : List Keyword :=
 [kwVoid,kwBool,kwChar,kwShort,kwInt,kwLong,kwFloat,kwDouble,kwSigned,kwUnsigned]

def ofWords (ws:List Keyword) : SpecifierCounts :=
 ⟨.ofNat (ws.count kwVoid),.ofNat (ws.count kwBool),.ofNat (ws.count kwChar),
  .ofNat (ws.count kwShort),.ofNat (ws.count kwInt),.ofNat (ws.count kwLong),
  .ofNat (ws.count kwFloat),.ofNat (ws.count kwDouble),.ofNat (ws.count kwSigned),
  .ofNat (ws.count kwUnsigned)⟩

lemma ofNat_inj {m n:Nat} (hm:m ≤ 255) (hn:n ≤ 255) : UInt8.ofNat m = UInt8.ofNat n ↔ m = n := by
 constructor
 · intro h
   have htoNat:=congrArg UInt8.toNat h
   rwa [UInt8.toNat_ofNat_of_lt' (Nat.lt_succ_of_le hm),
    UInt8.toNat_ofNat_of_lt' (Nat.lt_succ_of_le hn)] at htoNat
 · exact congrArg UInt8.ofNat

lemma ofWords_eq_iff {ws row:List Keyword} (hrow:∀ k ∈ row, k ∈ words)
  (hcount:∀ k, ws.count k ≤ 255) (hshort:row.length ≤ 255) :
  ofWords ws = ofWords row ↔ (ws.filter (· ∈ words)).Perm row := by
 have hsame (k:Keyword) : UInt8.ofNat (ws.count k) = UInt8.ofNat (row.count k) ↔
   ws.count k = row.count k:=
  ofNat_inj (hcount k) (Nat.le_trans List.count_le_length hshort)
 have hcounts:ofWords ws = ofWords row ↔ ∀ k ∈ words, ws.count k = row.count k := by
  simp [ofWords,words,hsame]
 rw [hcounts,List.perm_iff_count]
 refine forall_congr' fun k => ?_
 by_cases hk : k ∈ words
 · rw [List.count_filter (by simpa using hk)]
   exact ⟨fun h => h hk,fun h _ => h⟩
 · have hws:k ∉ ws.filter (· ∈ words):=fun hmem => hk (by simpa using List.of_mem_filter hmem)
   rw [List.count_eq_zero_of_not_mem hws,List.count_eq_zero_of_not_mem fun hmem => hk (hrow k hmem)]
   exact ⟨fun _ => rfl,fun _ h => absurd h hk⟩

lemma base_of_row : ∀ row ∈ baseTypes,
  (ofWords row.1).isEmpty = false ∧ (ofWords row.1).base = .ok row.2 := by
 decide +kernel

def isListed (c:SpecifierCounts) : Bool :=
 c.isEmpty || c.base.toOption.all fun b =>
  (baseTypes.map fun row => (ofWords row.1,row.2)).contains (c,b)

lemma isListed_small : ∀ v < 2, ∀ b < 2, ∀ c < 2, ∀ s < 2, ∀ i < 2, ∀ l < 3, ∀ f < 2, ∀ d < 2,
  ∀ n < 2, ∀ u < 2, isListed ⟨.ofNat v,.ofNat b,.ofNat c,.ofNat s,.ofNat i,.ofNat l,.ofNat f,
   .ofNat d,.ofNat n,.ofNat u⟩ = true := by
 have hall:((List.range 2).all fun v => (List.range 2).all fun b => (List.range 2).all fun c =>
   (List.range 2).all fun s => (List.range 2).all fun i => (List.range 3).all fun l =>
   (List.range 2).all fun f => (List.range 2).all fun d => (List.range 2).all fun n =>
   (List.range 2).all fun u => isListed ⟨.ofNat v,.ofNat b,.ofNat c,.ofNat s,.ofNat i,.ofNat l,
    .ofNat f,.ofNat d,.ofNat n,.ofNat u⟩) = true := by
  decide +kernel
 simpa only [List.all_eq_true,List.mem_range] using hall

lemma small_of_base {c:SpecifierCounts} {b:BaseType} (h:c.base = .ok b) :
  (∀ p ∈ c.singles, p.1.toNat < 2) ∧ c.long.toNat < 3 := by
 unfold base at h
 split at h
 · cases h
 · split at h
   · cases h
   · rename_i hnone
     split at h
     · cases h
     · rename_i hlong
       refine ⟨fun p hp => ?_,Nat.lt_succ_of_le (UInt8.not_lt.mp hlong)⟩
       have hsingle:=List.find?_eq_none.mp hnone p hp
       rw [decide_eq_true_eq] at hsingle
       exact Nat.lt_succ_of_le (UInt8.not_lt.mp hsingle)

lemma base_eq_ok_iff {c:SpecifierCounts} {b:BaseType} :
  (c.isEmpty = false ∧ c.base = .ok b) ↔ ∃ row ∈ baseTypes, ofWords row.1 = c ∧ row.2 = b := by
 constructor
 · rintro ⟨hempty,h⟩
   obtain ⟨hsingles,hlong⟩:=small_of_base h
   simp only [singles,List.forall_mem_cons] at hsingles
   obtain ⟨hv,hb,hc,hs,hi,hf,hd,hn,hu,-⟩:=hsingles
   have hlisted:c.isListed = true := by
    have hsmall:=isListed_small _ hv _ hb _ hc _ hs _ hi _ hlong _ hf _ hd _ hn _ hu
    simpa only [UInt8.ofNat_toNat] using hsmall
   rw [isListed,hempty,h] at hlisted
   obtain ⟨row,hrow,heq⟩:=List.mem_map.mp (List.contains_iff_mem.mp hlisted)
   exact ⟨row,hrow,Prod.mk.inj heq⟩
 · rintro ⟨row,hrow,rfl,rfl⟩
   exact base_of_row row hrow

end SpecifierCounts

/-! ### Reading the words -/

def typeWords : List Keyword := SpecifierCounts.words ++ [kwConst,kwVolatile,kwRestrict]

def Qualifiers.ofWords (ws:List Keyword) : Qualifiers :=
 ⟨decide (kwConst ∈ ws),decide (kwVolatile ∈ ws),decide (kwRestrict ∈ ws)⟩

def SpecifierState.ofWords (ws:List Keyword) : SpecifierState :=
 ⟨none,false,.ofWords ws,.ofWords ws,none⟩

def ParserState.behind (s:ParserState) (ts rest:List Token) : ParserState :=
 { s with stream := ⟨ts.reverse ++ s.stream.passed,rest,s.stream.finish⟩ }

/-- No specifier follows: no keyword that can begin a declaration and no name of a type. -/
structure ParserState.PastSpecifiers (s:ParserState) : Prop where
 keyword : ∀ k, s.stream.current.kind = .keyword k → k.startsDeclaration = false
 name : ∀ name, s.stream.current.kind = .ident name → s.names.isType name = false

def Parser.Answers {α:Type} (s:ParserState) (a:α) (s':ParserState) (x:Parser α) : Prop :=
 x s = .ok a s'

namespace Parser.Answers

variable {α β:Type} {s s' s'':ParserState}

lemma bind_eq {x:Parser α} {a:α} (hx:Answers s a s' x) (f:α → Parser β) :
  (x >>= f) s = f a s' := by
 unfold Answers at hx
 simp only [Bind.bind,EStateM.bind,hx]

lemma bind {x:Parser α} {f:α → Parser β} {a:α} {b:β} (hx:Answers s a s' x)
  (hf:Answers s' b s'' (f a)) : Answers s b s'' (x >>= f) :=
 (hx.bind_eq f).trans hf

lemma current {f:Token → Parser β} {b:β} (h:Answers s b s' (f s.stream.current)) :
  Answers s b s' (current >>= f) := h

lemma map_iff {x:Parser α} {f:α → β} {b:β} :
  Answers s b s' (do return f (← x)) ↔ ∃ a, Answers s a s' x ∧ b = f a := by
 constructor
 · intro h
   cases hx : x s with
   | ok a s₁ =>
    rw [Answers,bind_eq hx] at h
    cases h
    exact ⟨a,hx,rfl⟩
   | error e s₁ =>
    simp only [Answers,Bind.bind,EStateM.bind,hx] at h
    cases h
 · rintro ⟨a,hx,rfl⟩
   exact hx.bind rfl

end Parser.Answers

namespace Grammar

open CCheck.Parser (Answers)

variable {r:Reader} {allowed:Bool} {t:Token} {s:ParserState}

lemma wordStep_ofWords (ws:List Keyword) : ∀ k ∈ typeWords, wordStep k (.ofWords ws) s =
  .ok (.yield (.ofWords (ws ++ [k]))) { s with stream := s.stream.advance } := by
 simp [typeWords,SpecifierCounts.words,wordStep,SpecifierState.ofWords,Qualifiers.ofWords,
  SpecifierCounts.ofWords,Qualifiers.add?,SpecifierCounts.add?]
 exact ⟨rfl,rfl,rfl,rfl,rfl,rfl,rfl,rfl,rfl,rfl,rfl,rfl,rfl⟩

lemma keywordStep_word (st:SpecifierState) : ∀ k ∈ typeWords,
  keywordStep r allowed t k st = wordStep k st := by
 simp only [typeWords,SpecifierCounts.words,List.cons_append,List.nil_append,List.forall_mem_cons]
 exact ⟨rfl,rfl,rfl,rfl,rfl,rfl,rfl,rfl,rfl,rfl,rfl,rfl,rfl,nofun⟩

lemma answers_word {k:Keyword} (hk:k ∈ typeWords) (hkind:s.stream.current.kind = .keyword k)
  (ws:List Keyword) :
  Answers s (.yield (.ofWords (ws ++ [k]))) { s with stream := s.stream.advance }
   (specifierStep r allowed (.ofWords ws)) := by
 refine .current ?_
 split
 · rename_i k' hk'
   obtain rfl:=TokenKind.keyword.inj (hk'.symm.trans hkind)
   rw [keywordStep_word _ k' hk]
   exact wordStep_ofWords ws k' hk
 · rename_i hname
   cases hname.symm.trans hkind
 · rename_i hother _
   exact absurd hkind (hother k)

lemma answers_end (h:s.PastSpecifiers) (ws:List Keyword) :
  Answers s (.done (.ofWords ws)) s (specifierStep r allowed (.ofWords ws)) := by
 refine .current ?_
 split
 · rename_i k hk
   have hstarts:=h.keyword k hk
   cases k <;> first | rfl | cases hstarts
 · rename_i name hname
   refine .bind (a := false) (congrArg (fun b => EStateM.Result.ok b s) (h.name name hname)) ?_
   rw [Bool.and_false]
   rfl
 · rfl

lemma answers_words {ts rest:List Token} {ks:List Keyword} (hks:∀ k ∈ ks, k ∈ typeWords)
  (hts:ts.map Token.kind = ks.map .keyword) (hs:s.stream.rest = ts ++ rest)
  (hend:(s.behind ts rest).PastSpecifiers) {n:Nat} (hn:ts.length < n) (ws:List Keyword) :
  Answers s (.ofWords (ws ++ ks)) (s.behind ts rest)
   (Parser.repeatUpTo (specifierStep r allowed) n (.ofWords ws)) := by
 induction ts generalizing ks s n ws with
 | nil =>
  obtain rfl:=List.map_eq_nil_iff.mp hts.symm
  obtain ⟨n,rfl⟩ : ∃ m, n = m + 1:=⟨n - 1,by omega⟩
  have hbehind:s.behind [] rest = s := by
   cases s
   cases hs
   rfl
  rw [hbehind] at hend ⊢
  rw [List.append_nil]
  exact .bind (answers_end hend ws) rfl
 | cons t ts ih =>
  cases ks with
  | nil => cases hts
  | cons k ks =>
   obtain ⟨hkind,hts⟩:=List.cons.inj hts
   obtain ⟨hk,hks⟩:=List.forall_mem_cons.mp hks
   obtain ⟨n,rfl⟩ : ∃ m, n = m + 1:=⟨n - 1,by omega⟩
   have hcurrent:s.stream.current = t := by
    unfold TokenStream.current
    rw [hs]
    rfl
   have hadvance:s.stream.advance = ⟨t :: s.stream.passed,ts ++ rest,s.stream.finish⟩ := by
    unfold TokenStream.advance
    rw [hs]
    rfl
   have hbehind:({ s with stream := s.stream.advance }:ParserState).behind ts rest =
     s.behind (t :: ts) rest := by
    simp [ParserState.behind,hadvance]
   rw [← hbehind] at hend ⊢
   have hlater:=ih hks hts (by rw [hadvance]) hend (Nat.lt_of_succ_lt_succ hn) (ws ++ [k])
   rw [List.append_assoc] at hlater
   exact (answers_word hk (hcurrent ▸ hkind) ws).bind hlater

lemma answers_specifiedForm (st:SpecifierState) (hst:st.named = none) (span:Span)
  {form:TypeForm} {s':ParserState} :
  Answers s form s' (specifiedForm st span) ↔ s' = s ∧
   ∃ b, (st.counts.isEmpty = false ∧ st.counts.base = .ok b) ∧ form = .base b := by
 unfold specifiedForm
 rw [hst]
 dsimp only
 split
 · rename_i hempty
   simp only [hempty,Bool.true_eq_false,false_and,exists_false,and_false,iff_false]
   nofun
 · rename_i hempty
   rw [Bool.not_eq_true] at hempty
   split
   · rename_i b hbase
     constructor
     · rintro ⟨⟩
       exact ⟨rfl,b,⟨hempty,hbase⟩,rfl⟩
     · rintro ⟨rfl,b',⟨-,hbase'⟩,rfl⟩
       cases hbase.symm.trans hbase'
       rfl
   · rename_i hbase
     constructor
     · nofun
     · rintro ⟨-,b,⟨-,hbase'⟩,-⟩
       cases hbase.symm.trans hbase'

end Grammar

/-- The words name a base type with qualifiers: the words of the type, in some order, are a row of
the table, and the qualifiers are those that occur. -/
def Names (ws:List Keyword) (b:BaseType) (quals:Qualifiers) : Prop :=
 (∃ row ∈ SpecifierCounts.baseTypes,
  (ws.filter (· ∈ SpecifierCounts.words)).Perm row.1 ∧ row.2 = b) ∧ quals = .ofWords ws

lemma names_iff {ws:List Keyword} {b:BaseType} {quals:Qualifiers}
  (hcount:∀ k, ws.count k ≤ 255) :
  Names ws b quals ↔ ((SpecifierCounts.ofWords ws).isEmpty = false ∧
   (SpecifierCounts.ofWords ws).base = .ok b) ∧ quals = .ofWords ws := by
 have hwords:∀ row ∈ SpecifierCounts.baseTypes, ∀ k ∈ row.1, k ∈ SpecifierCounts.words := by
  decide
 have hshort:∀ row ∈ SpecifierCounts.baseTypes, row.1.length ≤ 255 := by
  decide
 rw [SpecifierCounts.base_eq_ok_iff]
 refine and_congr_left fun _ => exists_congr fun row => and_congr_right fun hrow => ?_
 rw [← SpecifierCounts.ofWords_eq_iff (hwords row hrow) hcount (hshort row hrow)]
 exact and_congr_left fun _ => eq_comm

/-- Words of types and qualifiers before anything that is no specifier are read exactly if they name
a base type, and then as that type; their order does not matter. No word stands there more than 255
times, which is as far as the words are counted. -/
theorem specifiers_multiset (r:Reader) (allowed:Bool) (s:ParserState) (ts rest:List Token)
  (ws:List Keyword) (hws:∀ k ∈ ws, k ∈ typeWords) (hts:ts.map Token.kind = ws.map .keyword)
  (hs:s.stream.rest = ts ++ rest) (hend:(s.behind ts rest).PastSpecifiers)
  (hcount:∀ k, ws.count k ≤ 255) :
  (∀ specs s', Grammar.specifiers r allowed s = .ok specs s' ↔
   s' = s.behind ts rest ∧ ∃ b quals, Names ws b quals ∧ specs = ⟨none,false,⟨.base b,quals,
    s.stream.current.span.merge (s.behind ts rest).stream.previous⟩⟩) ∧
  ∀ vs, vs.Perm ws → Names vs = Names ws := by
 constructor
 · intro specs s'
   have hloop:Parser.Answers s (.ofWords ws) (s.behind ts rest)
     (Parser.loop (Grammar.specifierStep r allowed) .start) :=
    Grammar.answers_words hws hts hs hend (by rw [hs,List.length_append]; omega) []
   have hrun:Grammar.specifiers r allowed s = .ok specs s' ↔
     Parser.Answers (s.behind ts rest) specs s' (do
      let form ← Grammar.specifiedForm (.ofWords ws)
       (s.stream.current.span.merge (s.behind ts rest).stream.previous)
      return ⟨none,false,⟨form,.ofWords ws,
       s.stream.current.span.merge (s.behind ts rest).stream.previous⟩⟩) := by
    unfold Grammar.specifiers
    rw [Parser.Answers.bind_eq (x := Parser.here) rfl,Parser.Answers.bind_eq hloop]
    rfl
   rw [hrun,Parser.Answers.map_iff]
   simp only [Grammar.answers_specifiedForm (.ofWords ws) rfl,names_iff hcount]
   constructor
   · rintro ⟨form,⟨rfl,b,hb,rfl⟩,rfl⟩
     exact ⟨rfl,b,_,⟨hb,rfl⟩,rfl⟩
   · rintro ⟨rfl,b,_,⟨hb,rfl⟩,rfl⟩
     exact ⟨_,⟨rfl,b,hb,rfl⟩,rfl⟩
 · intro vs hvs
   have hquals:Qualifiers.ofWords vs = .ofWords ws := by
    simp only [Qualifiers.ofWords,hvs.mem_iff]
   funext b quals
   unfold Names
   rw [hquals]
   refine propext (and_congr_left fun _ => exists_congr fun row => and_congr_right fun _ =>
    and_congr_left fun _ => ?_)
   have hfilter:=hvs.filter (· ∈ SpecifierCounts.words)
   exact ⟨hfilter.symm.trans,hfilter.trans⟩

def scattered : ParserState :=
 .ofTokens ([kwLong,kwUnsigned,kwConst,kwInt,kwLong].map (fun k => ⟨.keyword k,k.text,.nowhere⟩) ++
  [⟨.ident "x","x",.nowhere⟩])

theorem specifiers_multiset_scattered :
  ∃ s', Grammar.specifiers (Grammar.read 0) true scattered =
   .ok ⟨none,false,⟨.base .ulongLong,⟨true,false,false⟩,.nowhere⟩⟩ s' := by
 have hiff:=(specifiers_multiset (Grammar.read 0) true scattered
  ([kwLong,kwUnsigned,kwConst,kwInt,kwLong].map fun k => ⟨.keyword k,k.text,.nowhere⟩)
  [⟨.ident "x","x",.nowhere⟩] [kwLong,kwUnsigned,kwConst,kwInt,kwLong] (by decide) rfl rfl
  ⟨nofun,by rintro _ ⟨⟩; rfl⟩ fun _ => Nat.le_trans List.count_le_length (by decide)).1
 refine ⟨_,(hiff _ _).mpr ⟨rfl,.ulongLong,_,⟨?_,rfl⟩,rfl⟩⟩
 exact ⟨([kwUnsigned,kwLong,kwLong,kwInt],.ulongLong),by decide,by decide,rfl⟩

end CCheck
