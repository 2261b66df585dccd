import CCheck.Proofs.Lexing.Locality
import CCheck.Proofs.Lexing.Tiling

/-! # Scanning the texts of tokens again

The texts of the tokens of a source, written one after the other with blanks between
them, are a source with the same tokens. -/

set_option autoImplicit false

namespace CCheck

open Lexeme

variable {blanks r:List Char} {d:Cursor} {sep:Nat → String} {t:Token} {ts:List Token}

/-! ### Tokens that stand by themselves -/

lemma text_no_mark (p:Punctuator) : '#' ∉ p.text.toList := by
 cases p <;> decide

lemma lexeme_mark (cs:List Char) : lexeme '#' cs = Except.error (.unknownCharacter '#',1) := by
 have hnone:Punctuator.longest? ('#' :: cs) = none := by
  refine List.find?_eq_none.mpr fun p _ hfits => ?_
  obtain ⟨t,ht⟩:=List.isPrefixOf_iff_prefix.mp hfits
  have hpos:=text_length_pos p
  have hmark:=text_no_mark p
  rw [← String.length_toList] at hpos
  cases htext : p.text.toList with
  | nil => simp [htext] at hpos
  | cons c cs =>
   rw [htext,List.cons_append] at ht
   obtain ⟨rfl,-⟩:=List.cons.inj ht
   simp [htext] at hmark
 unfold lexeme
 rw [if_neg (by decide),if_neg (by simp [startsNumber]),if_neg (by decide),
  if_neg (by decide),punctuator,hnone]

lemma gap_local {w s:List Char} {c:Char} {k:TokenKind} {fresh:Bool} (hr:Apart r)
  (hgap:gap fresh (c :: (w ++ s)) = .absent)
  (h:lexeme c (w ++ s) = Except.ok (k,w.length + 1)) (fresh':Bool) :
  gap fresh' (c :: (w ++ r)) = .absent := by
 have hmark:c ≠ '#' := by
  rintro rfl
  rw [lexeme_mark] at h
  cases h
 unfold gap at hgap ⊢
 dsimp only at hgap ⊢
 split at hgap
 · cases hgap
 rename_i hblank
 rw [if_neg hblank,if_neg fun hc => hmark hc.1]
 rw [if_neg fun hc => hmark hc.1] at hgap
 by_cases hslash : c = '/'
 · rw [if_pos hslash]
   rw [if_pos hslash] at hgap
   cases w with
   | nil =>
    cases r with
    | nil => rfl
    | cons d r =>
     have hline:d ≠ '/':=ne_of_isBlank (hr d rfl) (by decide)
     have hblock:d ≠ '*':=ne_of_isBlank (hr d rfl) (by decide)
     rw [List.nil_append]
     split
     · simp_all
     · simp_all
     · rfl
   | cons d w =>
    rw [List.cons_append] at hgap ⊢
    split at hgap
    · cases hgap
    · split at hgap <;> cases hgap
    · rename_i hline hblock
      split
      · rename_i heq
        obtain ⟨rfl,-⟩:=List.cons.inj heq
        exact (hline _ rfl).elim
      · rename_i heq
        obtain ⟨rfl,-⟩:=List.cons.inj heq
        exact (hblock _ rfl).elim
      · rfl
 · rw [if_neg hslash]

def Relexes (t:Token) : Prop :=
 ∃ c w, t.text.toList = c :: w ∧ ∀ r, Apart r →
  lexeme c (w ++ r) = Except.ok (t.kind,w.length + 1) ∧
   ∀ fresh, gap fresh (c :: (w ++ r)) = .absent

namespace Cursor

lemma skipGaps_absent {c:Cursor} (h:c.skipGaps = .ok d) :
  gap d.fresh d.rest = .absent := by
 fun_induction skipGaps c with
 | case1 c hgap =>
  obtain rfl:=Except.ok.inj h
  exact hgap
 | case2 => cases h
 | case3 c extra _ ih => exact ih h

lemma scan_relexes {c:Cursor} (h:c.scan = .token t d) : Relexes t := by
 unfold scan at h
 split at h
 · cases h
 · rename_i e hskip
   have hgap:=skipGaps_absent hskip
   split at h
   · cases h
   · rename_i ch cs hcs
     rw [hcs] at hgap
     unfold take at h
     split at h
     · rename_i k n hlexeme
       obtain ⟨hpos,hle,-,-⟩:=lexeme_covers ch cs k n hlexeme
       obtain ⟨n,rfl⟩ : ∃ m, n = m + 1:=⟨n - 1,by omega⟩
       obtain ⟨rfl,-⟩:=Scan.token.inj h
       have hlength:(cs.take n).length = n := by
        rw [List.length_take]
        rw [List.length_cons] at hle
        omega
       have hw:lexeme ch (cs.take n ++ cs.drop n) = Except.ok (k,(cs.take n).length + 1) := by
        rw [List.take_append_drop,hlength]
        exact hlexeme
       rw [← List.take_append_drop n cs] at hgap
       refine ⟨ch,cs.take n,?_,fun r hr => ⟨lexeme_local hr hw,gap_local hr hgap hw⟩⟩
       rw [String.toList_ofList,Nat.add_sub_cancel,List.take_succ_cons]
     · cases h

lemma tokens_of_token {c:Cursor} (h:c.scan = .token t d) :
  c.tokens = d.tokens.map (t :: ·) := by
 rw [tokens]
 split
 · simp_all
 · simp_all
 · rename_i t' d' h'
   obtain ⟨rfl,rfl⟩:=Scan.token.inj (h'.symm.trans h)
   rfl

lemma tokens_of_finish {c:Cursor} {span:Span} (h:c.scan = .finish span d) :
  c.tokens = .ok [Token.eof span] := by
 rw [tokens]
 split
 · simp_all
 · rename_i span' d' h'
   obtain ⟨rfl,-⟩:=Scan.finish.inj (h'.symm.trans h)
   rfl
 · simp_all

lemma tokens_relex {c:Cursor} (h:c.tokens = .ok ts) :
  ∃ us span, ts = us ++ [Token.eof span] ∧ ∀ t ∈ us, Relexes t := by
 fun_induction tokens c generalizing ts with
 | case1 => cases h
 | case2 c span d _ =>
  obtain rfl:=Except.ok.inj h
  exact ⟨[],span,rfl,by simp⟩
 | case3 c t d hscan _ ih =>
  cases htail : d.tokens with
  | error f =>
   rw [htail] at h
   cases h
  | ok vs =>
   rw [htail] at h
   obtain rfl:=Except.ok.inj h
   obtain ⟨us,span,rfl,hus⟩:=ih htail
   exact ⟨t :: us,span,rfl,List.forall_mem_cons.mpr ⟨scan_relexes hscan,hus⟩⟩

/-! ### Reading them again -/

variable {c:Cursor}

lemma scan_of_blanks {cs:List Char} (hblanks:∀ b ∈ blanks, isBlank b = true)
  (hc:c.rest = blanks ++ cs) : c.scan = (advance blanks.length c).scan := by
 induction blanks generalizing c with
 | nil => rfl
 | cons b blanks ih =>
  obtain ⟨hb,hblanks⟩:=List.forall_mem_cons.mp hblanks
  have hgap:gap c.fresh c.rest = .item 0 := by
   rw [hc,List.cons_append]
   unfold gap
   exact if_pos hb
  have hskip:c.skipGaps = c.step.skipGaps := by
   rw [skipGaps]
   split
   · simp_all
   · simp_all
   · rename_i extra hextra
     obtain rfl:=Gap.item.inj (hextra.symm.trans hgap)
     rfl
  have hstep:c.scan = c.step.scan := by
   unfold scan
   rw [hskip]
  rw [hstep,ih hblanks (by rw [step_rest,hc]; rfl),List.length_cons,advance]

lemma scan_of_relexes (ht:Relexes t) (hr:Apart r)
  (hc:c.rest = t.text.toList ++ r) :
  ∃ d u, c.scan = .token u d ∧ u.kind = t.kind ∧ u.text = t.text ∧ d.rest = r := by
 obtain ⟨ch,w,htext,hlocal⟩:=ht
 obtain ⟨hlexeme,hgap⟩:=hlocal r hr
 rw [htext,List.cons_append] at hc
 have hskip:c.skipGaps = .ok c := by
  rw [skipGaps]
  split
  · rfl
  · rename_i hunclosed
    rw [hc,hgap] at hunclosed
    cases hunclosed
  · rename_i hitem
    rw [hc,hgap] at hitem
    cases hitem
 refine ⟨advance (w.length + 1) { c with fresh := false }, 
  ⟨t.kind,t.text,c.spanOf (w.length + 1)⟩,?_,rfl,rfl,?_⟩
 · unfold scan
   rw [hskip]
   simp only [hc,take,hlexeme,Nat.add_sub_cancel,List.take_succ_cons,List.take_left,
    ← htext,String.ofList_toList]
 · rw [advance_rest,hc,List.drop_succ_cons,List.drop_left]

end Cursor

def IsSeparator (s:String) : Prop := s ≠ "" ∧ ∀ c ∈ s.toList, isBlank c = true

/-- The texts of tokens one after the other; `sep n` stands before the last `n + 1` of
them. -/
def joined (sep:Nat → String) : List Token → String
 | [] => ""
 | [t] => t.text
 | t :: u :: ts => t.text ++ sep ts.length ++ joined sep (u :: ts)

lemma joined_cons (hsep:∀ n, IsSeparator (sep n)) (t:Token)
  (ts:List Token) :
  ∃ blanks, (∀ b ∈ blanks, isBlank b = true) ∧ Apart (blanks ++ (joined sep ts).toList) ∧
   (joined sep (t :: ts)).toList = t.text.toList ++ (blanks ++ (joined sep ts).toList) := by
 cases ts with
 | nil => exact ⟨[],by simp,by simp [joined,apart_nil],by simp [joined]⟩
 | cons u ts =>
  obtain ⟨hne,hblank⟩:=hsep ts.length
  refine ⟨(sep ts.length).toList,hblank,?_,?_⟩
  · cases hs : (sep ts.length).toList with
    | nil => exact absurd (String.toList_eq_nil_iff.mp hs) hne
    | cons b bs => exact apart_cons _ (hblank b (by simp [hs]))
  · simp only [joined,String.toList_append,List.append_assoc]

/-- By induction on the tokens: the blanks before the first are passed, and its text is
followed by blanks again or by the end. -/
lemma tokens_joined (hsep:∀ n, IsSeparator (sep n))
  (hts:∀ t ∈ ts, Relexes t) {c:Cursor}
  (hblanks:∀ b ∈ blanks, isBlank b = true)
  (hc:c.rest = blanks ++ (joined sep ts).toList) :
  ∃ us span, c.tokens = .ok (us ++ [Token.eof span]) ∧
   us.map (·.kind) = ts.map (·.kind) ∧ us.map (·.text) = ts.map (·.text) := by
 have hscan:=Cursor.scan_of_blanks hblanks hc
 have hrest:(Cursor.advance blanks.length c).rest = (joined sep ts).toList := by
  rw [Cursor.advance_rest,hc,List.drop_left]
 induction ts generalizing c blanks with
 | nil =>
  have hfinish:=hscan.trans (Cursor.scan_of_rest_nil hrest)
  exact ⟨[],_,Cursor.tokens_of_finish hfinish,rfl,rfl⟩
 | cons t ts ih =>
  obtain ⟨ht,hts⟩:=List.forall_mem_cons.mp hts
  obtain ⟨blanks',hblanks',hapart,hjoined⟩:=joined_cons hsep t ts
  rw [hjoined] at hrest
  obtain ⟨d,u,hu,hkind,htext,hd⟩:=Cursor.scan_of_relexes ht hapart hrest
  rw [hu] at hscan
  obtain ⟨us,span,htokens,hkinds,htexts⟩:=ih hts hblanks' hd
   (Cursor.scan_of_blanks hblanks' hd) (by rw [Cursor.advance_rest,hd,List.drop_left])
  refine ⟨u :: us,span,?_,?_,?_⟩
  · rw [Cursor.tokens_of_token hscan,htokens]
    rfl
  · rw [List.map_cons,List.map_cons,hkind,hkinds]
  · rw [List.map_cons,List.map_cons,htext,htexts]

/-- The tokens of a source, written again with any blanks between them, are read as the
same tokens. -/
theorem tokenize_joined (source:String) (ts:List Token) (sep:Nat → String)
  (h:tokenize source = .ok ts) (hsep:∀ n, IsSeparator (sep n)) :
  ∃ us, tokenize (joined sep ts.dropLast) = .ok us ∧
   us.map (·.kind) = ts.map (·.kind) ∧ us.map (·.text) = ts.map (·.text) := by
 obtain ⟨ts,span,rfl,hts⟩:=Cursor.tokens_relex h
 rw [List.dropLast_concat]
 obtain ⟨us,span',htokens,hkinds,htexts⟩:=
  tokens_joined (c := Cursor.start (joined sep ts)) hsep hts (List.forall_mem_nil _) rfl
 refine ⟨us ++ [Token.eof span'],htokens,?_,?_⟩
 · rw [List.map_append,List.map_append,hkinds]
   rfl
 · rw [List.map_append,List.map_append,htexts]
   rfl

def incrementTokens : List Token :=
 [⟨.ident "a","a",⟨0,1,1,1⟩⟩,⟨.punct .plusPlus,"++",⟨1,3,1,2⟩⟩,
  ⟨.punct .plus,"+",⟨3,4,1,4⟩⟩,⟨.int ⟨1,.decimal,false,0⟩,"1",⟨4,5,1,5⟩⟩,
  Token.eof ⟨5,5,1,6⟩]

theorem tokenize_joined_increment :
  ∃ us, tokenize "a\n++\n+\n1" = .ok us ∧
   us.map (·.kind) = incrementTokens.map (·.kind) ∧
   us.map (·.text) = incrementTokens.map (·.text) := by
 have hjoined : joined (fun _ => "\n") incrementTokens.dropLast = "a\n++\n+\n1" := by decide
 have hsep : IsSeparator "\n" := by
  refine ⟨by decide,fun c hc => ?_⟩
  obtain rfl : c = '\n' := by simpa using hc
  rfl
 rw [← hjoined]
 exact tokenize_joined "a+++1" incrementTokens (fun _ => "\n") (by decide +kernel) fun _ => hsep

end CCheck
