import CCheck.Proofs.Lexing.Relexing
import CCheck.Proofs.Lexing.Separation

/-! # Scanning line by line

A newline that nothing continues brings a scanner back to its start: what stands below it is read as
a text of its own, and what stands above it as if the text ended there. -/

set_option autoImplicit false

namespace CCheck

open Lexeme

/-! ### Further down in a text -/

def Span.shift (chars lines:Nat) (s:Span) : Span :=
 ⟨s.start + chars,s.stop + chars,s.line + .ofNat lines,s.column⟩

def Token.shift (chars lines:Nat) (t:Token) : Token :=
 { t with span := t.span.shift chars lines }

def Fault.shift (chars lines:Nat) (f:Fault) : Fault :=
 { f with span := f.span.shift chars lines }

namespace Cursor

def shift (chars lines:Nat) (c:Cursor) : Cursor :=
 { c with offset := c.offset + chars,line := c.line + .ofNat lines }

def Scan.shift (chars lines:Nat) : Scan → Scan
 | .finish span c => .finish (span.shift chars lines) (c.shift chars lines)
 | .token t c => .token (t.shift chars lines) (c.shift chars lines)
 | .fault f => .fault (f.shift chars lines)

section Shift

variable (chars lines:Nat)

lemma step_shift (c:Cursor) : (c.shift chars lines).step = c.step.shift chars lines := by
 obtain ⟨rest,offset,line,column,fresh⟩:=c
 cases rest with
 | nil => rfl
 | cons ch cs =>
  unfold step shift
  dsimp only
  split
  · simp only [Cursor.mk.injEq,true_and,and_true]
    exact ⟨by omega,by ac_rfl⟩
  · simp only [Cursor.mk.injEq,true_and,and_true]
    omega

lemma advance_shift (n:Nat) (c:Cursor) :
  advance n (c.shift chars lines) = (advance n c).shift chars lines := by
 induction n generalizing c with
 | zero => rfl
 | succ n ih => rw [advance,advance,step_shift,ih]

lemma spanOf_shift (c:Cursor) (n:Nat) :
  (c.shift chars lines).spanOf n = (c.spanOf n).shift chars lines := by
 simp only [spanOf,shift,Span.shift,Span.mk.injEq,true_and,and_true]
 omega

end Shift

lemma skipGaps_of_absent {c:Cursor} (h:gap c.fresh c.rest = .absent) :
  c.skipGaps = .ok c := by
 rw [skipGaps]
 split
 · rfl
 · simp_all
 · simp_all

lemma skipGaps_of_item {c:Cursor} {extra:Nat} (h:gap c.fresh c.rest = .item extra) :
  c.skipGaps = (advance (extra + 1) c).skipGaps := by
 rw [skipGaps]
 split
 · simp_all
 · simp_all
 · rename_i extra' h'
   obtain rfl:=Gap.item.inj (h'.symm.trans h)
   rfl

lemma skipGaps_of_unclosed {c:Cursor} (h:gap c.fresh c.rest = .unclosed) :
  c.skipGaps = .error ⟨.unterminatedComment,c.spanOf c.rest.length⟩ := by
 rw [skipGaps]
 split
 · simp_all
 · rfl
 · simp_all

lemma tokens_of_fault {c:Cursor} {f:Fault} (h:c.scan = .fault f) :
  c.tokens = .error f := by
 rw [tokens]
 split
 · rename_i f' h'
   obtain rfl:=Scan.fault.inj (h'.symm.trans h)
   rfl
 · simp_all
 · simp_all

lemma tokens_congr {c d:Cursor} (h:c.scan = d.scan) : c.tokens = d.tokens := by
 cases hd : d.scan with
 | fault f => rw [tokens_of_fault hd,tokens_of_fault (h.trans hd)]
 | finish span e => rw [tokens_of_finish hd,tokens_of_finish (h.trans hd)]
 | token t e => rw [tokens_of_token hd,tokens_of_token (h.trans hd)]

section Shift

variable (chars lines:Nat)

lemma skipGaps_shift (c:Cursor) :
  (c.shift chars lines).skipGaps =
   (c.skipGaps.map (shift chars lines)).mapError (Fault.shift chars lines) := by
 fun_induction skipGaps c with
 | case1 c h => exact skipGaps_of_absent h
 | case2 c h =>
  rw [skipGaps_of_unclosed (c := c.shift chars lines) h,spanOf_shift]
  rfl
 | case3 c extra h ih =>
  rw [skipGaps_of_item (c := c.shift chars lines) h,advance_shift]
  exact ih

lemma take_shift (c:Cursor) (ch:Char) (cs:List Char) :
  (c.shift chars lines).take ch cs = (c.take ch cs).shift chars lines := by
 unfold take
 cases lexeme ch cs with
 | error e =>
  dsimp only
  rw [spanOf_shift]
  rfl
 | ok answer =>
  have hfresh:{ c.shift chars lines with fresh := false } =
    shift chars lines { c with fresh := false } := rfl
  dsimp only
  rw [spanOf_shift,hfresh,advance_shift]
  rfl

lemma scan_shift (c:Cursor) :
  (c.shift chars lines).scan = c.scan.shift chars lines := by
 unfold scan
 rw [skipGaps_shift]
 cases c.skipGaps with
 | error f => rfl
 | ok d =>
  obtain ⟨rest,offset,line,column,fresh⟩:=d
  cases rest with
  | nil => exact congrArg (Scan.finish · _) (spanOf_shift chars lines _ 0)
  | cons ch cs => exact take_shift chars lines _ ch cs

lemma tokens_shift (c:Cursor) :
  (c.shift chars lines).tokens =
   (c.tokens.map (List.map (Token.shift chars lines))).mapError (Fault.shift chars lines) := by
 fun_induction tokens c with
 | case1 c f h => exact tokens_of_fault (by rw [scan_shift,h]; rfl)
 | case2 c span d h => exact tokens_of_finish (by rw [scan_shift,h]; rfl)
 | case3 c t d h _ ih =>
  have hscan:(c.shift chars lines).scan =
    .token (t.shift chars lines) (d.shift chars lines) := by
   rw [scan_shift,h]
   rfl
  rw [tokens_of_token hscan,ih]
  cases d.tokens <;> rfl

end Shift

end Cursor

/-! ### Text above a newline -/

/-- A backslash at its end joins a text to what follows the next newline. -/
def ContinuesLine (w:List Char) : Prop := ['\\'] <:+ w ∨ ['\\','\r'] <:+ w

instance (w:List Char) : Decidable (ContinuesLine w) :=
 inferInstanceAs (Decidable (_ ∨ _))

section Newline

variable {w:List Char} (b:List Char)

lemma ContinuesLine.of_suffix {v:List Char} (h:ContinuesLine v) (hv:v <:+ w) :
  ContinuesLine w :=
 h.imp (·.trans hv) (·.trans hv)

lemma apart_newline : Apart ('\n' :: b) := apart_cons b (by decide)

lemma lineLength_newline (w:List Char) : lineLength (w ++ '\n' :: b) = lineLength w := by
 unfold lineLength
 induction w with
 | nil => rfl
 | cons c w ih =>
  rw [List.cons_append,List.takeWhile_cons,List.takeWhile_cons]
  split
  · exact congrArg (· + 1) ih
  · rfl

lemma directiveLength_plain {c:Char} {cs:List Char} (hc:c ≠ '\n')
  (hnewline:∀ ds, c = '\\' → cs = '\n' :: ds → False)
  (hreturn:∀ ds, c = '\\' → cs = '\r' :: '\n' :: ds → False) :
  directiveLength (c :: cs) = directiveLength cs + 1 := by
 rw [directiveLength,if_neg hc]
 · exact hnewline
 · exact hreturn

lemma directiveLength_newline (hw:¬ ContinuesLine w) :
  directiveLength (w ++ '\n' :: b) = directiveLength w := by
 fun_induction directiveLength w with
 | case1 => rfl
 | case2 cs ih =>
  have hcs:=ih fun h => hw (h.of_suffix ⟨['\\','\n'],rfl⟩)
  rw [List.cons_append,List.cons_append,directiveLength,hcs]
 | case3 cs ih =>
  have hcs:=ih fun h => hw (h.of_suffix ⟨['\\','\r','\n'],rfl⟩)
  rw [List.cons_append,List.cons_append,List.cons_append,directiveLength,hcs]
 | case4 cs => rfl
 | case5 c cs hnewline hreturn hc ih =>
  have hcs:=ih fun h => hw (h.of_suffix ⟨[c],rfl⟩)
  rw [List.cons_append,directiveLength_plain hc,hcs]
  · -- the newline that follows would be joined to the text
    rintro ds rfl heq
    cases cs with
    | nil => exact hw (Or.inl ⟨[],rfl⟩)
    | cons d cs =>
     obtain ⟨rfl,-⟩:=List.cons.inj heq
     exact hnewline cs rfl rfl
  · rintro ds rfl heq
    cases cs with
    | nil => cases heq
    | cons d cs =>
     obtain ⟨rfl,htail⟩:=List.cons.inj heq
     cases cs with
     | nil => exact hw (Or.inr ⟨[],rfl⟩)
     | cons e cs =>
      obtain ⟨rfl,-⟩:=List.cons.inj htail
      exact hreturn cs rfl rfl

lemma commentLength?_append {n:Nat} (h:commentLength? w = some n) (r:List Char) :
  commentLength? (w ++ r) = some n := by
 fun_induction commentLength? w generalizing n with
 | case1 => cases h
 | case2 cs => exact h
 | case3 c cs hopen ih =>
  obtain ⟨m,hm,rfl⟩:=Option.map_eq_some_iff.mp h
  have hcs:=ih hm
  rw [List.cons_append,commentLength?,hcs]
  · rfl
  · -- the closing mark lies in the first text, which is not used up by its first character
    rintro ds rfl heq
    cases cs with
    | nil => cases hm
    | cons d cs =>
     obtain ⟨rfl,-⟩:=List.cons.inj heq
     exact hopen cs rfl rfl

lemma gap_newline {fresh:Bool} {extra:Nat} (hw:¬ ContinuesLine w)
  (h:gap fresh w = .item extra) : gap fresh (w ++ '\n' :: b) = .item extra := by
 have hview:=Gap.View.of_gap fresh w
 rw [h] at hview
 cases hview with
 | blank hblank => exact (Gap.View.blank hblank).gap_eq
 | @directive cs =>
  have hcs:=directiveLength_newline b fun hcs => hw (hcs.of_suffix (List.suffix_cons '#' cs))
  rw [← hcs]
  exact Gap.View.directive.gap_eq
 | @line _ cs =>
  rw [← lineLength_newline b cs]
  exact Gap.View.line.gap_eq
 | block hclosed => exact (Gap.View.block (commentLength?_append hclosed _)).gap_eq

lemma gap_newline_absent {fresh:Bool} {c:Char} {cs:List Char}
  (h:gap fresh (c :: cs) = .absent) : gap fresh (c :: (cs ++ '\n' :: b)) = .absent := by
 have hview:=Gap.View.of_gap fresh (c :: cs)
 rw [h] at hview
 cases hview with
 | token solid mark line block =>
  -- a comment would open with a newline for its second character
  have hopen:∀ d ds, d ≠ '\n' → cs ++ '\n' :: b = d :: ds → ∃ es, cs = d :: es := by
   intro d ds hd heq
   cases cs with
   | nil => exact absurd (List.cons.inj heq).1.symm hd
   | cons e es => exact ⟨es,congrArg (· :: es) (List.cons.inj heq).1⟩
  refine (Gap.View.token solid mark (fun ds hds => ?_) fun ds hds => ?_).gap_eq
  · obtain ⟨es,hes⟩:=hopen '/' ds (by decide) hds.2
    exact line es ⟨hds.1,hes⟩
  · obtain ⟨es,hes⟩:=hopen '*' ds (by decide) hds.2
    exact block es ⟨hds.1,hes⟩

lemma lexeme_newline {c:Char} {k:TokenKind} {n:Nat} (h:lexeme c w = Except.ok (k,n)) :
  lexeme c (w ++ '\n' :: b) = Except.ok (k,n) := by
 by_cases hquoted : c = '"' ∨ c = '\''
 · -- the closing quote lies in the first text
   obtain ⟨hpos,hle,-,-⟩:=lexeme_covers c w k n h
   obtain ⟨m,rfl⟩ : ∃ m, n = m + 1:=⟨n - 1,by omega⟩
   have hlength:(w.take m).length = m := by
    rw [List.length_take]
    rw [List.length_cons] at hle
    omega
   have hsplit:w.take m ++ (w.drop m ++ '\n' :: b) = w ++ '\n' :: b := by
    rw [← List.append_assoc,List.take_append_drop]
   rw [← List.take_append_drop m w] at h
   rw [← hsplit]
   obtain rfl | rfl:=hquoted
   · rw [lexeme_double] at h ⊢
     have hlocal:=stringLiteral_local (w := w.take m) (k := k) (by rw [h,hlength])
      (w.drop m ++ '\n' :: b)
     rw [hlocal,hlength]
   · rw [lexeme_single] at h ⊢
     have hlocal:=charConstant_local (w := w.take m) (k := k) (by rw [h,hlength])
      (w.drop m ++ '\n' :: b)
     rw [hlocal,hlength]
 · rw [not_or] at hquoted
   rw [lexeme_apart (apart_newline b) hquoted.1 hquoted.2]
   exact h

end Newline

/-! ### Two texts, one below the other -/

namespace Cursor

def before (c:Cursor) (r:List Char) : Cursor := { c with rest := c.rest ++ r }

variable {c d:Cursor}

lemma step_before (h:c.rest ≠ []) (r:List Char) :
  (c.before r).step = c.step.before r := by
 obtain ⟨rest,offset,line,column,fresh⟩:=c
 cases rest with
 | nil => contradiction
 | cons ch cs =>
  unfold step before
  dsimp only [List.cons_append]
  split <;> rfl

lemma advance_before {n:Nat} (h:n ≤ c.rest.length) (r:List Char) :
  advance n (c.before r) = (advance n c).before r := by
 induction n generalizing c with
 | zero => rfl
 | succ n ih =>
  have hne:c.rest ≠ []:=List.ne_nil_of_length_pos (by omega)
  have hle:n ≤ c.step.rest.length := by
   rw [step_rest,List.length_drop]
   omega
  rw [advance,advance,step_before hne,ih hle]

lemma rest_advance_suffix (n:Nat) (c:Cursor) : (advance n c).rest <:+ c.rest := by
 rw [advance_rest]
 exact List.drop_suffix n c.rest

variable (b:List Char)

lemma skipGaps_before (hc:¬ ContinuesLine c.rest) (h:c.skipGaps = .ok d) :
  (c.before ('\n' :: b)).skipGaps = (d.before ('\n' :: b)).skipGaps ∧ d.rest <:+ c.rest := by
 fun_induction skipGaps c with
 | case1 c _ =>
  obtain rfl:=Except.ok.inj h
  exact ⟨rfl,List.suffix_refl _⟩
 | case2 => cases h
 | case3 c extra hgap ih =>
  have hsuffix:=rest_advance_suffix (extra + 1) c
  obtain ⟨hskip,hd⟩:=ih (fun hcontinues => hc (hcontinues.of_suffix hsuffix)) h
  refine ⟨?_,hd.trans hsuffix⟩
  rw [skipGaps_of_item (c := c.before ('\n' :: b)) (gap_newline b hc hgap),
   advance_before (gap_spec hgap).2,hskip]

lemma scan_before_token {t:Token} (hc:¬ ContinuesLine c.rest) (h:c.scan = .token t d) :
  (c.before ('\n' :: b)).scan = .token t (d.before ('\n' :: b)) ∧ d.rest <:+ c.rest := by
 unfold scan at h ⊢
 split at h
 · cases h
 · rename_i e hskip
   obtain ⟨hbefore,hsuffix⟩:=skipGaps_before b hc hskip
   have habsent:=skipGaps_absent hskip
   split at h
   · cases h
   · rename_i ch cs hcs
     rw [hcs] at habsent
     have hgap:gap (e.before ('\n' :: b)).fresh (e.before ('\n' :: b)).rest = .absent := by
      change gap e.fresh (e.rest ++ '\n' :: b) = .absent
      rw [hcs]
      exact gap_newline_absent b habsent
     have hrest:(e.before ('\n' :: b)).rest = ch :: (cs ++ '\n' :: b) := by
      rw [before,hcs,List.cons_append]
     rw [hbefore,skipGaps_of_absent hgap]
     simp only [hrest]
     unfold take at h ⊢
     cases hlexeme : lexeme ch cs with
     | error answer =>
      rw [hlexeme] at h
      cases h
     | ok answer =>
      obtain ⟨k,n⟩:=answer
      obtain ⟨hpos,hle,-,-⟩:=lexeme_covers ch cs k n hlexeme
      rw [hlexeme] at h
      obtain ⟨rfl,rfl⟩:=Scan.token.inj h
      have hfresh:{ e.before ('\n' :: b) with fresh := false } =
        before { e with fresh := false } ('\n' :: b) := rfl
      rw [lexeme_newline b hlexeme]
      dsimp only
      rw [Nat.sub_add_cancel hpos,hfresh,advance_before (by rw [hcs]; exact hle),
       ← List.cons_append,List.take_append_of_le_length hle]
      exact ⟨rfl,(rest_advance_suffix n _).trans hsuffix⟩

lemma scan_before_finish {span:Span} {lines:Nat} (hc:¬ ContinuesLine c.rest)
  (h:c.scan = .finish span d) (hlines:d.line = .ofNat lines) :
  (c.before ('\n' :: b)).scan = (shift (d.offset + 1) lines ⟨b,0,1,1,true⟩).scan := by
 unfold scan at h
 split at h
 · cases h
 · rename_i e hskip
   split at h
   · rename_i hnil
     obtain ⟨-,rfl⟩:=Scan.finish.inj h
     obtain ⟨hbefore,-⟩:=skipGaps_before b hc hskip
     have hrest:(e.before ('\n' :: b)).rest = ['\n'] ++ b := by
      rw [before,hnil]
      rfl
     have hstep:advance 1 (e.before ('\n' :: b)) =
       shift (e.offset + 1) lines ⟨b,0,1,1,true⟩ := by
      unfold before
      rw [hnil]
      simp only [advance,step,shift,List.nil_append,if_true,Cursor.mk.injEq,true_and,
       and_true,hlines]
      exact ⟨by omega,UInt32.add_comm _ _⟩
     have hscan:(c.before ('\n' :: b)).scan = (e.before ('\n' :: b)).scan := by
      unfold scan
      rw [hbefore]
     have hblank:∀ x ∈ ['\n'], isBlank x = true := by
      intro x hx
      rw [List.mem_singleton.mp hx]
      rfl
     rw [hscan,scan_of_blanks hblank hrest]
     exact congrArg scan hstep
   · unfold take at h
     split at h <;> cases h

lemma tokens_before {src:List Char} {ts:List Token} (hat:c.At src)
  (hc:¬ ContinuesLine c.rest) (h:c.tokens = .ok ts) :
  ∃ us span, ts = us ++ [Token.eof span] ∧
   (c.before ('\n' :: b)).tokens =
    (shift (src.length + 1) (1 + src.count '\n') ⟨b,0,1,1,true⟩).tokens.map (us ++ ·) := by
 fun_induction tokens c generalizing ts with
 | case1 => cases h
 | case2 c span d hscan =>
  obtain rfl:=Except.ok.inj h
  obtain ⟨hskips,hnil,-⟩:=scan_finish hat hscan
  have hoffset:=hskips.at_end.length_rest
  have hline:=hskips.at_end.line
  rw [hnil,List.length_nil,Nat.add_zero] at hoffset
  rw [hoffset,lineAt,List.take_length] at hline
  have hbefore:=scan_before_finish b hc hscan hline
  rw [hoffset] at hbefore
  refine ⟨[],span,rfl,?_⟩
  rw [tokens_congr hbefore]
  cases tokens _ <;> rfl
 | case3 c t d hscan _ ih =>
  obtain ⟨hbefore,hsuffix⟩:=scan_before_token b hc hscan
  obtain ⟨e,n,hskips,-,-,-,-,-,-,hd⟩:=scan_token hat hscan
  cases htail : d.tokens with
  | error f =>
   rw [htail] at h
   cases h
  | ok vs =>
   rw [htail] at h
   obtain rfl:=Except.ok.inj h
   have hdat:d.At src := by
    rw [hd]
    exact (hskips.at_end.setFresh false).advance n
   obtain ⟨us,span,rfl,htokens⟩:=
    ih hdat (fun hcontinues => hc (hcontinues.of_suffix hsuffix)) htail
   refine ⟨t :: us,span,rfl,?_⟩
   rw [tokens_of_token hbefore,htokens]
   cases tokens _ <;> rfl

end Cursor

/-- If a text is read well and does not continue its last line, then a second text below it is read
as it is by itself: its tokens follow those of the first one, or its fault is the answer, with the
characters and lines of the first one above them. -/
theorem tokenize_below (a b:String) {ts:List Token} (ha:tokenize a = .ok ts)
  (hline:¬ ContinuesLine a.toList) :
  (∀ us, tokenize b = .ok us →
   tokenize (a ++ "\n" ++ b) = .ok (ts.dropLast ++
    us.map (Token.shift (a.length + 1) (1 + a.toList.count '\n')))) ∧
  ∀ f, tokenize b = .error f →
   tokenize (a ++ "\n" ++ b) =
    .error (f.shift (a.length + 1) (1 + a.toList.count '\n')) := by
 obtain ⟨us,span,rfl,htokens⟩:=
  Cursor.tokens_before b.toList (Cursor.start_at a) hline ha
 have hjoined : tokenize (a ++ "\n" ++ b) =
   ((Cursor.start a).before ('\n' :: b.toList)).tokens := by
  unfold tokenize Cursor.start Cursor.before
  rw [String.toList_append,String.toList_append,List.append_assoc]
  rfl
 rw [hjoined,htokens,Cursor.tokens_shift,List.dropLast_concat,String.length_toList]
 refine ⟨fun vs hvs => ?_,fun f hf => ?_⟩
 · have hb:Cursor.tokens ⟨b.toList,0,1,1,true⟩ = .ok vs:=hvs
   rw [hb]
   rfl
 · have hb:Cursor.tokens ⟨b.toList,0,1,1,true⟩ = .error f:=hf
   rw [hb]
   rfl

/-- A directive of two lines and a comment above another directive, or above a fault. -/
theorem tokenize_below_directive :
  ¬ ContinuesLine "#define A \\\n1\nx//y".toList ∧
  tokenize "#define A \\\n1\nx//y" =
   .ok [⟨.ident "x","x",⟨14,15,3,1⟩⟩,Token.eof ⟨18,18,3,5⟩] ∧
  tokenize "# z\n\"s\"" =
   .ok [⟨.string "s","\"s\"",⟨4,7,2,1⟩⟩,Token.eof ⟨7,7,2,4⟩] ∧
  tokenize "#define A \\\n1\nx//y\n# z\n\"s\"" =
   .ok [⟨.ident "x","x",⟨14,15,3,1⟩⟩,⟨.string "s","\"s\"",⟨23,26,5,1⟩⟩,
    Token.eof ⟨26,26,5,4⟩] ∧
  tokenize "1\n'" = .error ⟨.unterminatedChar,⟨2,3,2,1⟩⟩ ∧
  tokenize "#define A \\\n1\nx//y\n1\n'" =
   .error ⟨.unterminatedChar,⟨21,22,5,1⟩⟩ := by
 have hline : ¬ ContinuesLine "#define A \\\n1\nx//y".toList := by decide
 have ha : tokenize "#define A \\\n1\nx//y" =
   .ok [⟨.ident "x","x",⟨14,15,3,1⟩⟩,Token.eof ⟨18,18,3,5⟩] := by
  decide +kernel
 have hb : tokenize "# z\n\"s\"" =
   .ok [⟨.string "s","\"s\"",⟨4,7,2,1⟩⟩,Token.eof ⟨7,7,2,4⟩] := by
  decide +kernel
 have hf : tokenize "1\n'" = .error ⟨.unterminatedChar,⟨2,3,2,1⟩⟩ := by decide +kernel
 exact ⟨hline,ha,hb,(tokenize_below _ _ ha hline).1 _ hb,hf,
  (tokenize_below _ _ ha hline).2 _ hf⟩

end CCheck
