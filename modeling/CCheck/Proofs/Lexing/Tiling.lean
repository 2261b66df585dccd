import Mathlib.Data.List.DropRight
import Mathlib.Data.List.Infix
import CCheck.Scanner
import CCheck.Proofs.Lexing.Lexemes

/-! # Tokens tile the source

The tokens that a scanner hands out spell pieces of the source in its order. -/

set_option autoImplicit false

namespace CCheck

variable {extra i j n pos:Nat} {f:Fault} {fresh:Bool} {last t:Token} {ts:List Token}

/-! ### Lines and columns -/

def lineAt (src:List Char) (offset:Nat) : Nat := 1 + (src.take offset).count '\n'

def columnAt (src:List Char) (offset:Nat) : Nat :=
 1 + ((src.take offset).rtakeWhile (· != '\n')).length

section Offsets

variable {src cs:List Char} {offset:Nat} {c:Char}

lemma take_succ_of_drop (h:src.drop offset = c :: cs) :
  src.take (offset + 1) = src.take offset ++ [c] := by
 have hget:src[offset]? = some c := by
  have hhead:=congrArg List.head? h
  rwa [List.head?_drop,List.head?_cons] at hhead
 rw [List.take_add_one,hget,Option.toList_some]

lemma lineAt_succ (h:src.drop offset = c :: cs) :
  lineAt src (offset + 1) = if c = '\n' then lineAt src offset + 1 else lineAt src offset := by
 unfold lineAt
 rw [take_succ_of_drop h,List.count_append]
 split
 · subst c
   simp only [List.count_singleton_self]
   omega
 · rename_i hne
   rw [List.count_singleton,if_neg (by simpa using hne)]
   omega

lemma columnAt_succ (h:src.drop offset = c :: cs) :
  columnAt src (offset + 1) = if c = '\n' then 1 else columnAt src offset + 1 := by
 unfold columnAt
 rw [take_succ_of_drop h,List.rtakeWhile_concat]
 split
 · rename_i hc
   have hne:c ≠ '\n' := by simpa using hc
   rw [if_neg hne,List.length_append,List.length_singleton]
   omega
 · rename_i hc
   have heq:c = '\n' := by simpa using hc
   rw [if_pos heq,List.length_nil]

lemma lineAt_le (src:List Char) (offset:Nat) : lineAt src offset ≤ offset + 1 := by
 have hcount:(src.take offset).count '\n' ≤ (src.take offset).length:=List.count_le_length
 have htake:=List.length_take_le offset src
 unfold lineAt
 omega

lemma columnAt_le (src:List Char) (offset:Nat) : columnAt src offset ≤ offset + 1 := by
 have hlast:=(List.rtakeWhile_suffix (· != '\n') (src.take offset)).length_le
 have htake:=List.length_take_le offset src
 unfold columnAt
 omega

lemma extract_append_extract {k:Nat} (hij:i ≤ j) (hjk:j ≤ k) :
  src.extract i k = src.extract i j ++ src.extract j k := by
 have hj:src.drop j = (src.drop i).drop (j - i) := by
  rw [List.drop_drop,Nat.add_sub_cancel' hij]
 rw [List.extract_eq_take_drop,List.extract_eq_take_drop,List.extract_eq_take_drop,hj,
  ← List.take_add]
 congr 1
 omega

lemma extract_append_drop (hij:i ≤ j) :
  src.extract i j ++ src.drop j = src.drop i := by
 have hj:src.drop j = (src.drop i).drop (j - i) := by
  rw [List.drop_drop,Nat.add_sub_cancel' hij]
 rw [List.extract_eq_take_drop,hj,List.take_append_drop]

end Offsets

/-! ### Cursors -/

namespace Cursor

structure At (src:List Char) (c:Cursor) : Prop where
 rest : src.drop c.offset = c.rest
 offset_le : c.offset ≤ src.length
 line : c.line = .ofNat (lineAt src c.offset)
 column : c.column = .ofNat (columnAt src c.offset)

variable {src:List Char} {c d:Cursor}

lemma start_at (source:String) : (start source).At source.toList :=
 ⟨rfl,Nat.zero_le _,rfl,rfl⟩

lemma At.step (h:c.At src) : c.step.At src := by
 obtain ⟨rest,offset,line,column,fresh⟩:=c
 obtain ⟨hrest,hoffset,hline,hcolumn⟩:=h
 dsimp only at hrest hoffset hline hcolumn
 unfold Cursor.step
 split
 · exact ⟨hrest,hoffset,hline,hcolumn⟩
 · rename_i ch cs hcs
   dsimp only at hcs
   rw [hcs] at hrest
   have hlt:offset < src.length := by
    have:=congrArg List.length hrest
    rw [List.length_drop,List.length_cons] at this
    omega
   have hnext:src.drop (offset + 1) = cs := by
    rw [← List.drop_drop,hrest,List.drop_succ_cons,List.drop_zero]
   have hl:=lineAt_succ hrest
   have hc:=columnAt_succ hrest
   split
   · rename_i hnewline
     rw [if_pos hnewline] at hl hc
     exact ⟨hnext,hlt,by rw [hl,hline,UInt32.ofNat_add]; rfl,congrArg UInt32.ofNat hc.symm⟩
   · rename_i hnewline
     rw [if_neg hnewline] at hl hc
     exact ⟨hnext,hlt,by rw [hl,hline],by rw [hc,hcolumn,UInt32.ofNat_add]; rfl⟩

lemma At.advance (h:c.At src) (n:Nat) : (advance n c).At src := by
 induction n generalizing c with
 | zero => exact h
 | succ n ih => exact ih h.step

lemma At.length_rest (h:c.At src) : c.offset + c.rest.length = src.length := by
 have:=h.offset_le
 rw [← h.rest,List.length_drop]
 omega

lemma At.setFresh (h:c.At src) (fresh:Bool) : At src { c with fresh } :=
 ⟨h.rest,h.offset_le,h.line,h.column⟩

lemma step_offset (h:c.rest ≠ []) : c.step.offset = c.offset + 1 := by
 unfold step
 split
 · contradiction
 · split <;> rfl

lemma advance_offset (h:n ≤ c.rest.length) :
  (advance n c).offset = c.offset + n := by
 induction n generalizing c with
 | zero => rfl
 | succ n ih =>
  have hne:c.rest ≠ []:=List.ne_nil_of_length_pos (by omega)
  have hle:n ≤ c.step.rest.length := by
   rw [step_rest,List.length_drop]
   omega
  rw [Cursor.advance,ih hle,step_offset hne]
  omega

lemma step_fresh (c:Cursor) : c.step.fresh = (c.fresh || (c.rest.take 1).contains '\n') := by
 unfold step
 split
 · simp_all
 · split <;> simp_all [eq_comm]

lemma advance_fresh (n:Nat) (c:Cursor) :
  (advance n c).fresh = (c.fresh || (c.rest.take n).contains '\n') := by
 induction n generalizing c with
 | zero => simp [Cursor.advance]
 | succ n ih =>
  rw [Cursor.advance,ih,step_fresh,step_rest,Bool.or_assoc,Nat.add_comm n 1,List.take_add]
  simp only [List.contains_eq_any_beq,List.any_append]

end Cursor

/-! ### Trivia -/

def EndsLine (cs:List Char) : Prop := ∀ c ∈ cs.head?, c = '\n'

inductive Continued : List Char → Prop where
 | nil : Continued []
 | newline {cs:List Char} (tail:Continued cs) : Continued ('\\' :: '\n' :: cs)
 | returnNewline {cs:List Char} (tail:Continued cs) :
    Continued ('\\' :: '\r' :: '\n' :: cs)
 | other {c:Char} {cs:List Char} (hc:c ≠ '\n') (tail:Continued cs) :
    Continued (c :: cs)

/-- One item that separates tokens, before `rest`. A directive begins a line, and like a
line comment it takes the rest of its line; a block comment ends at its first mark. -/
inductive TriviaItem (rest:List Char) : Bool → List Char → Prop where
 | blank {fresh:Bool} {c:Char} (hc:Lexeme.isBlank c = true) : TriviaItem rest fresh [c]
 | lineComment {fresh:Bool} {body:List Char} (hbody : '\n' ∉ body) (hrest:EndsLine rest) :
    TriviaItem rest fresh ('/' :: '/' :: body)
 | blockComment {fresh:Bool} {body:List Char}
    (hbody:¬ ['*','/'] <:+: body ++ ['*']) :
    TriviaItem rest fresh ('/' :: '*' :: (body ++ ['*','/']))
 | directive {body:List Char} (hbody:Continued body) (hrest:EndsLine rest) :
    TriviaItem rest true ('#' :: body)

inductive Trivia (rest:List Char) : Bool → List Char → Prop where
 | nil {fresh:Bool} : Trivia rest fresh []
 | cons {fresh:Bool} {item cs:List Char} (head:TriviaItem (cs ++ rest) fresh item)
    (tail:Trivia rest (fresh || item.contains '\n') cs) : Trivia rest fresh (item ++ cs)

section Gaps

open Lexeme

lemma lineLength_spec (cs:List Char) :
  '\n' ∉ cs.take (lineLength cs) ∧ EndsLine (cs.drop (lineLength cs)) ∧
   lineLength cs ≤ cs.length := by
 have htake:cs.take (lineLength cs) = cs.takeWhile (· != '\n'):=
  (List.prefix_iff_eq_take.mp (List.takeWhile_prefix _)).symm
 have hdrop:cs.drop (lineLength cs) = cs.dropWhile (· != '\n') := by
  have hsplit:=List.takeWhile_append_dropWhile (p := (· != '\n')) (l := cs)
  rw [← htake] at hsplit
  exact List.append_cancel_left ((List.take_append_drop _ _).trans hsplit.symm)
 refine ⟨?_,?_,(List.takeWhile_prefix _).length_le⟩
 · intro hmem
   rw [htake] at hmem
   simpa using List.mem_takeWhile_imp hmem
 · intro c hc
   rw [hdrop] at hc
   have:=List.head?_dropWhile_not (· != '\n') cs
   rw [hc] at this
   simpa using this

lemma directiveLength_spec (cs:List Char) :
  Continued (cs.take (directiveLength cs)) ∧ EndsLine (cs.drop (directiveLength cs)) ∧
   directiveLength cs ≤ cs.length := by
 fun_induction directiveLength cs with
 | case1 => exact ⟨.nil,by simp [EndsLine],Nat.le_refl _⟩
 | case2 cs ih =>
  obtain ⟨hcontinued,hends,hle⟩:=ih
  exact ⟨.newline hcontinued,hends,by simpa using hle⟩
 | case3 cs ih =>
  obtain ⟨hcontinued,hends,hle⟩:=ih
  exact ⟨.returnNewline hcontinued,hends,by simpa using hle⟩
 | case4 cs => exact ⟨.nil,by simp [EndsLine],Nat.zero_le _⟩
 | case5 c cs _ _ hc ih =>
  obtain ⟨hcontinued,hends,hle⟩:=ih
  exact ⟨.other hc hcontinued,hends,by simpa using hle⟩

lemma commentLength?_spec {cs:List Char} (h:commentLength? cs = some n) :
  n ≤ cs.length ∧
   ∃ body, cs.take n = body ++ ['*','/'] ∧ ¬ ['*','/'] <:+: body ++ ['*'] := by
 fun_induction commentLength? cs generalizing n with
 | case1 => cases h
 | case2 cs =>
  obtain rfl:=Option.some.inj h
  exact ⟨by simp,[],rfl,by decide⟩
 | case3 c cs hopen ih =>
  obtain ⟨m,hm,rfl⟩:=Option.map_eq_some_iff.mp h
  obtain ⟨hle,body,htake,hbody⟩:=ih hm
  refine ⟨by simpa using hle,c :: body,by rw [List.take_succ_cons,htake]; rfl,?_⟩
  intro hinfix
  rcases List.infix_cons_iff.mp hinfix with hhead | htail
  · -- the mark would stand at the head, where the comment would have ended
    obtain ⟨rfl,hslash⟩:=List.cons_prefix_cons.mp hhead
    have hprefix:['/'] <+: cs := by
     refine hslash.trans (List.IsPrefix.trans ⟨['/'],?_⟩ (List.take_prefix m cs))
     exact (List.append_assoc body ['*'] ['/']).trans htake.symm
    obtain ⟨ds,rfl⟩:= hprefix
    exact hopen ds rfl rfl
  · exact hbody htail

lemma gap_spec {cs:List Char}
  (h:gap fresh cs = .item extra) :
  TriviaItem (cs.drop (extra + 1)) fresh (cs.take (extra + 1)) ∧ extra + 1 ≤ cs.length := by
 unfold gap at h
 split at h
 · cases h
 · rename_i c cs
   split at h
   · rename_i hblank
     obtain rfl:=Gap.item.inj h
     exact ⟨.blank hblank,by simp⟩
   · split at h
     · rename_i hmark
       obtain ⟨rfl,rfl⟩:=hmark
       obtain rfl:=Gap.item.inj h
       obtain ⟨hcontinued,hends,hle⟩:=directiveLength_spec cs
       exact ⟨.directive hcontinued hends,by simpa using hle⟩
     · split at h
       · rename_i hslash
         subst hslash
         split at h
         · rename_i ds
           obtain rfl:=Gap.item.inj h
           have hlength:lineLength ('/' :: ds) = lineLength ds + 1:=rfl
           obtain ⟨hbody,hends,hle⟩:=lineLength_spec ds
           rw [hlength]
           exact ⟨.lineComment hbody hends,by simpa using hle⟩
         · rename_i ds
           split at h
           · rename_i n hn
             obtain rfl:=Gap.item.inj h
             obtain ⟨hle,body,htake,hbody⟩:=commentLength?_spec hn
             refine ⟨?_,by simpa using hle⟩
             rw [List.take_succ_cons,List.take_succ_cons,htake]
             exact .blockComment hbody
           · cases h
         · cases h
       · cases h

end Gaps

/-! ### Scanning -/

namespace Cursor

variable {src:List Char} {c d:Cursor}

structure Skips (src:List Char) (c d:Cursor) : Prop where
 at_end : d.At src
 le : c.offset ≤ d.offset
 trivia : Trivia (src.drop d.offset) c.fresh (src.extract c.offset d.offset)

lemma Skips.refl (h:c.At src) : Skips src c c where
 at_end := h
 le := Nat.le_refl _
 trivia := by
  rw [List.extract_eq_take_drop,Nat.sub_self,List.take_zero]
  exact .nil

lemma Skips.item (hc:c.At src) (h:Lexeme.gap c.fresh c.rest = .item extra)
  (hd:Skips src (advance (extra + 1) c) d) : Skips src c d := by
 obtain ⟨hitem,hle⟩:=gap_spec h
 have hoffset:=advance_offset hle
 have hmiddle:src.extract c.offset (advance (extra + 1) c).offset =
   c.rest.take (extra + 1) := by
  rw [hoffset,List.extract_eq_take_drop,hc.rest,Nat.add_sub_cancel_left]
 have hcd:c.offset ≤ (advance (extra + 1) c).offset := by omega
 refine ⟨hd.at_end,Nat.le_trans hcd hd.le,?_⟩
 rw [extract_append_extract hcd hd.le,hmiddle]
 refine .cons ?_ ?_
 · rw [extract_append_drop hd.le,(hc.advance _).rest,advance_rest]
   exact hitem
 · rw [← advance_fresh]
   exact hd.trivia

lemma skipGaps_ok (hc:c.At src) (h:c.skipGaps = .ok d) : Skips src c d := by
 fun_induction skipGaps c with
 | case1 c _ =>
  obtain rfl:=Except.ok.inj h
  exact .refl hc
 | case2 => cases h
 | case3 c extra hgap ih => exact .item hc hgap (ih (hc.advance _) h)

lemma scan_finish {span:Span} (hc:c.At src) (h:c.scan = .finish span d) :
  Skips src c d ∧ d.rest = [] ∧ span = d.spanOf 0 := by
 unfold scan at h
 split at h
 · cases h
 · rename_i e hskip
   split at h
   · rename_i hrest
     obtain ⟨rfl,rfl⟩:=Scan.finish.inj h
     exact ⟨skipGaps_ok hc hskip,hrest,rfl⟩
   · unfold take at h
     split at h <;> cases h

lemma scan_token (hc:c.At src) (h:c.scan = .token t d) :
  ∃ e n, Skips src c e ∧ 0 < n ∧ n ≤ e.rest.length ∧ t.kind ≠ .eof ∧ t.kind ≠ .error ∧
   t.text = String.ofList (e.rest.take n) ∧ t.span = e.spanOf n ∧
   d = advance n { e with fresh := false } := by
 unfold scan at h
 split at h
 · cases h
 · rename_i e hskip
   split at h
   · cases h
   · rename_i ch cs hcs
     unfold take at h
     split at h
     · rename_i k n hlexeme
       obtain ⟨hpos,hle,heof,herror⟩:=Lexeme.lexeme_covers ch cs k n hlexeme
       obtain ⟨rfl,rfl⟩:=Scan.token.inj h
       rw [Nat.sub_add_cancel hpos]
       refine ⟨e,n,skipGaps_ok hc hskip,hpos,?_,heof,herror,?_,rfl,rfl⟩
       · rw [hcs]
         exact hle
       · rw [hcs]
     · cases h

lemma scan_of_rest_nil (h:c.rest = []) : c.scan = .finish (c.spanOf 0) c := by
 have hskip:c.skipGaps = .ok c := by
  unfold skipGaps
  split
  · rfl
  · simp_all [Lexeme.gap]
  · simp_all [Lexeme.gap]
 unfold scan
 rw [hskip]
 dsimp only
 split
 · rfl
 · simp_all

end Cursor

/-! ### What a scanner hands out -/

/-- The token that call number `n` of a scanner answers, counted from zero. -/
def Scanner.answer : Nat → Scanner → Token
 | 0, s => s.next.1
 | n + 1, s => answer n s.next.2

/-- From `pos` on, tokens alternate with trivia. A line is fresh after a token only if the
token itself has a newline. -/
def Tiled (src:List Char) : Bool → Nat → List Token → Prop
 | _, _, [] => True
 | fresh, pos, t :: ts =>
  pos ≤ t.span.start ∧
   Trivia (src.drop t.span.start) fresh (src.extract pos t.span.start) ∧
   Tiled src (t.text.toList.contains '\n') t.span.stop ts

/-- The tokens `ts` and then `last`, the end or a fault, are what `src` holds from `pos`
on. -/
structure Tiling (src:List Char) (fresh:Bool) (pos:Nat) (ts:List Token)
  (last:Token) : Prop where
 ordinary : ∀ t ∈ ts, t.kind ≠ .eof ∧ t.kind ≠ .error
 ends : last.kind = .eof ∨ last.kind = .error
 spelled : ∀ t ∈ ts, t.span.start < t.span.stop ∧ t.span.stop ≤ src.length ∧
  t.text = String.ofList (src.extract t.span.start t.span.stop)
 placed : ∀ t ∈ ts ++ [last], t.span.line = .ofNat (lineAt src t.span.start) ∧
  t.span.column = .ofNat (columnAt src t.span.start)
 tiled : Tiled src fresh pos (ts ++ [last])
 count : pos + ts.length ≤ src.length
 finish : last.kind = .eof → last.span.start = src.length ∧ last.span.stop = src.length

section Runs

open Cursor

variable {src:List Char} {c d:Cursor}

lemma Tiling.stop (hskip:Skips src c d)
  (hspan:last.span = d.spanOf n) (hends:last.kind = .eof ∨ last.kind = .error)
  (hfinish:last.kind = .eof → last.span.start = src.length ∧ last.span.stop = src.length) :
  Tiling src c.fresh c.offset [] last where
 ordinary := by simp
 ends := hends
 spelled := by simp
 placed := by
  intro t ht
  obtain rfl : t = last := by simpa using ht
  rw [hspan]
  exact ⟨hskip.at_end.line,hskip.at_end.column⟩
 tiled := by
  rw [List.nil_append,Tiled,hspan]
  exact ⟨hskip.le,hskip.trivia,trivial⟩
 count := Nat.le_trans hskip.le hskip.at_end.offset_le
 finish := hfinish

lemma Tiling.exact (h:Tiling src fresh pos ts last) (ht:t ∈ ts ++ [last])
  (hstart:t.span.start + 1 < UInt32.size) :
  t.span.line.toNat = lineAt src t.span.start ∧ t.span.column.toNat = columnAt src t.span.start := by
 obtain ⟨hline,hcolumn⟩:=h.placed t ht
 rw [hline,hcolumn]
 exact ⟨UInt32.toNat_ofNat_of_lt' (Nat.lt_of_le_of_lt (lineAt_le src _) hstart),
  UInt32.toNat_ofNat_of_lt' (Nat.lt_of_le_of_lt (columnAt_le src _) hstart)⟩

lemma Tiling.token (hc:c.At src)
  (hscan:c.scan = .token t d) (h:Tiling src d.fresh d.offset ts last) :
  Tiling src c.fresh c.offset (t :: ts) last := by
 obtain ⟨e,n,hskip,hpos,hle,heof,herror,htext,hspan,rfl⟩:=scan_token hc hscan
 have hlength:=hskip.at_end.length_rest
 have hstop:(advance n { e with fresh := false }).offset = t.span.stop := by
  rw [hspan]
  exact advance_offset hle
 have hfresh:(advance n { e with fresh := false }).fresh = t.text.toList.contains '\n' := by
  rw [advance_fresh,Bool.false_or,htext,String.toList_ofList]
 rw [hstop,hfresh] at h
 have hcount:=h.count
 have hcd:=hskip.le
 refine ⟨?_,h.ends,?_,?_,?_,?_,h.finish⟩
 · exact List.forall_mem_cons.mpr ⟨⟨heof,herror⟩,h.ordinary⟩
 · refine List.forall_mem_cons.mpr ⟨?_,h.spelled⟩
   simp only [hspan,spanOf,List.extract_eq_take_drop,hskip.at_end.rest,
    Nat.add_sub_cancel_left,htext,and_true]
   omega
 · refine List.forall_mem_cons.mpr ⟨?_,h.placed⟩
   rw [hspan]
   exact ⟨hskip.at_end.line,hskip.at_end.column⟩
 · refine ⟨?_,?_,h.tiled⟩
   · rw [hspan]
     exact hskip.le
   · rw [hspan]
     exact hskip.trivia
 · simp only [hspan,spanOf,List.length_cons] at hcount ⊢
   omega

lemma skipGaps_newlines (n:Nat) (c:Cursor) (h:c.rest = List.replicate n '\n') :
  ∃ d, c.skipGaps = .ok d ∧ d.rest = [] ∧ d.line = c.line + .ofNat n := by
 induction n generalizing c with
 | zero =>
  refine ⟨c,?_,h,(UInt32.add_zero _).symm⟩
  rw [skipGaps]
  split
  · rfl
  all_goals
   rename_i hgap
   rw [h] at hgap
   cases hgap
 | succ n ih =>
  have hgap:Lexeme.gap c.fresh c.rest = .item 0 := by
   rw [h,List.replicate_succ]
   rfl
  have hstep:c.step = ⟨List.replicate n '\n',c.offset + 1,c.line + 1,1,true⟩ := by
   unfold Cursor.step
   rw [h]
   rfl
  obtain ⟨d,hd,hrest,hline⟩:=ih (advance (0 + 1) c) (congrArg Cursor.rest hstep)
  refine ⟨d,?_,hrest,?_⟩
  · rw [skipGaps]
    split
    · rename_i hnone
      cases hnone.symm.trans hgap
    · rename_i hunclosed
      cases hunclosed.symm.trans hgap
    · rename_i extra hitem
      cases hitem.symm.trans hgap
      exact hd
  · rw [hline]
    change c.step.line + _ = _
    rw [hstep,UInt32.ofNat_add,UInt32.add_assoc,UInt32.add_comm 1]
    rfl

lemma end_of_newlines (n:Nat) :
  (Scanner.answer 0 (Scanner.start (String.ofList (List.replicate n '\n')))).span.line =
   1 + .ofNat n := by
 obtain ⟨d,hd,hrest,hline⟩:=skipGaps_newlines n
  (Cursor.start (String.ofList (List.replicate n '\n'))) String.toList_ofList
 have hscan:(Cursor.start (String.ofList (List.replicate n '\n'))).scan =
   .finish (d.spanOf 0) d := by
  rw [Cursor.scan,hd]
  dsimp only
  rw [hrest]
 simp only [Scanner.answer,Scanner.next,Scanner.start,hscan]
 exact hline

/-- One character more, and the true line no longer fits. -/
theorem line_wraps :
  (Scanner.answer 0 (Scanner.start
   (String.ofList (List.replicate (UInt32.size - 1) '\n')))).span.line = 0 := by
 rw [end_of_newlines]
 rfl

end Runs

end CCheck
