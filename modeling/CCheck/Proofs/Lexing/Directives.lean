import CCheck.Proofs.Lexing.Lines

/-! # Where directives begin

A `#` that a scanner comes to begins a directive exactly if no token begins before it on its line.
The end of a token that began on an earlier line does not count. -/

set_option autoImplicit false

namespace CCheck

open Lexeme

inductive Role
 | filler
 | directive
 | head
 | tail
deriving DecidableEq

abbrev Trail := List (Char × Role)

namespace Trail

def line (w:Trail) : Trail := w.rtakeWhile (·.1 != '\n')

lemma line_append (w z:Trail) :
  line (w ++ z) = if '\n' ∈ z.map (·.1) then z.line else w.line ++ z := by
 induction z using List.reverseRecOn with
 | nil => simp
 | append_singleton z x ih =>
  unfold line at ih ⊢
  simp only [← List.append_assoc,List.rtakeWhile_concat,ih,List.map_append,List.map_singleton,
   List.mem_append,List.mem_singleton,bne_iff_ne,eq_comm (b := x.1)]
  by_cases hx : x.1 = '\n'
  · simp [hx]
  · simp only [hx,or_false,ne_eq,not_false_eq_true,if_true]
    split <;> rfl

lemma line_subset (w:Trail) : w.line ⊆ w := List.IsSuffix.subset (List.rtakeWhile_suffix _ _)

end Trail

def Role.ofGap (rest:List Char) : Role := if rest.head? = some '#' then .directive else .filler

namespace Cursor

/-- The scanner of a source comes to the cursor, item by item and token by token, with these
characters behind it. -/
inductive Reached (source:String) : Trail → Cursor → Prop
 | start : Reached source [] (start source)
 | item {trail:Trail} {c:Cursor} {n:Nat} (before:Reached source trail c)
   (gap:gap c.fresh c.rest = .item n) :
   Reached source (trail ++ (c.rest.take (n + 1)).map (·,.ofGap c.rest))
    (advance (n + 1) c)
 | token {trail:Trail} {c:Cursor} {ch:Char} {cs:List Char} {kind:TokenKind} {n:Nat}
   (before:Reached source trail c) (gap:gap c.fresh c.rest = .absent) (rest:c.rest = ch :: cs)
   (lexeme:lexeme ch cs = .ok (kind,n)) :
   Reached source (trail ++ (ch,.head) :: (cs.take (n - 1)).map (·,.tail))
    (advance (n - 1 + 1) { c with fresh := false })

variable {source:String} {trail:Trail} {c:Cursor} {cs:List Char}

structure Tells (trail:Trail) (c:Cursor) : Prop where
 fresh : c.fresh = true ↔ ∀ p ∈ trail.line, p.2 ≠ .head
 directive : (∃ p ∈ trail.line, p.2 = .directive) → EndsLine c.rest

lemma map_fst {role:Role} (w:List Char) : (w.map (·,role)).map Prod.fst = w := by
 rw [List.map_map]
 exact List.map_id w

lemma Reached.tells (h:Reached source trail c) : Tells trail c := by
 induction h with
 | start =>
  refine ⟨⟨fun _ => List.forall_mem_nil _,fun _ => rfl⟩,?_⟩
  rintro ⟨p,hp,-⟩
  cases hp
 | @item trail c n before gap ih =>
  obtain ⟨-,hle⟩:=gap_spec gap
  have hparts:∀ p ∈ (c.rest.take (n + 1)).map (·,Role.ofGap c.rest), p.2 = .ofGap c.rest:=
   List.forall_mem_map.mpr fun _ _ => rfl
  constructor
  · have hhead:∀ p ∈ (c.rest.take (n + 1)).map (·,Role.ofGap c.rest), p.2 ≠ .head := by
     intro p hp
     rw [hparts p hp,Role.ofGap]
     split <;> nofun
    rw [Trail.line_append,map_fst,advance_fresh,Bool.or_eq_true,List.contains_iff_mem,ih.fresh]
    split
    · rename_i hnewline
      exact ⟨fun _ p hp => hhead p (Trail.line_subset _ hp),fun _ => .inr hnewline⟩
    · rename_i hnewline
      rw [List.forall_mem_append]
      exact ⟨fun h => ⟨h.resolve_right hnewline,hhead⟩,fun h => .inl h.1⟩
  · rintro ⟨p,hp,hdirective⟩
    rw [advance_rest]
    by_cases hmark : c.rest.head? = some '#'
    · obtain ⟨cs,hcs⟩:=List.head?_eq_some_iff.mp hmark
      have hview:=Gap.View.of_gap c.fresh c.rest
      rw [gap,hcs] at hview
      rw [hcs]
      generalize c.fresh = fresh at hview
      cases hview with
      | blank hblank => cases hblank
      | directive => exact (directiveLength_spec cs).2.1
    · -- the directive would stand before the item, which then is a newline
      rw [Trail.line_append,map_fst] at hp
      have hold:p ∈ trail.line ∧ '\n' ∉ c.rest.take (n + 1) := by
       have hnew:p ∉ (c.rest.take (n + 1)).map (·,Role.ofGap c.rest) := by
        intro hp
        rw [hparts p hp,Role.ofGap,if_neg hmark] at hdirective
        cases hdirective
       split at hp
       · exact absurd (Trail.line_subset _ hp) hnew
       · exact ⟨(List.mem_append.mp hp).resolve_right hnew,‹_›⟩
      have hends:=ih.directive ⟨p,hold.1,hdirective⟩
      cases hrest : c.rest with
      | nil => rw [hrest] at hle; cases hle
      | cons ch cs =>
       rw [hrest] at hends hold
       rw [hends ch rfl] at hold
       exact absurd List.mem_cons_self hold.2
 | @token trail c ch cs kind n before gap rest lexeme ih =>
  have hch:ch ≠ '\n' := by
   rintro rfl
   rw [rest,(Gap.View.blank rfl).gap_eq] at gap
   cases gap
  have htail:∀ p ∈ (cs.take (n - 1)).map (·,Role.tail), p.2 = .tail:=
   List.forall_mem_map.mpr fun _ _ => rfl
  have hnewline : '\n' ∈ ch :: cs.take (n - 1) ↔ '\n' ∈ cs.take (n - 1) := by
   rw [List.mem_cons,or_iff_right hch.symm]
  rw [show trail ++ (ch,Role.head) :: (cs.take (n - 1)).map (·,Role.tail) =
   trail ++ [(ch,.head)] ++ (cs.take (n - 1)).map (·,.tail) by simp]
  constructor
  · rw [Trail.line_append,map_fst,advance_fresh,Bool.false_or,List.contains_iff_mem]
    change '\n' ∈ c.rest.take (n - 1 + 1) ↔ _
    rw [rest,List.take_succ_cons,hnewline]
    split
    · rename_i h
      exact ⟨fun _ p hp => by simp [htail p (Trail.line_subset _ hp)],fun _ => h⟩
    · rename_i h
      rw [Trail.line_append,if_neg (by simpa using hch.symm)]
      refine ⟨fun h' => absurd h' h,fun hall => ?_⟩
      exact absurd rfl (hall (ch,.head) (by simp))
  · rintro ⟨p,hp,hdirective⟩
    have hnew:p ∉ (cs.take (n - 1)).map (·,Role.tail) ∧ p ≠ (ch,.head) := by
     refine ⟨fun hp => ?_,fun hp => ?_⟩
     · rw [htail p hp] at hdirective
       cases hdirective
     · rw [hp] at hdirective
       cases hdirective
    have hold:p ∈ trail.line := by
     rw [Trail.line_append] at hp
     split at hp
     · exact absurd (Trail.line_subset _ hp) hnew.1
     · rw [Trail.line_append,if_neg (by simpa using hch.symm)] at hp
       exact (List.mem_append.mp ((List.mem_append.mp hp).resolve_right hnew.1)).resolve_right
        (by simpa using hnew.2)
    have hends:=ih.directive ⟨p,hold,hdirective⟩
    rw [rest] at hends
    exact absurd (hends ch rfl) hch

lemma Reached.reads (h:Reached source trail c) :
  c.At source.toList ∧ trail.map (·.1) = source.toList.take c.offset ∧
   ∃ ts, tokenize source = c.tokens.map (ts ++ ·) := by
 induction h with
 | start =>
  refine ⟨start_at source,rfl,[],?_⟩
  unfold tokenize
  cases tokens _ <;> rfl
 | @item trail c n before gap ih =>
  obtain ⟨hat,htrail,ts,hts⟩:=ih
  refine ⟨hat.advance _,?_,ts,?_⟩
  · rw [List.map_append,map_fst,htrail,advance_offset (gap_spec gap).2,← hat.rest,← List.take_add]
  · rw [hts,tokens_congr (c := c) (d := advance (n + 1) c)]
    unfold scan
    rw [skipGaps_of_item gap]
 | @token trail c ch cs kind n before gap rest lexeme ih =>
  obtain ⟨hat,htrail,ts,hts⟩:=ih
  obtain ⟨hpos,hle,-⟩:=lexeme_covers ch cs kind n lexeme
  refine ⟨(hat.setFresh false).advance _,?_,?_⟩
  · rw [advance_offset,List.take_add (i := c.offset),hat.rest,rest,List.take_succ_cons,
     List.map_append,htrail,List.map_cons,map_fst]
    change n - 1 + 1 ≤ c.rest.length
    rw [rest]
    omega
  · have hscan:∃ t, c.scan = .token t (advance (n - 1 + 1) { c with fresh := false }) := by
     unfold scan
     rw [skipGaps_of_absent gap]
     dsimp only
     split
     · simp_all
     · rename_i h'
       obtain ⟨rfl,rfl⟩:=List.cons.inj (rest.symm.trans h')
       unfold take
       rw [lexeme]
       exact ⟨_,rfl⟩
    obtain ⟨t,ht⟩:=hscan
    refine ⟨ts ++ [t],?_⟩
    rw [hts,tokens_of_token ht]
    cases tokens _ <;> simp [Except.map]

end Cursor

open Cursor

/-- A `#` that the scanner comes to is skipped with its directive if all that stands before it on
its line are blanks, comments and the end of a token from an earlier line. Otherwise a token begins
before it on the line, and it is an unknown character. -/
theorem directive_iff_fresh_line {source:String} {trail:Trail} {c:Cursor} {cs:List Char}
  (h:Reached source trail c) (hrest:c.rest = '#' :: cs) :
  trail.map (·.1) = source.toList.take c.offset ∧
  ((∀ p ∈ trail.line, p.2 = .filler ∨ p.2 = .tail) ∧
    c.scan = (advance (directiveLength cs + 1) c).scan ∧
    Reached source (trail ++ ('#' :: cs.take (directiveLength cs)).map (·,.directive))
     (advance (directiveLength cs + 1) c) ∨
   (∃ p ∈ trail.line, p.2 = .head) ∧
    tokenize source = .error ⟨.unknownCharacter '#',c.spanOf 1⟩) := by
 obtain ⟨hfresh,hdirective⟩:=h.tells
 obtain ⟨-,htrail,ts,hts⟩:=h.reads
 refine ⟨htrail,?_⟩
 cases hc : c.fresh with
 | true =>
  have hgap:gap c.fresh c.rest = .item (directiveLength cs) := by
   rw [hrest,hc]
   exact Gap.View.directive.gap_eq
  refine .inl ⟨fun p hp => ?_,?_,?_⟩
  · have hhead:=hfresh.mp hc p hp
    cases hpart : p.2 with
    | filler => exact .inl rfl
    | tail => exact .inr rfl
    | head => exact absurd hpart hhead
    | directive =>
     have hends:=hdirective ⟨p,hp,hpart⟩
     rw [hrest] at hends
     exact absurd (hends '#' rfl) (by decide)
  · unfold scan
    rw [skipGaps_of_item hgap]
  · have hnext:=h.item hgap
    rwa [hrest,List.take_succ_cons] at hnext
 | false =>
  have hgap:gap c.fresh c.rest = .absent := by
   rw [hrest,hc]
   exact (Gap.View.token (by decide) (by simp) (fun _ h => absurd h.1 (by decide))
    fun _ h => absurd h.1 (by decide)).gap_eq
  refine .inr ⟨?_,?_⟩
  · by_contra hnone
    rw [hfresh.mpr fun p hp hhead => hnone ⟨p,hp,hhead⟩] at hc
    cases hc
  · have hscan:c.scan = .fault ⟨.unknownCharacter '#',c.spanOf 1⟩ := by
     unfold scan
     rw [skipGaps_of_absent hgap]
     dsimp only
     rw [hrest]
     rfl
    rw [hts,tokens_of_fault hscan]
    rfl

theorem directive_iff_fresh_line_unknown :
  Reached "x #" [('x',.head),(' ',.filler)] ⟨['#'],2,1,3,false⟩ ∧
   tokenize "x #" = .error ⟨.unknownCharacter '#',⟨2,3,1,3⟩⟩ := by
 have hlexeme:lexeme 'x' [' ','#'] = .ok (.ident "x",1) := by decide +kernel
 have hx:Reached "x #" [('x',.head)] ⟨[' ','#'],1,1,2,false⟩:=Reached.start.token rfl rfl hlexeme
 have h:Reached "x #" [('x',.head),(' ',.filler)] ⟨['#'],2,1,3,false⟩:=hx.item (n := 0) rfl
 obtain ⟨-,⟨hall,-⟩ | ⟨-,hfault⟩⟩:=directive_iff_fresh_line h rfl
 · exact absurd (hall ('x',.head) (by decide)) (by decide)
 · exact ⟨h,hfault⟩

/-- A string that is continued on a second line makes the rest of this line fresh: a `#` after it is
skipped, although the string ends on the same line. -/
theorem directive_after_string :
  Reached "\"a\\\nb\" #" [('"',.head),('a',.tail),('\\',.tail),('\n',.tail),('b',.tail),('"',.tail),
   (' ',.filler)] ⟨['#'],7,2,4,true⟩ ∧
  tokenize "\"a\\\nb\" #" =
   .ok [⟨.string "ab","\"a\\\nb\"",⟨0,6,1,1⟩⟩,Token.eof ⟨8,8,2,5⟩] := by
 have hlexeme:lexeme '"' ['a','\\','\n','b','"',' ','#'] = .ok (.string "ab",6) := by
  decide +kernel
 have hstring:Reached "\"a\\\nb\" #" [('"',.head),('a',.tail),('\\',.tail),('\n',.tail),
   ('b',.tail),('"',.tail)] ⟨[' ','#'],6,2,3,true⟩:=Reached.start.token rfl rfl hlexeme
 exact ⟨hstring.item (n := 0) rfl,by decide +kernel⟩

end CCheck
