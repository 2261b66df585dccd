import CCheck.Proofs.Lexing.Lines

/-! # Lexemes and carriage returns

What becomes of lexemes and trivia when a carriage return is put before every newline of a text. -/

set_option autoImplicit false

namespace CCheck

open Lexeme

variable {c e:Char} {ds:List Char} {fresh:Bool} {k:TokenKind} {n:Nat}

/-! ### Texts with returns -/

def withReturns (cs:List Char) : List Char :=
 cs.flatMap fun c => if c = '\n' then ['\r','\n'] else [c]

variable {w r cs:List Char}

lemma withReturns_append (w r:List Char) :
  withReturns (w ++ r) = withReturns w ++ withReturns r :=
 List.flatMap_append

lemma withReturns_newline (cs:List Char) :
  withReturns ('\n' :: cs) = '\r' :: '\n' :: withReturns cs := rfl

lemma withReturns_cons (h:c ≠ '\n') (cs:List Char) :
  withReturns (c :: cs) = c :: withReturns cs := by
 unfold withReturns
 rw [List.flatMap_cons,if_neg h]
 rfl

lemma withReturns_line (h : '\n' ∉ w) : withReturns w = w := by
 induction w with
 | nil => rfl
 | cons c w ih =>
  rw [List.mem_cons,not_or] at h
  rw [withReturns_cons (Ne.symm h.1),ih h.2]

lemma mem_newline_withReturns (cs:List Char) :
  '\n' ∈ withReturns cs ↔ '\n' ∈ cs := by
 unfold withReturns
 rw [List.mem_flatMap]
 refine ⟨fun h => ?_,fun h => ⟨'\n',h,by decide⟩⟩
 obtain ⟨c,hc,hmem⟩:=h
 by_cases hnewline : c = '\n'
 · exact hnewline ▸ hc
 · rw [if_neg hnewline,List.mem_singleton] at hmem
   exact hmem ▸ hc

lemma exists_line (cs:List Char) : ∃ w r, cs = w ++ r ∧ '\n' ∉ w ∧ EndsLine r := by
 obtain ⟨hline,hends,-⟩:=lineLength_spec cs
 exact ⟨_,_,(List.take_append_drop (lineLength cs) cs).symm,hline,hends⟩

lemma apart_of_endsLine (h:EndsLine r) : Apart r := fun c hc => h c hc ▸ rfl

lemma apart_withReturns (h:EndsLine r) : Apart (withReturns r) := by
 cases r with
 | nil => exact apart_nil
 | cons c r =>
  obtain rfl:=h c rfl
  exact apart_cons _ (by decide)

lemma drop_withReturns (hw : '\n' ∉ w) (hn:n ≤ w.length) (r:List Char) :
  (withReturns (w ++ r)).drop n = withReturns ((w ++ r).drop n) := by
 have hdrop : '\n' ∉ w.drop n:=fun h => hw (List.mem_of_mem_drop h)
 rw [withReturns_append,withReturns_line hw,List.drop_append_of_le_length hn,
  List.drop_append_of_le_length hn,withReturns_append,withReturns_line hdrop]

lemma take_line (hw : '\n' ∉ w) (hn:n ≤ w.length) (r:List Char) :
  '\n' ∉ (w ++ r).take n := by
 rw [List.take_append_of_le_length hn]
 exact fun h => hw (List.mem_of_mem_take h)

/-! ### Quoted texts -/

lemma escape?_withReturns (hc:c ≠ '\n') (ds:List Char) :
  ∃ w r, c :: ds = w ++ r ∧ '\n' ∉ w ∧ escape? (c :: ds) = escape? w ∧
   escape? (withReturns (c :: ds)) = escape? w := by
 obtain ⟨w,r,rfl,hw,hr⟩:=exists_line ds
 refine ⟨c :: w,r,rfl,?_,escape?_apart (apart_of_endsLine hr) c w,?_⟩
 · rw [List.mem_cons,not_or]
   exact ⟨Ne.symm hc,hw⟩
 · rw [withReturns_cons hc,withReturns_append,withReturns_line hw]
   exact escape?_apart (apart_withReturns hr) c w

def Lexeme.Body.Breaks {α:Type} (cs:List Char) (b:Body α) : Prop :=
 ∀ a n, b = Except.ok (a,n) → '\n' ∈ cs.take n

lemma Lexeme.Body.breaks_error {α:Type} (cs:List Char) (n:Nat) :
  Body.Breaks cs (Except.error n:Body α) := by
 intro a k h
 cases h

lemma Lexeme.Body.Breaks.of_ok {α:Type} {a:α} (h : '\n' ∈ cs.take n) :
  Body.Breaks cs (Except.ok (a,n)) := by
 intro b k heq
 obtain ⟨-,rfl⟩:=Prod.mk.inj (Except.ok.inj heq)
 exact h

lemma Lexeme.Body.Breaks.of_after {α:Type} {b:Body α} {f:α → α}
  (h:Body.Breaks cs (b.after n f)) (hline : '\n' ∉ cs.take n) :
  Body.Breaks (cs.drop n) b := by
 rintro a k rfl
 have hmem:=h (f a) (k + n) rfl
 rw [Nat.add_comm,List.take_add,List.mem_append] at hmem
 exact hmem.resolve_left hline

lemma Lexeme.Body.after_error {α:Type} {b:Body α} (h:∃ n, b = Except.error n) (n:Nat)
  (f:α → α) : ∃ m, b.after n f = Except.error m := by
 obtain ⟨k,rfl⟩:=h
 exact ⟨k + n,rfl⟩

lemma stringBody_newline (cs:List Char) : stringBody ('\n' :: cs) = Except.error 0 := by
 unfold stringBody
 rfl

lemma charBody_newline (cs:List Char) : charBody ('\n' :: cs) = Except.error 0 := by
 unfold charBody
 rfl

lemma escape?_eq_none (h:escape? cs = none) : cs = [] := by
 cases cs with
 | nil => rfl
 | cons c cs =>
  unfold escape? at h
  dsimp only at h
  split at h
  case h_9 => split at h <;> cases h
  all_goals cases h

lemma stringBody_backslash : stringBody (withReturns ['\\']) = Except.error 1 := by
 unfold stringBody
 rfl

lemma charBody_backslash : charBody (withReturns ['\\']) = Except.error 1 := by
 unfold charBody
 rfl

lemma charBody_escaped (h:escape? ds = some (e,n)) :
  charBody ('\\' :: ds) = (charBody (ds.drop n)).after (n + 1) fun _ => some e := by
 rw [charBody,if_neg (by decide),if_neg (by decide),if_pos rfl,h]

lemma charBody_plain (cs:List Char) (hnewline:c ≠ '\n') (hquote:c ≠ '\'')
  (hslash:c ≠ '\\') : charBody (c :: cs) = (charBody cs).after 1 fun _ => some c := by
 conv => lhs; unfold charBody
 rw [if_neg hnewline,if_neg hquote,if_neg hslash]

lemma exists_escape {k:Nat} (hc:c ≠ '\n')
  (h:escape? (c :: ds) = some (e,k)) :
  escape? (withReturns (c :: ds)) = some (e,k) ∧ '\n' ∉ ('\\' :: c :: ds).take (k + 1) ∧
   (withReturns (c :: ds)).drop k = withReturns ((c :: ds).drop k) := by
 obtain ⟨w,r,hsplit,hw,hescape,hreturns⟩:=escape?_withReturns hc ds
 rw [hescape] at h
 have hle:=(escape?_length_le h).2
 refine ⟨hreturns.trans h,?_,?_⟩
 · rw [List.take_succ_cons,List.mem_cons,not_or,hsplit]
   exact ⟨by decide,take_line hw hle r⟩
 · rw [hsplit]
   exact drop_withReturns hw hle r

lemma stringBody_breaks (h:Body.Breaks cs (stringBody cs)) :
  ∃ n, stringBody (withReturns cs) = Except.error n := by
 fun_induction stringBody cs with
 | case1 => exact ⟨0,by rw [withReturns,List.flatMap_nil,stringBody]⟩
 | case2 cs =>
  rw [withReturns_newline,stringBody_plain _ (by decide) (by decide) (by decide),
   stringBody_newline]
  exact ⟨1,rfl⟩
 | case3 cs _ => exact absurd (h [] 1 rfl) (by simp)
 | case4 ds _ _ ih =>
  have hreturn:escape? ('\r' :: '\n' :: withReturns ds) = some ('\r',1):=rfl
  have hnewline:∀ ds', '\r' :: '\n' :: withReturns ds = '\n' :: ds' → False := by
   intro ds' heq
   exact absurd (List.cons.inj heq).1 (by decide)
  rw [withReturns_cons (by decide),withReturns_newline,stringBody_escaped hnewline hreturn,
   List.drop_one,List.tail_cons,stringBody_newline]
  exact ⟨2,rfl⟩
 | case5 ds _ hnone =>
  rw [escape?_eq_none hnone]
  exact ⟨1,stringBody_backslash⟩
 | case6 ds hds e k hescape _ _ ih =>
  cases ds with
  | nil => cases hescape
  | cons d ds =>
   have hd:d ≠ '\n':=fun hd => hds ds (by rw [hd])
   obtain ⟨hreturns,hline,hdrop⟩:=exists_escape hd hescape
   have hnewline:∀ ds', withReturns (d :: ds) = '\n' :: ds' → False := by
    intro ds' heq
    rw [withReturns_cons hd] at heq
    exact hd (List.cons.inj heq).1
   rw [withReturns_cons (by decide),stringBody_escaped hnewline hreturns,hdrop]
   exact Body.after_error (ih (h.of_after hline)) _ _
 | case7 c cs hnewline hquote hslash ih =>
  rw [withReturns_cons hnewline,stringBody_plain _ hnewline hquote hslash]
  refine Body.after_error (ih (h.of_after ?_)) _ _
  rw [List.take_succ_cons,List.take_zero,List.mem_singleton]
  exact Ne.symm hnewline

lemma charBody_breaks (h:Body.Breaks cs (charBody cs)) :
  ∃ n, charBody (withReturns cs) = Except.error n := by
 fun_induction charBody cs with
 | case1 => exact ⟨0,by rw [withReturns,List.flatMap_nil,charBody]⟩
 | case2 cs =>
  rw [withReturns_newline,charBody_plain _ (by decide) (by decide) (by decide),
   charBody_newline]
  exact ⟨1,rfl⟩
 | case3 cs _ => exact absurd (h none 1 rfl) (by simp)
 | case4 cs hnone =>
  rw [escape?_eq_none hnone]
  exact ⟨1,charBody_backslash⟩
 | case5 cs e k hescape _ _ ih =>
  cases cs with
  | nil => cases hescape
  | cons d ds =>
   by_cases hd : d = '\n'
   · subst hd
     have hreturn:escape? ('\r' :: '\n' :: withReturns ds) = some ('\r',1):=rfl
     rw [withReturns_cons (by decide),withReturns_newline,charBody_escaped hreturn,
      List.drop_one,List.tail_cons,charBody_newline]
     exact ⟨2,rfl⟩
   · obtain ⟨hreturns,hline,hdrop⟩:=exists_escape hd hescape
     rw [withReturns_cons (by decide),charBody_escaped hreturns,hdrop]
     exact Body.after_error (ih (h.of_after hline)) _ _
 | case6 c cs hnewline hquote hslash ih =>
  rw [withReturns_cons hnewline,charBody_plain _ hnewline hquote hslash]
  refine Body.after_error (ih (h.of_after ?_)) _ _
  rw [List.take_succ_cons,List.take_zero,List.mem_singleton]
  exact Ne.symm hnewline

/-! ### Trivia -/

/-- The second text is the first one with returns. Where a line ends here, its return may have been
passed already. -/
def Returned (cs ds:List Char) : Prop :=
 ds = withReturns cs ∨ ∃ r, cs = '\n' :: r ∧ ds = '\n' :: withReturns r

lemma withReturns_eq_cons {d:Char} (hd:d ≠ '\r')
  (h:withReturns cs = d :: ds) : d ≠ '\n' ∧ ∃ es, cs = d :: es := by
 cases cs with
 | nil => cases h
 | cons c cs =>
  by_cases hc : c = '\n'
  · rw [hc,withReturns_newline] at h
    exact absurd (List.cons.inj h).1.symm hd
  · rw [withReturns_cons hc] at h
    obtain ⟨rfl,-⟩:=List.cons.inj h
    exact ⟨hc,cs,rfl⟩

lemma lineLength_line (h : '\n' ∉ w) : lineLength w = w.length := by
 unfold lineLength
 rw [List.takeWhile_eq_self_iff.mpr]
 intro c hc
 rw [bne_iff_ne]
 rintro rfl
 exact h hc

lemma lineLength_returned (cs:List Char) :
  Returned (cs.drop (lineLength cs)) ((withReturns cs).drop (lineLength (withReturns cs))) := by
 obtain ⟨w,r,rfl,hw,hr⟩:=exists_line cs
 rw [withReturns_append,withReturns_line hw]
 cases r with
 | nil =>
  rw [withReturns,List.flatMap_nil,List.append_nil,lineLength_line hw,List.drop_length]
  exact Or.inl rfl
 | cons c r =>
  obtain rfl:=hr c rfl
  have hreturn : '\n' ∉ w ++ ['\r'] := by
   rw [List.mem_append,not_or]
   exact ⟨hw,by decide⟩
  have hsplit:w ++ '\r' :: '\n' :: withReturns r = w ++ ['\r'] ++ '\n' :: withReturns r:=
   List.append_cons w '\r' _
  rw [withReturns_newline,hsplit,lineLength_newline,lineLength_newline,lineLength_line hw,
   lineLength_line hreturn,List.drop_left,List.drop_left]
  exact Or.inr ⟨r,rfl,rfl⟩

lemma directiveLength_returned (h : '\r' ∉ cs) :
  Returned (cs.drop (directiveLength cs))
   ((withReturns cs).drop (directiveLength (withReturns cs))) := by
 fun_induction directiveLength cs with
 | case1 => exact Or.inl rfl
 | case2 cs ih =>
  rw [withReturns_cons (by decide),withReturns_newline,directiveLength]
  exact ih fun hmem => h (List.Mem.tail _ (.tail _ hmem))
 | case3 cs ih => exact absurd (List.Mem.tail _ (.head _)) h
 | case4 cs =>
  have hpass:directiveLength ('\r' :: '\n' :: withReturns cs) = 1:=rfl
  rw [withReturns_newline,hpass]
  exact Or.inr ⟨cs,rfl,rfl⟩
 | case5 c cs hnewline hreturn hc ih =>
  have hplain:directiveLength (c :: withReturns cs) = directiveLength (withReturns cs) + 1 := by
   refine directiveLength_plain hc (fun ds hslash heq => ?_) fun ds hslash heq => ?_
   · exact (withReturns_eq_cons (by decide) heq).1 rfl
   · -- the return belongs to a newline that the backslash would continue
     cases cs with
     | nil => cases heq
     | cons d cs =>
      by_cases hd : d = '\n'
      · exact hnewline cs hslash (by rw [hd])
      · rw [withReturns_cons hd] at heq
        exact h (List.Mem.tail _ ((List.cons.inj heq).1 ▸ .head _))
  rw [withReturns_cons hc,hplain]
  exact ih fun hmem => h (List.Mem.tail _ hmem)

lemma commentLength?_plain (h:∀ ds, c = '*' → cs = '/' :: ds → False) :
  commentLength? (c :: cs) = (commentLength? cs).map (· + 1) := by
 rw [commentLength?]
 exact h

lemma commentLength?_returned (cs:List Char) :
  (commentLength? cs = none → commentLength? (withReturns cs) = none) ∧
  ∀ n, commentLength? cs = some n → ∃ m, commentLength? (withReturns cs) = some m ∧
   (withReturns cs).take m = withReturns (cs.take n) ∧
   (withReturns cs).drop m = withReturns (cs.drop n) := by
 fun_induction commentLength? cs with
 | case1 => exact ⟨fun _ => rfl,fun n h => by cases h⟩
 | case2 cs =>
  refine ⟨fun h => (by cases h),fun n h => ?_⟩
  obtain rfl:=Option.some.inj h
  exact ⟨2,rfl,rfl,rfl⟩
 | case3 c cs hopen ih =>
  obtain ⟨hnone,hsome⟩:=ih
  by_cases hc : c = '\n'
  · subst hc
    have hlength:commentLength? ('\r' :: '\n' :: withReturns cs) =
      ((commentLength? (withReturns cs)).map (· + 1)).map (· + 1) := by
     rw [commentLength?_plain fun _ h => absurd h (by decide),
      commentLength?_plain fun _ h => absurd h (by decide)]
    rw [withReturns_newline,hlength]
    refine ⟨fun h => ?_,fun n h => ?_⟩
    · rw [hnone (Option.map_eq_none_iff.mp h)]
      rfl
    · obtain ⟨k,hk,rfl⟩:=Option.map_eq_some_iff.mp h
      obtain ⟨m,hm,htake,hdrop⟩:=hsome k hk
      refine ⟨m + 2,by rw [hm]; rfl,?_,hdrop⟩
      rw [List.take_succ_cons,List.take_succ_cons,List.take_succ_cons,htake]
      rfl
  · have hlength:commentLength? (c :: withReturns cs) =
      (commentLength? (withReturns cs)).map (· + 1) := by
     refine commentLength?_plain fun ds hstar heq => ?_
     obtain ⟨-,es,hes⟩:=withReturns_eq_cons (by decide) heq
     exact hopen es hstar hes
    rw [withReturns_cons hc,hlength]
    refine ⟨fun h => ?_,fun n h => ?_⟩
    · rw [hnone (Option.map_eq_none_iff.mp h)]
      rfl
    · obtain ⟨k,hk,rfl⟩:=Option.map_eq_some_iff.mp h
      obtain ⟨m,hm,htake,hdrop⟩:=hsome k hk
      refine ⟨m + 1,by rw [hm]; rfl,?_,hdrop⟩
      rw [List.take_succ_cons,List.take_succ_cons,withReturns_cons hc,htake]

lemma gap_returned_absent (h:gap fresh cs = .absent) :
  gap fresh (withReturns cs) = .absent := by
 have hview:=Gap.View.of_gap fresh cs
 rw [h] at hview
 cases hview with
 | nil => rfl
 | @token _ c cs solid mark line block =>
  have hc:c ≠ '\n' := by
   rintro rfl
   exact solid (by decide)
  rw [withReturns_cons hc]
  refine (Gap.View.token solid mark (fun ds hds => ?_) fun ds hds => ?_).gap_eq
  · obtain ⟨-,es,hes⟩:=withReturns_eq_cons (by decide) hds.2
    exact line es ⟨hds.1,hes⟩
  · obtain ⟨-,es,hes⟩:=withReturns_eq_cons (by decide) hds.2
    exact block es ⟨hds.1,hes⟩

lemma gap_returned_unclosed (h:gap fresh cs = .unclosed) :
  gap fresh (withReturns cs) = .unclosed := by
 have hview:=Gap.View.of_gap fresh cs
 rw [h] at hview
 cases hview with
 | unclosed unclosed => exact (Gap.View.unclosed ((commentLength?_returned _).1 unclosed)).gap_eq

lemma contains_newline_eq_false {cs:List Char} (h : '\n' ∉ cs) : cs.contains '\n' = false :=
 Bool.eq_false_iff.mpr fun hcontains => h (List.contains_iff_mem.mp hcontains)

lemma gap_returned_item {extra:Nat} (hclean : '\r' ∉ cs)
  (hcs:∀ r, cs ≠ '\n' :: r) (h:gap fresh cs = .item extra) :
  ∃ extra', gap fresh (withReturns cs) = .item extra' ∧
   Returned (cs.drop (extra + 1)) ((withReturns cs).drop (extra' + 1)) ∧
   (fresh || ((withReturns cs).take (extra' + 1)).contains '\n') =
    (fresh || (cs.take (extra + 1)).contains '\n') := by
 have hview:=Gap.View.of_gap fresh cs
 rw [h] at hview
 cases hview with
 | @blank _ c cs blank =>
  have hc:c ≠ '\n':=fun hc => hcs cs (by rw [hc])
  rw [withReturns_cons hc]
  exact ⟨0,(Gap.View.blank blank).gap_eq,Or.inl rfl,rfl⟩
 | @directive cs =>
  rw [withReturns_cons (by decide)]
  refine ⟨_,Gap.View.directive.gap_eq,directiveLength_returned fun hmem => ?_,?_⟩
  · exact hclean (List.Mem.tail _ hmem)
  · rw [Bool.true_or,Bool.true_or]
 | @line _ cs =>
  have hline:∀ ds, '\n' ∉ ('/' :: '/' :: ds).take (lineLength ds + 2) := by
   intro ds hmem
   rw [List.take_succ_cons,List.take_succ_cons] at hmem
   simp only [List.mem_cons,Char.reduceEq,false_or] at hmem
   exact (lineLength_spec ds).1 hmem
  rw [withReturns_cons (by decide),withReturns_cons (by decide)]
  refine ⟨_,Gap.View.line.gap_eq,lineLength_returned cs,?_⟩
  rw [contains_newline_eq_false (hline _),contains_newline_eq_false (hline _)]
 | @block _ cs n closed =>
  obtain ⟨m,hm,htake,hdrop⟩:=(commentLength?_returned cs).2 n closed
  rw [withReturns_cons (by decide),withReturns_cons (by decide)]
  refine ⟨_,(Gap.View.block hm).gap_eq,Or.inl hdrop,?_⟩
  rw [List.take_succ_cons,List.take_succ_cons,List.take_succ_cons,List.take_succ_cons,htake]
  refine congrArg (fresh || ·) (Bool.eq_iff_iff.mpr ?_)
  simp only [List.contains_iff_mem,List.mem_cons,mem_newline_withReturns]

/-! ### Lexemes -/

def TokenKind.unclosed : TokenKind → Cause
 | .char _ => .unterminatedChar
 | _ => .unterminatedString

inductive Lexeme.Reading.Returned (cs:List Char) : Reading → Reading → Prop
 | error {cause:Cause} {n m:Nat} :
   Returned cs (Except.error (cause,n)) (Except.error (cause,m))
 | ok {k:TokenKind} {n:Nat} (line : '\n' ∉ cs.take n)
   (same:(withReturns cs).take n = cs.take n)
   (rest:(withReturns cs).drop n = withReturns (cs.drop n)) :
   Returned cs (Except.ok (k,n)) (Except.ok (k,n))
 | broken {k:TokenKind} {n m:Nat} (lines : '\n' ∈ cs.take n) :
   Returned cs (Except.ok (k,n)) (Except.error (k.unclosed,m))

lemma Lexeme.Reading.Returned.of_line (hw : '\n' ∉ w)
  (hn:n ≤ w.length) (r:List Char) :
  Returned (w ++ r) (Except.ok (k,n)) (Except.ok (k,n)) := by
 refine .ok (take_line hw hn r) ?_ (drop_withReturns hw hn r)
 rw [withReturns_append,withReturns_line hw,List.take_append_of_le_length hn,
  List.take_append_of_le_length hn]

lemma Lexeme.Reading.Returned.of_take (hc:c ≠ '\n')
  (hline : '\n' ∉ cs.take n) (hn:n ≤ cs.length) :
  Returned (c :: cs) (Except.ok (k,n + 1)) (Except.ok (k,n + 1)) := by
 have hw : '\n' ∉ c :: cs.take n := by
  rw [List.mem_cons,not_or]
  exact ⟨Ne.symm hc,hline⟩
 have h:=of_line (k := k) (n := n + 1) hw
  (by rw [List.length_cons,List.length_take_of_le hn]) (cs.drop n)
 rwa [List.cons_append,List.take_append_drop] at h

lemma stringLiteral_returned (cs:List Char) :
  Reading.Returned ('"' :: cs) (stringLiteral cs) (stringLiteral (withReturns cs)) := by
 have hbreaks:=@stringBody_breaks cs
 unfold stringLiteral
 cases hbody : stringBody cs with
 | error n =>
  rw [hbody] at hbreaks
  obtain ⟨m,hm⟩:=hbreaks (Body.breaks_error cs n)
  rw [hm]
  exact .error
 | ok answer =>
  obtain ⟨v,n⟩:=answer
  by_cases hlines : '\n' ∈ cs.take n
  · rw [hbody] at hbreaks
    obtain ⟨m,hm⟩:=hbreaks (.of_ok hlines)
    rw [hm]
    exact .broken (k := .string _) (List.Mem.tail _ hlines)
  · have hle:=(stringBody_length hbody).2
    have hlocal:stringBody (withReturns cs) = Except.ok (v,n) := by
     have hlength:(cs.take n).length = n:=List.length_take_of_le hle
     rw [← List.take_append_drop n cs] at hbody
     rw [← List.take_append_drop n cs,withReturns_append,withReturns_line hlines,
      stringBody_local (by rw [hbody,hlength]),hlength]
    rw [hlocal]
    exact .of_take (by decide) hlines hle

lemma charBody_none (h:charBody cs = Except.ok (none,n)) : '\n' ∉ cs.take n := by
 unfold charBody at h
 split at h
 · cases h
 · rename_i c cs
   split at h
   · cases h
   · rename_i hnewline
     split at h
     · obtain ⟨-,rfl⟩:=Prod.mk.inj (Except.ok.inj h)
       rw [List.take_succ_cons,List.take_zero,List.mem_singleton]
       exact Ne.symm hnewline
     · split at h
       · split at h
         · cases h
         · obtain ⟨_,_,-,hsome,-⟩:=Body.after_eq_ok h
           cases hsome
       · obtain ⟨_,_,-,hsome,-⟩:=Body.after_eq_ok h
         cases hsome

lemma charConstant_returned (cs:List Char) :
  Reading.Returned ('\'' :: cs) (charConstant cs) (charConstant (withReturns cs)) := by
 have hbreaks:=@charBody_breaks cs
 have hlocal:∀ {v n}, charBody cs = Except.ok (v,n) → '\n' ∉ cs.take n →
   charBody (withReturns cs) = Except.ok (v,n) := by
  intro v n hbody hlines
  have hlength:(cs.take n).length = n:=List.length_take_of_le (charBody_length hbody).2
  rw [← List.take_append_drop n cs] at hbody
  rw [← List.take_append_drop n cs,withReturns_append,withReturns_line hlines,
   charBody_local (by rw [hbody,hlength]),hlength]
 unfold charConstant
 cases hbody : charBody cs with
 | error n =>
  rw [hbody] at hbreaks
  obtain ⟨m,hm⟩:=hbreaks (Body.breaks_error cs n)
  rw [hm]
  exact .error
 | ok answer =>
  obtain ⟨v,n⟩:=answer
  cases v with
  | none =>
   rw [hlocal hbody (charBody_none hbody)]
   exact .error
  | some v =>
   by_cases hlines : '\n' ∈ cs.take n
   · rw [hbody] at hbreaks
     obtain ⟨m,hm⟩:=hbreaks (.of_ok hlines)
     rw [hm]
     exact .broken (k := .char _) (List.Mem.tail _ hlines)
   · rw [hlocal hbody hlines]
     exact .of_take (by decide) hlines (charBody_length hbody).2

lemma lexeme_returned (hc:c ≠ '\n') (cs:List Char) :
  Reading.Returned (c :: cs) (lexeme c cs) (lexeme c (withReturns cs)) := by
 by_cases hdouble : c = '"'
 · subst hdouble
   rw [lexeme_double,lexeme_double]
   exact stringLiteral_returned cs
 by_cases hsingle : c = '\''
 · subst hsingle
   rw [lexeme_single,lexeme_single]
   exact charConstant_returned cs
 obtain ⟨w,r,rfl,hw,hr⟩:=exists_line cs
 rw [withReturns_append,withReturns_line hw,lexeme_apart (apart_of_endsLine hr) hdouble hsingle,
  lexeme_apart (apart_withReturns hr) hdouble hsingle]
 cases hlexeme : lexeme c w with
 | error answer => exact .error
 | ok answer =>
  obtain ⟨k,n⟩:=answer
  have hle:=(lexeme_covers c w k n hlexeme).2.1
  refine .of_line (w := c :: w) ?_ hle r
  rw [List.mem_cons,not_or]
  exact ⟨Ne.symm hc,hw⟩

end CCheck
