import CCheck.Proofs.Lexing.Lexemes

/-! # Lexemes stand by themselves

How a lexeme is read depends on its own characters only, as long as nothing that could
belong to it follows. -/

set_option autoImplicit false

namespace CCheck.Lexeme

variable {c d e:Char} {cs digits v whole:List Char} {k:TokenKind} {length n:Nat} {p:Char → Bool}
 {radix:Radix} {value:Float}

def Apart (r:List Char) : Prop := ∀ c ∈ r.head?, isBlank c = true

lemma apart_nil : Apart [] := by
 intro c hc
 cases hc

lemma apart_cons (cs:List Char) (h:isBlank c = true) : Apart (c :: cs) := by
 intro d hd
 obtain rfl:=Option.some.inj hd
 exact h

def NoBlank (p:Char → Bool) : Prop := ∀ c, isBlank c = true → p c = false

lemma isBlank_iff (c:Char) : isBlank c = true ↔
  c = ' ' ∨ c = '\t' ∨ c = '\r' ∨ c = '\n' ∨ c = '\x0b' ∨ c = '\x0c' := by
 simp only [isBlank,Bool.or_eq_true,beq_iff_eq,or_assoc]

lemma noBlank_isDigit : NoBlank Char.isDigit := by
 intro c hc
 rcases (isBlank_iff c).mp hc with rfl | rfl | rfl | rfl | rfl | rfl <;> decide

lemma noBlank_isWordChar : NoBlank isWordChar := by
 intro c hc
 rcases (isBlank_iff c).mp hc with rfl | rfl | rfl | rfl | rfl | rfl <;> decide

lemma noBlank_isHexDigit : NoBlank isHexDigit := by
 intro c hc
 rcases (isBlank_iff c).mp hc with rfl | rfl | rfl | rfl | rfl | rfl <;> decide

variable {w s r:List Char}

lemma takeWhile_local (hp:NoBlank p) (hr:Apart r)
  (h:((w ++ s).takeWhile p).length ≤ w.length) :
  (w ++ r).takeWhile p = (w ++ s).takeWhile p := by
 induction w with
 | nil =>
  have hs:s.takeWhile p = []:=List.eq_nil_of_length_eq_zero (Nat.le_zero.mp h)
  rw [List.nil_append,List.nil_append,hs]
  cases r with
  | nil => rfl
  | cons c cs => rw [List.takeWhile_cons,hp c (hr c rfl),if_neg Bool.false_ne_true]
 | cons c w ih =>
  simp only [List.cons_append,List.takeWhile_cons] at h ⊢
  split
  · rename_i hc
    rw [if_pos hc,List.length_cons,List.length_cons,Nat.add_le_add_iff_right] at h
    rw [ih h]
  · rfl

lemma takeWhile_drop_local (hp:NoBlank p) (hr:Apart r) {m:Nat}
  (hm:m ≤ w.length) (h:m + (((w ++ s).drop m).takeWhile p).length ≤ w.length) :
  ((w ++ r).drop m).takeWhile p = ((w ++ s).drop m).takeWhile p := by
 rw [List.drop_append_of_le_length hm] at h ⊢
 rw [List.drop_append_of_le_length hm]
 refine takeWhile_local hp hr ?_
 rw [List.length_drop]
 omega

/-! ### Numbers -/

lemma integer_eq_ok
  (h:integer cs digits radix length = Except.ok (k,n)) :
  n = length + (word (cs.drop length)).length := by
 unfold integer at h
 dsimp only at h
 split at h
 · cases h
 · split at h
   · exact (Prod.mk.inj (Except.ok.inj h)).2.symm
   · cases h

lemma floating_eq_ok
  (h:floating cs value length = Except.ok (k,n)) :
  n = length + (word (cs.drop length)).length := by
 unfold floating at h
 dsimp only at h
 split at h
 · cases h
 · exact (Prod.mk.inj (Except.ok.inj h)).2.symm

lemma integer_local (hr:Apart r)
  (h:integer (w ++ s) digits radix length = Except.ok (k,w.length)) :
  integer (w ++ r) digits radix length = Except.ok (k,w.length) := by
 have hlength:=integer_eq_ok h
 have hsuffix:word ((w ++ r).drop length) = word ((w ++ s).drop length):=
  takeWhile_drop_local noBlank_isWordChar hr (by omega) (Nat.le_of_eq hlength.symm)
 unfold integer at h ⊢
 dsimp only at h ⊢
 rw [hsuffix]
 split at h
 · cases h
 · split at h
   · rename_i hfits
     rw [if_pos hfits]
     exact h
   · cases h

lemma floating_local (hr:Apart r)
  (h:floating (w ++ s) value length = Except.ok (k,w.length)) :
  floating (w ++ r) value length = Except.ok (k,w.length) := by
 have hlength:=floating_eq_ok h
 have hsuffix:word ((w ++ r).drop length) = word ((w ++ s).drop length):=
  takeWhile_drop_local noBlank_isWordChar hr (by omega) (Nat.le_of_eq hlength.symm)
 unfold floating at h ⊢
 dsimp only at h ⊢
 rw [hsuffix]
 split at h
 · cases h
 · exact h

lemma plainInteger_eq_ok
  (h:plainInteger cs whole = Except.ok (k,n)) : whole.length ≤ n := by
 unfold plainInteger at h
 split at h
 · split at h
   · cases h
   · have:=integer_eq_ok h
     omega
 · have:=integer_eq_ok h
   omega

lemma plainInteger_local (hr:Apart r)
  (h:plainInteger (w ++ s) whole = Except.ok (k,w.length)) :
  plainInteger (w ++ r) whole = Except.ok (k,w.length) := by
 unfold plainInteger at h ⊢
 split at h
 · split at h
   · cases h
   · exact integer_local hr h
 · exact integer_local hr h

lemma fraction?_of_ne (cs:List Char) (hc:c ≠ '.') :
  fraction? (c :: cs) = none := by
 unfold fraction?
 split
 · simp_all
 · rfl

lemma ne_of_isBlank (hc:isBlank c = true) (hd:isBlank d = false) : c ≠ d := by
 rintro rfl
 rw [hc] at hd
 cases hd

lemma fraction?_local (hr:Apart r)
  (h:((fraction? (w ++ s)).map (·.length + 1)).getD 0 ≤ w.length) :
  fraction? (w ++ r) = fraction? (w ++ s) := by
 cases w with
 | nil =>
  have hs:fraction? s = none := by
   cases hs : fraction? s with
   | none => rfl
   | some ds => simp [hs] at h
  rw [List.nil_append,List.nil_append,hs]
  cases r with
  | nil => rfl
  | cons c cs => exact fraction?_of_ne cs (ne_of_isBlank (hr c rfl) (by decide))
 | cons c w =>
  by_cases hc : c = '.'
  · subst hc
    have hdigits:((w ++ s).takeWhile Char.isDigit).length ≤ w.length := by
     simpa [fraction?] using h
    exact congrArg some (takeWhile_local noBlank_isDigit hr hdigits)
  · rw [List.cons_append,List.cons_append,fraction?_of_ne _ hc,fraction?_of_ne _ hc]

lemma startsExponent_local (hr:Apart r) (h:startsExponent (w ++ s) = true → 0 < w.length) :
  startsExponent (w ++ r) = startsExponent (w ++ s) := by
 cases w with
 | nil =>
  have hs:startsExponent s = false:=
   Bool.eq_false_iff.mpr fun hs => absurd (h hs) (Nat.lt_irrefl 0)
  rw [List.nil_append,List.nil_append,hs]
  cases r with
  | nil => rfl
  | cons c cs =>
   have he:c ≠ 'e':=ne_of_isBlank (hr c rfl) (by decide)
   have hE:c ≠ 'E':=ne_of_isBlank (hr c rfl) (by decide)
   simp [startsExponent,he,hE]
 | cons c w => rfl

lemma exponent_of_ne (cs:List Char) (hplus:c ≠ '+') (hminus:c ≠ '-') :
  exponent (c :: cs) = ⟨false,(c :: cs).takeWhile Char.isDigit,
   ((c :: cs).takeWhile Char.isDigit).length⟩ := by
 unfold exponent
 split
 · simp_all
 · simp_all
 · rfl

lemma exponent_digits_length_le (cs:List Char) :
  (exponent cs).digits.length ≤ (exponent cs).length := by
 unfold exponent
 split
 · exact Nat.le_succ _
 · exact Nat.le_succ _
 · exact Nat.le_refl _

lemma exponent_local (hr:Apart r) (hdigits:(exponent (w ++ s)).digits ≠ [])
  (h:(exponent (w ++ s)).length ≤ w.length) : exponent (w ++ r) = exponent (w ++ s) := by
 cases w with
 | nil =>
  have hle:=exponent_digits_length_le ([] ++ s)
  have hnil:=List.eq_nil_of_length_eq_zero (Nat.le_zero.mp (Nat.le_trans hle h))
  contradiction
 | cons c w =>
  by_cases hplus : c = '+'
  · subst hplus
    have hlength:((w ++ s).takeWhile Char.isDigit).length ≤ w.length := by
     simpa [exponent] using h
    simp only [List.cons_append,exponent,takeWhile_local noBlank_isDigit hr hlength]
  · by_cases hminus : c = '-'
    · subst hminus
      have hlength:((w ++ s).takeWhile Char.isDigit).length ≤ w.length := by
       simpa [exponent] using h
      simp only [List.cons_append,exponent,takeWhile_local noBlank_isDigit hr hlength]
    · rw [List.cons_append,exponent_of_ne _ hplus hminus] at h
      rw [List.cons_append,List.cons_append,exponent_of_ne _ hplus hminus,
       exponent_of_ne _ hplus hminus]
      have hlocal:=takeWhile_local (w := c :: w) noBlank_isDigit hr h
      rw [List.cons_append,List.cons_append] at hlocal
      rw [hlocal]

lemma decimal_eq_ok
  (h:decimal cs = Except.ok (k,n)) : bodyLength cs ≤ n := by
 unfold decimal at h
 unfold bodyLength
 dsimp only at h
 split at h
 · split at h
   · cases h
   · have:=floating_eq_ok h
     omega
 · split at h
   · rename_i hfraction
     rw [hfraction] at h ⊢
     have:=floating_eq_ok h
     omega
   · rename_i hfraction
     have:=plainInteger_eq_ok h
     rw [hfraction]
     simpa using this

lemma bodyLength_local (hr:Apart r) (h:bodyLength (w ++ s) ≤ w.length) :
  (w ++ r).takeWhile Char.isDigit = (w ++ s).takeWhile Char.isDigit ∧
   fraction? ((w ++ r).drop ((w ++ s).takeWhile Char.isDigit).length) =
    fraction? ((w ++ s).drop ((w ++ s).takeWhile Char.isDigit).length) := by
 unfold bodyLength at h
 have hwhole:((w ++ s).takeWhile Char.isDigit).length ≤ w.length := by omega
 refine ⟨takeWhile_local noBlank_isDigit hr hwhole,?_⟩
 rw [List.drop_append_of_le_length hwhole] at h
 rw [List.drop_append_of_le_length hwhole,List.drop_append_of_le_length hwhole]
 refine fraction?_local hr ?_
 rw [List.length_drop]
 omega

lemma decimal_local (hr:Apart r)
  (h:decimal (w ++ s) = Except.ok (k,w.length)) :
  decimal (w ++ r) = Except.ok (k,w.length) := by
 have hbody:=decimal_eq_ok h
 obtain ⟨hwhole,hfraction⟩:=bodyLength_local hr hbody
 unfold bodyLength at hbody
 unfold decimal at h ⊢
 dsimp only at h ⊢
 rw [hwhole,hfraction]
 generalize (w ++ s).takeWhile Char.isDigit = whole at h hbody ⊢
 generalize fraction? ((w ++ s).drop whole.length) = fraction at h hbody ⊢
 generalize whole.length + (fraction.map (·.length + 1)).getD 0 = body at h hbody ⊢
 rw [List.drop_append_of_le_length hbody] at h ⊢
 split at h
 · rename_i hstarts
   split at h
   · cases h
   · rename_i hdigits
     have hlength:=floating_eq_ok h
     have hone:1 ≤ (w.drop body).length := by
      rw [List.length_drop]
      omega
     rw [List.drop_append_of_le_length hone,List.drop_drop] at h hdigits hlength
     have hexponent:exponent (w.drop (body + 1) ++ r) = exponent (w.drop (body + 1) ++ s) := by
      refine exponent_local hr (by simpa using hdigits) ?_
      rw [List.length_drop]
      omega
     have hstarts':startsExponent (w.drop body ++ r) = true := by
      rw [startsExponent_local hr fun _ => hone,hstarts]
     rw [if_pos hstarts',List.drop_append_of_le_length hone,List.drop_drop,hexponent,
      if_neg hdigits]
     exact floating_local hr h
 · rename_i hstarts
   have hstarts':startsExponent (w.drop body ++ r) = false := by
    rw [startsExponent_local hr fun htrue => absurd htrue hstarts]
    simpa using hstarts
   rw [if_neg (by simp [hstarts'])]
   split at h
   · exact floating_local hr h
   · exact plainInteger_local hr h

lemma hexadecimal_eq_ok
  (h:hexadecimal cs = Except.ok (k,n)) :
  2 + ((cs.drop 2).takeWhile isHexDigit).length ≤ n := by
 unfold hexadecimal at h
 dsimp only at h
 split at h
 · cases h
 · have:=integer_eq_ok h
   omega

lemma hexadecimal_local (hr:Apart r)
  (h:hexadecimal (w ++ s) = Except.ok (k,w.length)) :
  hexadecimal (w ++ r) = Except.ok (k,w.length) := by
 have hlength:=hexadecimal_eq_ok h
 have hdigits:((w ++ r).drop 2).takeWhile isHexDigit =
   ((w ++ s).drop 2).takeWhile isHexDigit :=
  takeWhile_drop_local noBlank_isHexDigit hr (by omega) hlength
 unfold hexadecimal at h ⊢
 dsimp only at h ⊢
 rw [hdigits]
 split at h
 · cases h
 · rename_i hsome
   rw [if_neg hsome]
   exact integer_local hr h

def isHexMarked : List Char → Bool
 | c :: d :: _ => c == '0' && (d == 'x' || d == 'X')
 | _ => false

lemma number_eq (cs:List Char) :
  number cs = if isHexMarked cs then hexadecimal cs else decimal cs := by
 unfold number
 split
 · simp [isHexMarked]
 · simp [isHexMarked]
 · rename_i hx hX
   rw [if_neg]
   intro hmarked
   match cs with
   | [] => cases hmarked
   | [c] => cases hmarked
   | c :: d :: cs =>
    simp only [isHexMarked,Bool.and_eq_true,Bool.or_eq_true,beq_iff_eq] at hmarked
    obtain ⟨rfl,rfl | rfl⟩:=hmarked
    · exact hx _ rfl
    · exact hX _ rfl

lemma number_local (hr:Apart r)
  (h:number (c :: w ++ s) = Except.ok (k,(c :: w).length)) :
  number (c :: w ++ r) = Except.ok (k,(c :: w).length) := by
 have hmarked:isHexMarked (c :: w ++ r) = isHexMarked (c :: w ++ s) := by
  cases w with
  | cons d w => rfl
  | nil =>
   have hs:isHexMarked (c :: s) = false := by
    refine Bool.eq_false_iff.mpr fun htrue => ?_
    rw [number_eq,List.cons_append,List.nil_append,if_pos htrue] at h
    have:=hexadecimal_eq_ok h
    simp only [List.length_singleton] at this
    omega
   rw [List.cons_append,List.cons_append,List.nil_append,List.nil_append,hs]
   cases r with
   | nil => rfl
   | cons d r =>
    have hx:d ≠ 'x':=ne_of_isBlank (hr d rfl) (by decide)
    have hX:d ≠ 'X':=ne_of_isBlank (hr d rfl) (by decide)
    simp [isHexMarked,hx,hX]
 rw [number_eq] at h
 rw [number_eq,hmarked]
 split at h
 · rename_i htrue
   rw [if_pos htrue]
   exact hexadecimal_local hr h
 · rename_i hfalse
   rw [if_neg hfalse]
   exact decimal_local hr h

/-! ### Quoted texts -/

lemma takeWhile_of_length_lt (h:((w ++ s).takeWhile p).length < w.length)
  (r:List Char) : (w ++ r).takeWhile p = (w ++ s).takeWhile p := by
 induction w with
 | nil => cases h
 | cons c w ih =>
  simp only [List.cons_append,List.takeWhile_cons] at h ⊢
  split
  · rename_i hc
    rw [if_pos hc,List.length_cons,List.length_cons,Nat.add_lt_add_iff_right] at h
    rw [ih h]
  · rfl

lemma takeWhile_take_of_length_lt
  (h:(((w ++ s).take n).takeWhile p).length < w.length) (r:List Char) :
  ((w ++ r).take n).takeWhile p = ((w ++ s).take n).takeWhile p := by
 rw [List.take_append] at h ⊢
 rw [List.take_append]
 by_cases hn : n ≤ w.length
 · rw [Nat.sub_eq_zero_of_le hn,List.take_zero,List.take_zero]
 · rw [List.take_of_length_le (by omega)] at h ⊢
   exact takeWhile_of_length_lt h _

lemma escape?_local (h:escape? (w ++ s) = some (e,n))
  (hn:n < w.length) (r:List Char) : escape? (w ++ r) = some (e,n) := by
 cases w with
 | nil => cases hn
 | cons c w =>
  unfold escape? at h ⊢
  dsimp only [List.cons_append] at h ⊢
  split at h
  case h_8 =>
   have hlength:=(Prod.mk.inj (Option.some.inj h)).2
   rw [List.length_cons] at hn
   rw [takeWhile_of_length_lt (s := s) (by omega) r]
   exact h
  case h_9 =>
   split at h
   · rename_i hoctal
     have hlength:=(Prod.mk.inj (Option.some.inj h)).2
     rw [List.length_cons] at hn
     rw [if_pos hoctal,takeWhile_take_of_length_lt (s := s) (by omega) r]
     exact h
   · rename_i hoctal
     rw [if_neg hoctal]
     exact h
  all_goals exact h

lemma stringBody_quote (cs:List Char) : stringBody ('"' :: cs) = Except.ok ([],1) := by
 unfold stringBody
 rfl

lemma stringBody_continued (ds:List Char) :
  stringBody ('\\' :: '\n' :: ds) = (stringBody ds).after 2 id := by
 rw [stringBody]
 rfl

lemma stringBody_escaped {ds:List Char}
  (hds:∀ ds', ds = '\n' :: ds' → False) (h:escape? ds = some (e,n)) :
  stringBody ('\\' :: ds) = (stringBody (ds.drop n)).after (n + 1) (e :: ·) := by
 rw [stringBody,if_neg (by decide),if_neg (by decide),if_pos rfl,h]
 exact hds

lemma stringBody_plain (cs:List Char) (hnewline:c ≠ '\n') (hquote:c ≠ '"')
  (hslash:c ≠ '\\') : stringBody (c :: cs) = (stringBody cs).after 1 (c :: ·) := by
 conv => lhs; unfold stringBody
 rw [if_neg hnewline,if_neg hquote,if_neg hslash]

lemma append_eq_cons (hw:0 < w.length) (h:w ++ s = c :: cs) :
  ∃ w', w = c :: w' ∧ w' ++ s = cs := by
 cases w with
 | nil => cases hw
 | cons d w =>
  obtain ⟨rfl,rfl⟩:=List.cons.inj h
  exact ⟨w,rfl,rfl⟩

lemma stringBody_local (h:stringBody (w ++ s) = Except.ok (v,w.length))
  (r:List Char) : stringBody (w ++ r) = Except.ok (v,w.length) := by
 have hpos:=(stringBody_length h).1
 generalize hcs : w ++ s = cs at h
 fun_induction stringBody cs generalizing w v with
 | case1 => cases h
 | case2 => cases h
 | case3 cs _ =>
  obtain ⟨rfl,hlength⟩:=Prod.mk.inj (Except.ok.inj h)
  obtain ⟨w,rfl,rfl⟩:=append_eq_cons hpos hcs
  obtain rfl : w = []:=List.eq_nil_of_length_eq_zero (by simpa using hlength.symm)
  exact stringBody_quote r
 | case4 ds _ _ ih =>
  obtain ⟨v,m,hbody,rfl,hm⟩:=Body.after_eq_ok h
  obtain ⟨w,rfl,hw⟩:=append_eq_cons hpos hcs
  rw [List.length_cons] at hm
  obtain ⟨w,rfl,rfl⟩:=append_eq_cons (by omega) hw
  rw [List.length_cons] at hm
  obtain rfl : m = w.length := by omega
  rw [List.cons_append,List.cons_append,stringBody_continued,
   ih (stringBody_length hbody).1 rfl hbody]
  rfl
 | case5 => cases h
 | case6 ds hds e k hescape _ _ ih =>
  obtain ⟨v,m,hbody,rfl,hm⟩:=Body.after_eq_ok h
  obtain ⟨w,rfl,rfl⟩:=append_eq_cons hpos hcs
  have hmpos:=(stringBody_length hbody).1
  have hk:=escape?_length_le hescape
  rw [List.length_cons] at hm
  have hkw:k ≤ w.length := by omega
  rw [List.drop_append_of_le_length hkw] at hbody ih
  have hdrop:(w.drop k).length = m := by
   rw [List.length_drop]
   omega
  rw [← hdrop] at hbody hm hmpos
  have hnewline:∀ ds, w ++ r = '\n' :: ds → False := by
   intro ds hds'
   obtain ⟨w,rfl,-⟩:=append_eq_cons (by omega) hds'
   exact hds (w ++ s) rfl
  rw [List.cons_append,stringBody_escaped hnewline (escape?_local hescape (by omega) r),
   List.drop_append_of_le_length hkw,ih hmpos rfl hbody,List.length_cons,hm]
  rfl
 | case7 c cs hnewline hquote hslash ih =>
  obtain ⟨v,m,hbody,rfl,hm⟩:=Body.after_eq_ok h
  obtain ⟨w,rfl,rfl⟩:=append_eq_cons hpos hcs
  rw [List.length_cons] at hm
  obtain rfl : m = w.length := by omega
  rw [List.cons_append,stringBody_plain _ hnewline hquote hslash,
   ih (stringBody_length hbody).1 rfl hbody]
  rfl

lemma charBody_local {v:Option Char} (h:charBody (w ++ s) = Except.ok (v,w.length))
  (r:List Char) : charBody (w ++ r) = Except.ok (v,w.length) := by
 have hpos:=(charBody_length h).1
 generalize hcs : w ++ s = cs at h
 fun_induction charBody cs generalizing w v with
 | case1 => cases h
 | case2 => cases h
 | case3 cs _ =>
  obtain ⟨rfl,hlength⟩:=Prod.mk.inj (Except.ok.inj h)
  obtain ⟨w,rfl,rfl⟩:=append_eq_cons hpos hcs
  obtain rfl : w = []:=List.eq_nil_of_length_eq_zero (by simpa using hlength.symm)
  rw [List.cons_append,charBody,if_neg (by decide),if_pos rfl]
  rfl
 | case4 => cases h
 | case5 cs e k hescape _ _ ih =>
  obtain ⟨v,m,hbody,rfl,hm⟩:=Body.after_eq_ok h
  obtain ⟨w,rfl,rfl⟩:=append_eq_cons hpos hcs
  have hmpos:=(charBody_length hbody).1
  rw [List.length_cons] at hm
  have hkw:k ≤ w.length := by omega
  rw [List.drop_append_of_le_length hkw] at hbody ih
  have hdrop:(w.drop k).length = m := by
   rw [List.length_drop]
   omega
  rw [← hdrop] at hbody hm hmpos
  rw [List.cons_append,charBody,if_neg (by decide),if_neg (by decide),if_pos rfl,
   escape?_local hescape (by omega) r]
  dsimp only
  rw [List.drop_append_of_le_length hkw,ih hmpos rfl hbody,List.length_cons,hm]
  rfl
 | case6 c cs hnewline hquote hslash ih =>
  obtain ⟨v,m,hbody,rfl,hm⟩:=Body.after_eq_ok h
  obtain ⟨w,rfl,rfl⟩:=append_eq_cons hpos hcs
  rw [List.length_cons] at hm
  obtain rfl : m = w.length := by omega
  rw [List.cons_append,charBody,if_neg hnewline,if_neg hquote,if_neg hslash,
   ih (charBody_length hbody).1 rfl hbody]
  rfl

lemma stringLiteral_local
  (h:stringLiteral (w ++ s) = Except.ok (k,w.length + 1)) (r:List Char) :
  stringLiteral (w ++ r) = Except.ok (k,w.length + 1) := by
 unfold stringLiteral at h ⊢
 split at h
 · rename_i v n hbody
   obtain ⟨rfl,hn⟩:=Prod.mk.inj (Except.ok.inj h)
   obtain rfl : n = w.length:=Nat.succ.inj hn
   rw [stringBody_local hbody r]
 · cases h

lemma charConstant_local
  (h:charConstant (w ++ s) = Except.ok (k,w.length + 1)) (r:List Char) :
  charConstant (w ++ r) = Except.ok (k,w.length + 1) := by
 unfold charConstant at h ⊢
 split at h
 · rename_i c n hbody
   obtain ⟨rfl,hn⟩:=Prod.mk.inj (Except.ok.inj h)
   obtain rfl : n = w.length:=Nat.succ.inj hn
   rw [charBody_local hbody r]
 · cases h
 · cases h

lemma text_noBlank (p:Punctuator) : p.text.toList.any isBlank = false := by
 cases p <;> rfl

lemma longest?_local (hr:Apart r) {p:Punctuator}
  (h:Punctuator.longest? cs = some p) :
  Punctuator.longest? (p.text.toList ++ r) = some p := by
 obtain ⟨hp,before,after,hall,hbefore⟩:=List.find?_eq_some_iff_append.mp h
 refine List.find?_eq_some_iff_append.mpr ⟨?_,before,after,hall,fun q hq => ?_⟩
 · exact List.isPrefixOf_iff_prefix.mpr (List.prefix_append _ _)
 have hcs:¬ q.text.toList <+: cs := by
  rw [← List.isPrefixOf_iff_prefix,← Ne,← Bool.eq_false_iff,← Bool.not_eq_true']
  exact hbefore q hq
 rw [Bool.not_eq_true',Bool.eq_false_iff,Ne,List.isPrefixOf_iff_prefix]
 intro hprefix
 by_cases hlength : q.text.toList.length ≤ p.text.toList.length
 · have hqp:=List.prefix_of_prefix_length_le hprefix (List.prefix_append _ r) hlength
   exact hcs (hqp.trans (List.isPrefixOf_iff_prefix.mp hp))
 · have hpq:p.text.toList <+: q.text.toList:=
    List.prefix_of_prefix_length_le (List.prefix_append _ r) hprefix (by omega)
   obtain ⟨t,ht⟩:=hpq
   rw [← ht,List.prefix_append_right_inj] at hprefix
   cases t with
   | nil =>
    rw [List.append_nil] at ht
    rw [ht] at hlength
    exact hlength (Nat.le_refl _)
   | cons c t =>
    obtain ⟨t',rfl⟩:= hprefix
    have hblank:=text_noBlank q
    rw [← ht,List.any_append,List.any_cons,hr c rfl,Bool.true_or,Bool.or_true] at hblank
    cases hblank

lemma punctuator_local (hr:Apart r)
  (h:punctuator c (w ++ s) = Except.ok (k,w.length + 1)) :
  punctuator c (w ++ r) = Except.ok (k,w.length + 1) := by
 unfold punctuator at h ⊢
 split at h
 · rename_i p hp
   obtain ⟨rfl,hlength⟩:=Prod.mk.inj (Except.ok.inj h)
   have hlengths:p.text.toList.length = (c :: w).length := by
    rw [String.length_toList,hlength,List.length_cons]
   have htext:p.text.toList = c :: w:=
    (List.prefix_of_prefix_length_le (longest?_begins hp) (List.prefix_append (c :: w) s)
     (Nat.le_of_eq hlengths)).eq_of_length hlengths
   have hlocal:=longest?_local hr hp
   rw [htext,List.cons_append] at hlocal
   rw [hlocal]
   exact h
 · cases h

lemma lexeme_point (cs:List Char) (hd:d.isDigit = true)
  (h:lexeme '.' (d :: cs) = Except.ok (k,n)) : 2 ≤ n := by
 have hstarts:startsNumber '.' (d :: cs) = true := by simp [startsNumber,hd]
 unfold lexeme at h
 rw [if_neg (by decide),if_pos hstarts,number_eq,if_neg (by simp [isHexMarked])] at h
 have hbody:=decimal_eq_ok h
 have hlength:bodyLength ('.' :: d :: cs) = (cs.takeWhile Char.isDigit).length + 2 := by
  unfold bodyLength
  rw [List.takeWhile_cons_of_neg (by decide)]
  simp [fraction?,hd]
 omega

lemma startsNumber_local (hr:Apart r)
  (h:lexeme c (w ++ s) = Except.ok (k,w.length + 1)) :
  startsNumber c (w ++ r) = startsNumber c (w ++ s) := by
 cases w with
 | cons d w => rfl
 | nil =>
  rw [List.nil_append,List.nil_append]
  by_cases hdigit : c.isDigit = true
  · simp only [startsNumber,hdigit,Bool.true_or]
  by_cases hpoint : c = '.'
  · subst hpoint
    have hs:startsNumber '.' s = false := by
     cases s with
     | nil => rfl
     | cons d s =>
      by_cases hd : d.isDigit = true
      · have:=lexeme_point s hd h
        simp at this
      · simpa [startsNumber] using hd
    rw [hs]
    cases r with
    | nil => rfl
    | cons d r => simpa [startsNumber] using noBlank_isDigit d (hr d rfl)
  · have hne:(c == '.') = false := by simpa using hpoint
    simp only [startsNumber,hne,Bool.false_and]

lemma lexeme_local (hr:Apart r)
  (h:lexeme c (w ++ s) = Except.ok (k,w.length + 1)) :
  lexeme c (w ++ r) = Except.ok (k,w.length + 1) := by
 have hnumber:=startsNumber_local hr h
 unfold lexeme at h ⊢
 rw [hnumber]
 split at h
 · rename_i hstarts
   have hlength:=(Prod.mk.inj (Except.ok.inj h)).2
   have hword:word (c :: w ++ r) = word (c :: w ++ s):=
    takeWhile_local noBlank_isWordChar hr (Nat.le_of_eq hlength)
   rw [List.cons_append,List.cons_append] at hword
   rw [if_pos hstarts,hword]
   exact h
 · rename_i hstarts
   rw [if_neg hstarts]
   split at h
   · rename_i hstarts
     rw [if_pos hstarts]
     exact number_local hr h
   · rename_i hstarts
     rw [if_neg hstarts]
     split at h
     · rename_i hquote
       rw [if_pos hquote]
       exact stringLiteral_local h r
     · rename_i hquote
       rw [if_neg hquote]
       split at h
       · rename_i hquote
         rw [if_pos hquote]
         exact charConstant_local h r
       · rename_i hquote
         rw [if_neg hquote]
         exact punctuator_local hr h

end CCheck.Lexeme
