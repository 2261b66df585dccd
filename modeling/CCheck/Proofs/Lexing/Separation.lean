import CCheck.Proofs.Lexing.Locality

/-! # What separates tokens

If a text is followed by a blank, or by nothing, then what is read at its head is the same as if the
text ended there, unless it is a quoted text. -/

set_option autoImplicit false

namespace CCheck.Lexeme

variable {w r:List Char}

lemma takeWhile_apart {p:Char → Bool} (hp:NoBlank p) (hr:Apart r) (w:List Char) :
  (w ++ r).takeWhile p = w.takeWhile p := by
 have hle:((w ++ []).takeWhile p).length ≤ w.length := by
  rw [List.append_nil]
  exact (List.takeWhile_prefix p).length_le
 have h:=takeWhile_local hp hr hle
 rwa [List.append_nil] at h

lemma word_drop_apart (hr:Apart r) {length:Nat} (h:length ≤ w.length) :
  word ((w ++ r).drop length) = word (w.drop length) := by
 rw [List.drop_append_of_le_length h]
 exact takeWhile_apart noBlank_isWordChar hr _

/-! ### Numbers -/

lemma flawed_append {length:Nat} (h:length ≤ w.length) (r:List Char) (flaw:NumberFlaw) :
  flawed (w ++ r) length flaw = flawed w length flaw := by
 unfold flawed
 rw [List.take_append_of_le_length h]

lemma integer_apart (hr:Apart r) (digits:List Char) (radix:Radix) {length:Nat}
  (h:length ≤ w.length) :
  integer (w ++ r) digits radix length = integer w digits radix length := by
 unfold integer
 dsimp only
 rw [word_drop_apart hr h,flawed_append (suffixed_length_le h),
  List.take_append_of_le_length (suffixed_length_le h)]

lemma floating_apart (hr:Apart r) (value:Float) {length:Nat} (h:length ≤ w.length) :
  floating (w ++ r) value length = floating w value length := by
 unfold floating
 dsimp only
 rw [word_drop_apart hr h,flawed_append (suffixed_length_le h)]

lemma plainInteger_apart (hr:Apart r) {whole:List Char} (h:whole.length ≤ w.length) :
  plainInteger (w ++ r) whole = plainInteger w whole := by
 unfold plainInteger
 split
 · split
   · exact flawed_append h r _
   · exact integer_apart hr _ _ h
 · exact integer_apart hr _ _ h

lemma fraction?_apart (hr:Apart r) (w:List Char) : fraction? (w ++ r) = fraction? w := by
 cases w with
 | nil =>
  cases r with
  | nil => rfl
  | cons c r => exact fraction?_of_ne r (ne_of_isBlank (hr c rfl) (by decide))
 | cons c w =>
  by_cases hc : c = '.'
  · subst hc
    exact congrArg some (takeWhile_apart noBlank_isDigit hr w)
  · rw [List.cons_append,fraction?_of_ne _ hc,fraction?_of_ne _ hc]

lemma startsExponent_apart (hr:Apart r) (w:List Char) :
  startsExponent (w ++ r) = startsExponent w := by
 have h:=startsExponent_local (w := w) (s := []) hr fun htrue => by
  cases w with
  | nil => cases htrue
  | cons c w => exact Nat.succ_pos _
 rwa [List.append_nil] at h

lemma exponent_apart (hr:Apart r) (w:List Char) : exponent (w ++ r) = exponent w := by
 have hdigits:=takeWhile_apart noBlank_isDigit hr
 cases w with
 | nil =>
  cases r with
  | nil => rfl
  | cons c r =>
   have hblank:=hr c rfl
   rw [List.nil_append,exponent_of_ne r (ne_of_isBlank hblank (by decide))
    (ne_of_isBlank hblank (by decide)),List.takeWhile_cons_of_neg]
   · rfl
   · rw [noBlank_isDigit c hblank]
     exact Bool.false_ne_true
 | cons c w =>
  by_cases hplus : c = '+'
  · subst hplus
    simp only [List.cons_append,exponent,hdigits]
  · by_cases hminus : c = '-'
    · subst hminus
      simp only [List.cons_append,exponent,hdigits]
    · have hcons:=hdigits (c :: w)
      rw [List.cons_append] at hcons
      rw [List.cons_append,exponent_of_ne _ hplus hminus,exponent_of_ne _ hplus hminus,hcons]

lemma decimal_apart (hr:Apart r) (w:List Char) : decimal (w ++ r) = decimal w := by
 have hbody:=bodyLength_le w
 have hwhole:(w.takeWhile Char.isDigit).length ≤ w.length:=
  (List.takeWhile_prefix _).length_le
 unfold bodyLength at hbody
 unfold decimal
 dsimp only
 rw [takeWhile_apart noBlank_isDigit hr,List.drop_append_of_le_length hwhole,
  fraction?_apart hr]
 generalize w.takeWhile Char.isDigit = whole at hbody hwhole ⊢
 generalize fraction? (w.drop whole.length) = fraction at hbody ⊢
 generalize whole.length + (fraction.map (·.length + 1)).getD 0 = body at hbody ⊢
 rw [List.drop_append_of_le_length hbody,startsExponent_apart hr]
 split
 · rename_i hstarts
   have hone:1 ≤ (w.drop body).length := by
    cases hdrop : w.drop body with
    | nil => simp [hdrop,startsExponent] at hstarts
    | cons c cs => simp
   have hexponent:=exponent_length_le ((w.drop body).drop 1)
   rw [List.drop_append_of_le_length hone,exponent_apart hr]
   rw [List.length_drop] at hone
   rw [List.length_drop,List.length_drop] at hexponent
   split
   · exact flawed_append (by omega) r _
   · exact floating_apart hr _ (by omega)
 · split
   · exact floating_apart hr _ hbody
   · exact plainInteger_apart hr hwhole

lemma hexadecimal_apart (hr:Apart r) (h:2 ≤ w.length) :
  hexadecimal (w ++ r) = hexadecimal w := by
 have hdigits:((w.drop 2).takeWhile isHexDigit).length ≤ (w.drop 2).length:=
  (List.takeWhile_prefix _).length_le
 rw [List.length_drop] at hdigits
 unfold hexadecimal
 dsimp only
 rw [List.drop_append_of_le_length h,takeWhile_apart noBlank_isHexDigit hr,
  flawed_append h,integer_apart hr _ _ (by omega)]

lemma isHexMarked_apart (hr:Apart r) (w:List Char) :
  isHexMarked (w ++ r) = isHexMarked w := by
 have hblank:∀ {c d:Char}, c ∈ r.head? → isBlank d = false → (c == d) = false:=fun hc hd =>
  beq_false_of_ne (ne_of_isBlank (hr _ hc) hd)
 cases w with
 | nil =>
  cases r with
  | nil => rfl
  | cons c r =>
   cases r with
   | nil => rfl
   | cons d r =>
    rw [List.nil_append,isHexMarked,hblank (d := '0') rfl (by decide),Bool.false_and]
    rfl
 | cons c w =>
  cases w with
  | cons d w => rfl
  | nil =>
   cases r with
   | nil => rfl
   | cons d r =>
    rw [List.cons_append,List.nil_append,isHexMarked,hblank (d := 'x') rfl (by decide),
     hblank (d := 'X') rfl (by decide),Bool.or_false,Bool.and_false]
    rfl

lemma length_of_isHexMarked (h:isHexMarked w = true) : 2 ≤ w.length := by
 cases w with
 | nil => cases h
 | cons c w =>
  cases w with
  | nil => cases h
  | cons d w => simp

lemma number_apart (hr:Apart r) (w:List Char) : number (w ++ r) = number w := by
 rw [number_eq,number_eq,isHexMarked_apart hr]
 split
 · rename_i hmarked
   exact hexadecimal_apart hr (length_of_isHexMarked hmarked)
 · exact decimal_apart hr w

lemma noBlank_isOctalDigit : NoBlank isOctalDigit := by
 intro c hc
 rcases (isBlank_iff c).mp hc with rfl | rfl | rfl | rfl | rfl | rfl <;> decide

lemma takeWhile_take_apart {p:Char → Bool} (hp:NoBlank p) (hr:Apart r) (n:Nat)
  (w:List Char) : ((w ++ r).take n).takeWhile p = (w.take n).takeWhile p := by
 rw [List.take_append]
 refine takeWhile_apart hp ?_ _
 intro c hc
 refine hr c ?_
 rw [List.head?_take] at hc
 split at hc
 · cases hc
 · exact hc

lemma escape?_apart (hr:Apart r) (c:Char) (w:List Char) :
  escape? (c :: (w ++ r)) = escape? (c :: w) := by
 unfold escape?
 dsimp only
 rw [takeWhile_apart noBlank_isHexDigit hr,takeWhile_take_apart noBlank_isOctalDigit hr]

lemma prefix_apart {p:List Char} (hp:p.any isBlank = false) (hr:Apart r) :
  p <+: w ++ r ↔ p <+: w := by
 refine ⟨fun h => ?_,fun h => h.trans (List.prefix_append w r)⟩
 by_cases hlength : p.length ≤ w.length
 · exact List.prefix_of_prefix_length_le h (List.prefix_append w r) hlength
 · -- a longer spelling would have the blank in it
   obtain ⟨t,rfl⟩ : w <+: p:=
    List.prefix_of_prefix_length_le (List.prefix_append w r) h (by omega)
   rw [List.prefix_append_right_inj] at h
   cases t with
   | nil => exact absurd (by simp) hlength
   | cons c t =>
    obtain ⟨t',rfl⟩:=h
    rw [List.any_append,List.any_cons,hr c rfl,Bool.true_or,Bool.or_true] at hp
    cases hp

lemma punctuator_apart (hr:Apart r) (c:Char) (w:List Char) :
  punctuator c (w ++ r) = punctuator c w := by
 have hlongest:Punctuator.longest? (c :: w ++ r) = Punctuator.longest? (c :: w) := by
  refine congrArg (List.find? · Punctuator.all) (funext fun p => ?_)
  rw [Bool.eq_iff_iff,List.isPrefixOf_iff_prefix,List.isPrefixOf_iff_prefix]
  exact prefix_apart (text_noBlank p) hr
 rw [List.cons_append] at hlongest
 unfold punctuator
 rw [hlongest]

lemma startsNumber_apart (hr:Apart r) (c:Char) (w:List Char) :
  startsNumber c (w ++ r) = startsNumber c w := by
 cases w with
 | cons d w => rfl
 | nil =>
  cases r with
  | nil => rfl
  | cons d r =>
   unfold startsNumber
   dsimp only [List.nil_append]
   rw [noBlank_isDigit d (hr d rfl)]

lemma lexeme_apart (hr:Apart r) {c:Char} (hdouble:c ≠ '"') (hsingle:c ≠ '\'')
  (w:List Char) : lexeme c (w ++ r) = lexeme c w := by
 have hword:word (c :: w ++ r) = word (c :: w):=takeWhile_apart noBlank_isWordChar hr _
 have hnumber:=number_apart hr (c :: w)
 rw [List.cons_append] at hword hnumber
 unfold lexeme
 rw [startsNumber_apart hr,hword,hnumber,if_neg hdouble,if_neg hsingle,if_neg hdouble,
  if_neg hsingle,punctuator_apart hr]

lemma lexeme_double (cs:List Char) : lexeme '"' cs = stringLiteral cs := by
 unfold lexeme
 rw [if_neg (by decide),if_neg (by simp [startsNumber]),if_pos rfl]

lemma lexeme_single (cs:List Char) : lexeme '\'' cs = charConstant cs := by
 unfold lexeme
 rw [if_neg (by decide),if_neg (by simp [startsNumber]),if_neg (by decide),if_pos rfl]

inductive Gap.View : Bool → List Char → Gap → Prop
 | nil {fresh:Bool} : View fresh [] .absent
 | blank {fresh:Bool} {c:Char} {cs:List Char} (blank:isBlank c = true) :
   View fresh (c :: cs) (.item 0)
 | directive {cs:List Char} : View true ('#' :: cs) (.item (directiveLength cs))
 | line {fresh:Bool} {cs:List Char} : View fresh ('/' :: '/' :: cs) (.item (lineLength cs + 1))
 | block {fresh:Bool} {cs:List Char} {n:Nat} (closed:commentLength? cs = some n) :
   View fresh ('/' :: '*' :: cs) (.item (n + 1))
 | unclosed {fresh:Bool} {cs:List Char} (unclosed:commentLength? cs = none) :
   View fresh ('/' :: '*' :: cs) .unclosed
 | token {fresh:Bool} {c:Char} {cs:List Char} (solid:isBlank c ≠ true)
   (mark:¬ (c = '#' ∧ fresh = true)) (line:∀ ds, ¬ (c = '/' ∧ cs = '/' :: ds))
   (block:∀ ds, ¬ (c = '/' ∧ cs = '*' :: ds)) : View fresh (c :: cs) .absent

lemma Gap.View.of_gap (fresh:Bool) (cs:List Char) : View fresh cs (gap fresh cs) := by
 cases cs with
 | nil => exact .nil
 | cons c cs =>
  unfold gap
  dsimp only
  split
  · rename_i hblank
    exact .blank hblank
  · rename_i hsolid
    split
    · rename_i hmark
      obtain ⟨rfl,rfl⟩:=hmark
      exact .directive
    · rename_i hmark
      split
      · rename_i hslash
        subst hslash
        split
        · exact .line
        · split
          · rename_i hclosed
            exact .block hclosed
          · rename_i hunclosed
            exact .unclosed hunclosed
        · rename_i hline hblock
          exact .token hsolid hmark (fun ds h => hline ds h.2) fun ds h => hblock ds h.2
      · rename_i hslash
        exact .token hsolid hmark (fun ds h => hslash h.1) fun ds h => hslash h.1

lemma Gap.View.gap_eq {fresh:Bool} {cs:List Char} {g:Gap} (h:View fresh cs g) :
  gap fresh cs = g := by
 cases h with
 | nil => rfl
 | blank blank => exact if_pos blank
 | directive => rfl
 | line => rfl
 | block closed => simp [gap,isBlank,closed]
 | unclosed unclosed => simp [gap,isBlank,unclosed]
 | token solid mark line block =>
  unfold gap
  dsimp only
  rw [if_neg solid,if_neg mark]
  split
  · rename_i hslash
    split
    · exact absurd ⟨hslash,rfl⟩ (line _)
    · exact absurd ⟨hslash,rfl⟩ (block _)
    · rfl
  · rfl

end CCheck.Lexeme
