import CCheck.Lexeme
import Mathlib.Tactic.Lemma

/-! # The extent of lexemes

A lexeme that is read covers at least one character and no more than there are, and is
neither the end of a text nor a fault. -/

set_option autoImplicit false

namespace CCheck.Lexeme

variable {c:Char} {cs:List Char} {length n:Nat}

def Reading.Covers (cs:List Char) (r:Reading) : Prop :=
 ∀ k n, r = Except.ok (k,n) → 0 < n ∧ n ≤ cs.length ∧ k ≠ .eof ∧ k ≠ .error

lemma Reading.covers_error (cs:List Char) (e:Cause × Nat) :
  Reading.Covers cs (Except.error e) := by
 intro k n h
 cases h

lemma word_length_le (cs:List Char) : (word cs).length ≤ cs.length :=
 (List.takeWhile_prefix _).length_le

/-! ### Numbers -/

lemma flawed_covers (cs:List Char) (length:Nat) (flaw:NumberFlaw) :
  Reading.Covers cs (flawed cs length flaw) :=
 Reading.covers_error cs _

lemma suffixed_length_le (h:length ≤ cs.length) :
  length + (word (cs.drop length)).length ≤ cs.length := by
 have hword:=word_length_le (cs.drop length)
 rw [List.length_drop] at hword
 omega

lemma integer_covers (digits:List Char) (radix:Radix)
  (hpos:0 < length) (hle:length ≤ cs.length) :
  Reading.Covers cs (integer cs digits radix length) := by
 have htotal:=suffixed_length_le hle
 intro k n h
 unfold integer at h
 dsimp only at h
 split at h
 · exact flawed_covers _ _ _ _ _ h
 · split at h
   · obtain ⟨rfl,rfl⟩:=Prod.mk.inj (Except.ok.inj h)
     exact ⟨by omega,htotal,by simp,by simp⟩
   · cases h

lemma floating_covers (value:Float)
  (hpos:0 < length) (hle:length ≤ cs.length) :
  Reading.Covers cs (floating cs value length) := by
 have htotal:=suffixed_length_le hle
 intro k n h
 unfold floating at h
 dsimp only at h
 split at h
 · exact flawed_covers _ _ _ _ _ h
 · obtain ⟨rfl,rfl⟩:=Prod.mk.inj (Except.ok.inj h)
   exact ⟨by omega,htotal,by simp,by simp⟩

lemma plainInteger_covers {whole:List Char} (hpos:0 < whole.length)
  (hle:whole.length ≤ cs.length) : Reading.Covers cs (plainInteger cs whole) := by
 unfold plainInteger
 split
 · split
   · exact flawed_covers _ _ _
   · exact integer_covers _ _ hpos hle
 · exact integer_covers _ _ hpos hle

lemma exponent_length_le (cs:List Char) : (exponent cs).length ≤ cs.length := by
 unfold exponent
 split
 all_goals
  simp only [List.length_cons,Nat.add_le_add_iff_right]
  exact (List.takeWhile_prefix _).length_le

lemma fraction?_length_le {ds:List Char} (h:fraction? cs = some ds) :
  ds.length + 1 ≤ cs.length := by
 unfold fraction? at h
 split at h
 · obtain rfl:=Option.some.inj h
   simp only [List.length_cons,Nat.add_le_add_iff_right]
   exact (List.takeWhile_prefix _).length_le
 · cases h

def bodyLength (cs:List Char) : Nat :=
 (cs.takeWhile Char.isDigit).length +
  ((fraction? (cs.drop (cs.takeWhile Char.isDigit).length)).map (·.length + 1)).getD 0

lemma bodyLength_le (cs:List Char) : bodyLength cs ≤ cs.length := by
 have hwhole:(cs.takeWhile Char.isDigit).length ≤ cs.length:=
  (List.takeWhile_prefix _).length_le
 unfold bodyLength
 cases hfraction : fraction? (cs.drop (cs.takeWhile Char.isDigit).length) with
 | none => simpa using hwhole
 | some ds =>
  have hds:=fraction?_length_le hfraction
  rw [List.length_drop] at hds
  simp only [Option.map_some,Option.getD_some]
  omega

lemma bodyLength_pos (h:startsNumber c cs = true) :
  0 < bodyLength (c :: cs) := by
 unfold startsNumber at h
 unfold bodyLength
 by_cases hdigit : c.isDigit = true
 · rw [List.takeWhile_cons_of_pos hdigit,List.length_cons]
   omega
 · have hdot:c = '.' := by simp_all
   rw [List.takeWhile_cons_of_neg hdigit,hdot]
   simp [fraction?]

lemma decimal_covers (h:startsNumber c cs = true) :
  Reading.Covers (c :: cs) (decimal (c :: cs)) := by
 have hle:=bodyLength_le (c :: cs)
 have hpos:=bodyLength_pos h
 unfold bodyLength at hle hpos
 unfold decimal
 dsimp only
 generalize hwhole : (c :: cs).takeWhile Char.isDigit = whole at hle hpos ⊢
 generalize fraction? ((c :: cs).drop whole.length) = fraction at hle hpos ⊢
 generalize hbody : whole.length + (fraction.map (·.length + 1)).getD 0 = body at hle hpos ⊢
 split
 · rename_i hexponent
   have hafter:0 < ((c :: cs).drop body).length := by
    cases hdrop : (c :: cs).drop body with
    | nil => simp [hdrop,startsExponent] at hexponent
    | cons d ds => simp
   have hlength:=exponent_length_le (((c :: cs).drop body).drop 1)
   simp only [List.length_drop] at hlength hafter
   split
   · exact flawed_covers _ _ _
   · exact floating_covers _ (by omega) (by omega)
 · cases fraction with
   | none =>
    exact plainInteger_covers (by simpa [← hbody] using hpos) (by simpa [← hbody] using hle)
   | some ds => exact floating_covers _ hpos hle

lemma hexadecimal_covers (h:2 ≤ cs.length) :
  Reading.Covers cs (hexadecimal cs) := by
 have hdigits:((cs.drop 2).takeWhile isHexDigit).length ≤ (cs.drop 2).length:=
  (List.takeWhile_prefix _).length_le
 rw [List.length_drop] at hdigits
 unfold hexadecimal
 dsimp only
 split
 · exact flawed_covers _ _ _
 · exact integer_covers _ _ (by omega) (by omega)

lemma number_covers (h:startsNumber c cs = true) :
  Reading.Covers (c :: cs) (number (c :: cs)) := by
 unfold number
 split
 · exact hexadecimal_covers (by simp_all)
 · exact hexadecimal_covers (by simp_all)
 · exact decimal_covers h

lemma escape?_length_le {e:Char} (h:escape? cs = some (e,n)) :
  0 < n ∧ n ≤ cs.length := by
 cases cs with
 | nil => cases h
 | cons c cs =>
  have hhex:(cs.takeWhile isHexDigit).length ≤ cs.length:=
   (List.takeWhile_prefix _).length_le
  have hoctal:((cs.take 2).takeWhile isOctalDigit).length ≤ cs.length:=
   Nat.le_trans (List.takeWhile_prefix _).length_le (List.length_take_le' 2 cs)
  unfold escape? at h
  dsimp only at h
  split at h
  case h_8 =>
   obtain ⟨-,rfl⟩:=Prod.mk.inj (Option.some.inj h)
   exact ⟨by omega,by simpa using hhex⟩
  case h_9 =>
   split at h
   · obtain ⟨-,rfl⟩:=Prod.mk.inj (Option.some.inj h)
     exact ⟨by omega,by simpa using hoctal⟩
   · obtain ⟨-,rfl⟩:=Prod.mk.inj (Option.some.inj h)
     exact ⟨by omega,by simp⟩
  all_goals
   obtain ⟨-,rfl⟩:=Prod.mk.inj (Option.some.inj h)
   exact ⟨by omega,by simp⟩

lemma Body.after_eq_ok {α:Type} {m:Nat} {f:α → α} {b:Body α} {a:α}
  (h:b.after m f = Except.ok (a,n)) :
  ∃ a' n', b = Except.ok (a',n') ∧ a = f a' ∧ n = n' + m := by
 unfold Body.after at h
 split at h
 · obtain ⟨rfl,rfl⟩:=Prod.mk.inj (Except.ok.inj h)
   exact ⟨_,_,rfl,rfl,rfl⟩
 · cases h

lemma stringBody_length {v:List Char} (h:stringBody cs = Except.ok (v,n)) :
  0 < n ∧ n ≤ cs.length := by
 fun_induction stringBody cs generalizing v n with
 | case1 => cases h
 | case2 => cases h
 | case3 =>
  obtain ⟨-,rfl⟩:=Prod.mk.inj (Except.ok.inj h)
  simp
 | case4 ds _ _ ih =>
  obtain ⟨_,m,hbody,-,rfl⟩:=Body.after_eq_ok h
  have:=ih hbody
  simp only [List.length_cons]
  omega
 | case5 => cases h
 | case6 ds _ e k hescape _ _ ih =>
  obtain ⟨_,m,hbody,-,rfl⟩:=Body.after_eq_ok h
  have:=ih hbody
  have:=escape?_length_le hescape
  simp only [List.length_cons,List.length_drop] at *
  omega
 | case7 _ _ _ _ _ ih =>
  obtain ⟨_,m,hbody,-,rfl⟩:=Body.after_eq_ok h
  have:=ih hbody
  simp only [List.length_cons]
  omega

lemma charBody_length {v:Option Char} (h:charBody cs = Except.ok (v,n)) :
  0 < n ∧ n ≤ cs.length := by
 fun_induction charBody cs generalizing v n with
 | case1 => cases h
 | case2 => cases h
 | case3 =>
  obtain ⟨-,rfl⟩:=Prod.mk.inj (Except.ok.inj h)
  simp
 | case4 => cases h
 | case5 cs e k hescape _ _ ih =>
  obtain ⟨_,m,hbody,-,rfl⟩:=Body.after_eq_ok h
  have:=ih hbody
  have:=escape?_length_le hescape
  simp only [List.length_cons,List.length_drop] at *
  omega
 | case6 _ _ _ _ _ ih =>
  obtain ⟨_,m,hbody,-,rfl⟩:=Body.after_eq_ok h
  have:=ih hbody
  simp only [List.length_cons]
  omega

lemma stringLiteral_covers (c:Char) (cs:List Char) :
  Reading.Covers (c :: cs) (stringLiteral cs) := by
 intro k n h
 unfold stringLiteral at h
 split at h
 · rename_i v m hbody
   obtain ⟨rfl,rfl⟩:=Prod.mk.inj (Except.ok.inj h)
   have:=(stringBody_length hbody).2
   exact ⟨by omega,by simpa using this,by simp,by simp⟩
 · cases h

lemma charConstant_covers (c:Char) (cs:List Char) :
  Reading.Covers (c :: cs) (charConstant cs) := by
 intro k n h
 unfold charConstant at h
 split at h
 · rename_i v m hbody
   obtain ⟨rfl,rfl⟩:=Prod.mk.inj (Except.ok.inj h)
   have:=(charBody_length hbody).2
   exact ⟨by omega,by simpa using this,by simp,by simp⟩
 · cases h
 · cases h

lemma text_length_pos (p:Punctuator) : 0 < p.text.length := by
 cases p <;> decide

lemma longest?_begins {p:Punctuator} (h:Punctuator.longest? cs = some p) :
  p.text.toList <+: cs := by
 have hfits:=List.find?_some h
 exact List.isPrefixOf_iff_prefix.mp hfits

lemma punctuator_covers (c:Char) (cs:List Char) :
  Reading.Covers (c :: cs) (punctuator c cs) := by
 intro k n h
 unfold punctuator at h
 split at h
 · rename_i p hp
   obtain ⟨rfl,rfl⟩:=Prod.mk.inj (Except.ok.inj h)
   have hle:=(longest?_begins hp).length_le
   rw [String.length_toList] at hle
   exact ⟨text_length_pos p,hle,by simp,by simp⟩
 · cases h

lemma word_length_pos (cs:List Char) (h:startsWord c = true) :
  0 < (word (c :: cs)).length := by
 have hc:isWordChar c = true := by
  simp only [startsWord,isWordChar,Char.isAlphanum,Bool.or_eq_true] at h ⊢
  exact h.imp_left .inl
 rw [word,List.takeWhile_cons_of_pos hc,List.length_cons]
 omega

lemma wordKind_ne (s:String) : wordKind s ≠ .eof ∧ wordKind s ≠ .error := by
 unfold wordKind
 split <;> simp

lemma lexeme_covers (c:Char) (cs:List Char) :
  Reading.Covers (c :: cs) (lexeme c cs) := by
 unfold lexeme
 split
 · rename_i hword
   intro k n h
   obtain ⟨rfl,rfl⟩:=Prod.mk.inj (Except.ok.inj h)
   exact ⟨word_length_pos cs hword,word_length_le _,wordKind_ne _⟩
 · split
   · rename_i hnumber
     exact number_covers hnumber
   · split
     · exact stringLiteral_covers c cs
     · split
       · exact charConstant_covers c cs
       · exact punctuator_covers c cs

end CCheck.Lexeme
