import CCheck.Proofs.Lexing.Lines
import Mathlib.Data.Nat.Digits.Defs

/-! # Integer constants

Among the words that start with a digit, the integer constants are those with a numeral of their
radix and a known suffix. Each is read as the number that it denotes, or refused as too large. -/

set_option autoImplicit false

namespace CCheck

variable {k:TokenKind} {p:Char → Bool} {r:Bool × Nat}

local instance (priority := 2000) decidableBAllChars {α:Type} {p:α → Prop} [DecidablePred p]
  (l:List α) : Decidable (∀ c ∈ l, p c) := List.decidableBAll p l

namespace Lexeme

/-! ### Numerals -/

def digitChars : List Char :=
 ['0','1','2','3','4','5','6','7','8','9','a','b','c','d','e','f']

/-- What a digit counts, in either case. A character that is no digit counts sixteen. -/
def digitWeight (c:Char) : Nat := digitChars.idxOf c.toLower

def IsNumeral (base:Nat) (ds:List Char) : Prop := ds ≠ [] ∧ ∀ d ∈ ds, digitWeight d < base
deriving Decidable

/-- The number that a numeral denotes, the first digit counting most. -/
def numeral (base:Nat) (ds:List Char) : Nat := Nat.ofDigits base (ds.reverse.map digitWeight)

structure Weighed (c:Char) : Prop where
 decimal : c.isDigit = true ↔ digitWeight c < 10
 octal : isOctalDigit c = true ↔ digitWeight c < 8
 hex : isHexDigit c = true ↔ digitWeight c < 16
 value : isHexDigit c = true → Decimal.digitValue c = digitWeight c

lemma digitWeight_ascii : ∀ n < 128, ((Char.ofNat n).isDigit = true ↔
  digitWeight (Char.ofNat n) < 10) ∧ (isOctalDigit (Char.ofNat n) = true ↔
  digitWeight (Char.ofNat n) < 8) ∧ (isHexDigit (Char.ofNat n) = true ↔
  digitWeight (Char.ofNat n) < 16) ∧ (isHexDigit (Char.ofNat n) = true →
  Decimal.digitValue (Char.ofNat n) = digitWeight (Char.ofNat n)) := by
 decide +kernel

lemma digitWeight_of_le {c:Char} (h:128 ≤ c.toNat) : digitWeight c = 16 := by
 have hlower:c.toLower = c := by
  unfold Char.toLower
  rw [dif_neg]
  simp only [ge_iff_le,UInt32.le_iff_toNat_le,Char.toNat_val,not_and]
  intro _ hle
  exact absurd (Nat.le_trans h hle) (by decide)
 have hascii:∀ d ∈ digitChars, d.toNat < 128 := by decide
 rw [digitWeight,hlower]
 refine List.idxOf_eq_length fun hmem => ?_
 exact absurd (hascii c hmem) (Nat.not_lt.mpr h)

lemma isHexDigit_of_le {c:Char} (h:128 ≤ c.toNat) :
  c.isDigit = false ∧ isOctalDigit c = false ∧ isHexDigit c = false := by
 simp [Char.isDigit,isOctalDigit,isHexDigit,Char.le_def,UInt32.le_iff_toNat_le]
 omega

lemma weighed (c:Char) : Weighed c := by
 by_cases h : c.toNat < 128
 · obtain ⟨hdecimal,hoctal,hhex,hvalue⟩:=digitWeight_ascii c.toNat h
   rw [Char.ofNat_toNat] at hdecimal hoctal hhex hvalue
   exact ⟨hdecimal,hoctal,hhex,hvalue⟩
 · obtain ⟨hdecimal,hoctal,hhex⟩:=isHexDigit_of_le (Nat.not_lt.mp h)
   have hweight:=digitWeight_of_le (Nat.not_lt.mp h)
   refine ⟨?_,?_,?_,?_⟩ <;> simp [*]

lemma of_isDigit {p:Char → Prop} {c:Char}
  (h:∀ n < 128, (Char.ofNat n).isDigit = true → p (Char.ofNat n)) (hc:c.isDigit = true) : p c := by
 have hascii:c.toNat < 128:=Nat.lt_of_not_le fun hle => by
  rw [(isHexDigit_of_le hle).1] at hc
  cases hc
 have hp:=h c.toNat hascii
 rw [Char.ofNat_toNat] at hp
 exact hp hc

lemma ofDigits_eq_numeral {base:Nat} {ds:List Char} (hbase:base ≤ 16)
  (h:∀ d ∈ ds, digitWeight d < base) : Decimal.ofDigits base ds = numeral base ds := by
 have hvalue:∀ d ∈ ds, Decimal.digitValue d = digitWeight d:=
  fun d hd => (weighed d).value ((weighed d).hex.mpr (Nat.lt_of_lt_of_le (h d hd) hbase))
 rw [numeral,Nat.ofDigits_eq_foldr,List.foldr_map,List.foldr_reverse,Decimal.ofDigits]
 refine List.foldl_ext _ _ _ fun n d hd => ?_
 rw [hvalue d hd,Nat.add_comm,Nat.mul_comm]
 rfl

def intSuffixes : List (List Char × Bool × Nat) :=
 [([],false),(['u'],true),(['U'],true)].flatMap fun (u,isUnsigned) =>
  [([],0),(['l'],1),(['L'],1),(['l','l'],2),(['L','L'],2)].flatMap fun (l,longs) =>
   [(u ++ l,isUnsigned,longs),(l ++ u,isUnsigned,longs)]

lemma intSuffixFrom_short {u:Bool} {l:Nat} {cs:List Char}
  (h:intSuffixFrom u l cs = some r) :
  cs.length ≤ (if u then 0 else 1) + (if l = 0 then 2 else 0) ∧
   ∀ c ∈ cs, c ∈ ['u','U','l','L'] := by
 fun_induction intSuffixFrom u l cs <;> grind

lemma mem_intSuffixes_of_letters : ∀ a ∈ ['u','U','l','L'], ∀ b ∈ ['u','U','l','L'],
  ∀ c ∈ ['u','U','l','L'], ∀ cs ∈ [[],[a],[a,b],[a,b,c]], ∀ r ∈ intSuffix? cs,
   (cs,r) ∈ intSuffixes := by
 decide +kernel

lemma mem_intSuffixes_iff {cs:List Char} :
  (cs,r) ∈ intSuffixes ↔ intSuffix? cs = some r := by
 constructor
 · have hall:∀ p ∈ intSuffixes, intSuffix? p.1 = some p.2 := by decide +kernel
   exact hall (cs,r)
 · intro h
   obtain ⟨hlength,hletters⟩:=intSuffixFrom_short h
   have hmem:=mem_intSuffixes_of_letters
   rcases cs with _ | ⟨a,_ | ⟨b,_ | ⟨c,_ | ⟨d,cs⟩⟩⟩⟩
   · exact hmem 'u' (by decide) 'u' (by decide) 'u' (by decide) _ (by simp) r h
   · exact hmem a (hletters a (by simp)) 'u' (by decide) 'u' (by decide) _ (by simp) r h
   · exact hmem a (hletters a (by simp)) b (hletters b (by simp)) 'u' (by decide) _ (by simp) r h
   · exact hmem a (hletters a (by simp)) b (hletters b (by simp)) c (hletters c (by simp)) _
      (by simp) r h
   · simp only [List.length_cons,Bool.false_eq_true,if_false,if_true] at hlength
     omega

lemma suffix_letters : ∀ p ∈ intSuffixes, ∀ c ∈ p.1, isWordChar c = true ∧
  isHexDigit c = false ∧ c.isDigit = false ∧ c ∉ ['.','e','E','x','X'] := by
 decide +kernel

/-! ### Constants -/

/-- The text that stands for digits of a radix: the digits behind the mark of the radix. -/
inductive Marked : Radix → List Char → List Char → Prop
 | zero : Marked .decimal ['0'] ['0']
 | decimal {ds} (hds:IsNumeral 10 ds) (hlead:ds.head? ≠ some '0') : Marked .decimal ds ds
 | octal {ds} (hds:IsNumeral 8 ds) : Marked .octal ds ('0' :: ds)
 | hex {mark ds} (hmark:mark = 'x' ∨ mark = 'X') (hds:IsNumeral 16 ds) :
   Marked .hex ds ('0' :: mark :: ds)

/-- A text that is an integer constant with these digits, sign and length. -/
def IsInteger (radix:Radix) (digits:List Char) (isUnsigned:Bool) (longs:Nat) (w:List Char) : Prop :=
 ∃ body suffix, w = body ++ suffix ∧ Marked radix digits body ∧
  (suffix,isUnsigned,longs) ∈ intSuffixes

variable {body suffix digits:List Char} {radix:Radix}

lemma Marked.numeral (h:Marked radix digits body) : IsNumeral radix.base digits := by
 cases h with
 | zero => exact ⟨by decide,by decide⟩
 | decimal hds _ => exact hds
 | octal hds => exact hds
 | hex _ hds => exact hds

lemma Marked.ofDigits_eq (h:Marked radix digits body) :
  Decimal.ofDigits radix.base digits = Lexeme.numeral radix.base digits :=
 ofDigits_eq_numeral (by cases radix <;> decide) h.numeral.2

lemma takeWhile_append_stop {ds:List Char} (hds:∀ d ∈ ds, p d = true)
  (hsuffix:∀ c ∈ suffix.head?, p c = false) : (ds ++ suffix).takeWhile p = ds := by
 rw [List.takeWhile_append_of_pos hds]
 cases suffix with
 | nil => simp
 | cons c cs => rw [List.takeWhile_cons_of_neg (by simp [hsuffix c rfl]),List.append_nil]

lemma head?_dropWhile (cs:List Char) : ∀ c ∈ (cs.dropWhile p).head?, p c = false := by
 intro c hc
 have hstop:=List.head?_dropWhile_not p cs
 rw [hc] at hstop
 exact hstop

lemma word_drop_body (hsuffix:∀ c ∈ suffix, isWordChar c = true) :
  word ((body ++ suffix).drop body.length) = suffix := by
 rw [List.drop_left,word,← List.append_nil suffix,takeWhile_append_stop hsuffix (by simp),
  List.append_nil]

lemma integer_eq_ok_iff (body:List Char) (hsuffix:∀ c ∈ suffix, isWordChar c = true)
  {n:IntLiteral} {m:Nat} :
  integer (body ++ suffix) digits radix body.length = Except.ok (.int n,m) ↔
   (m = (body ++ suffix).length ∧ intSuffix? suffix = some (n.isUnsigned,n.longs)) ∧
    n.radix = radix ∧ n.value.toNat = Decimal.ofDigits radix.base digits := by
 unfold integer
 rw [word_drop_body hsuffix,List.length_append]
 dsimp only
 generalize intSuffix? suffix = read
 cases read with
 | none => simp [flawed]
 | some r =>
  obtain ⟨isUnsigned,longs⟩:=r
  dsimp only
  by_cases hfits : Decimal.ofDigits radix.base digits < UInt64.size
  · rw [if_pos hfits]
    constructor
    · intro h
      obtain ⟨hn,rfl⟩:=Prod.mk.inj (Except.ok.inj h)
      obtain rfl:=TokenKind.int.inj hn
      exact ⟨⟨rfl,rfl⟩,rfl,UInt64.toNat_ofNat_of_lt' hfits⟩
    · rintro ⟨⟨rfl,hsign⟩,rfl,hvalue⟩
      obtain ⟨rfl,rfl⟩:=Prod.mk.inj (Option.some.inj hsign)
      rw [← hvalue,UInt64.ofNat_toNat]
  · rw [if_neg hfits]
    constructor
    · nofun
    · rintro ⟨-,-,hvalue⟩
      exact absurd (hvalue ▸ n.value.toNat_lt_size) hfits

lemma integer_tooLarge (body:List Char) (hsuffix:∀ c ∈ suffix, isWordChar c = true)
  (hread:intSuffix? suffix = some r) (hlarge:UInt64.size ≤ Decimal.ofDigits radix.base digits) :
  integer (body ++ suffix) digits radix body.length =
   Except.error (.integerTooLarge (String.ofList (body ++ suffix)),(body ++ suffix).length) := by
 unfold integer
 rw [word_drop_body hsuffix]
 dsimp only
 rw [hread]
 dsimp only
 rw [if_neg (Nat.not_lt.mpr hlarge),← List.length_append,List.take_length]

/-! ### Which words are constants -/

lemma hexadecimal_append (mark:Char) {ds:List Char} (hds:∀ d ∈ ds, isHexDigit d = true)
  (hsuffix:∀ c ∈ suffix.head?, isHexDigit c = false) :
  hexadecimal ('0' :: mark :: ds ++ suffix) =
   if ds.isEmpty then flawed ('0' :: mark :: ds ++ suffix) 2 .noHexDigits
   else integer ('0' :: mark :: ds ++ suffix) ds .hex ('0' :: mark :: ds).length := by
 have hdigits:(('0' :: mark :: ds ++ suffix).drop 2).takeWhile isHexDigit = ds:=
  takeWhile_append_stop hds hsuffix
 unfold hexadecimal
 rw [hdigits]
 dsimp only
 rw [List.length_cons,List.length_cons,Nat.add_comm 2]

lemma fraction?_suffix (hsuffix : '.' ∉ suffix) : fraction? suffix = none := by
 cases suffix with
 | nil => rfl
 | cons c cs => exact fraction?_of_ne cs fun h => hsuffix (h ▸ List.mem_cons_self)

lemma decimal_append {ds:List Char} (hds:∀ d ∈ ds, d.isDigit = true)
  (hsuffix:∀ c ∈ suffix.head?, c.isDigit = false) (hpoint : '.' ∉ suffix) :
  if startsExponent suffix then ∀ n m, decimal (ds ++ suffix) ≠ Except.ok (.int n,m)
  else decimal (ds ++ suffix) = plainInteger (ds ++ suffix) ds := by
 unfold decimal
 rw [takeWhile_append_stop hds hsuffix]
 dsimp only
 rw [List.drop_left,fraction?_suffix hpoint]
 simp only [Option.map_none,Option.getD_none,Nat.add_zero,List.drop_left]
 split
 · intro n m
   split
   · simp [flawed]
   · unfold floating
     dsimp only
     split <;> simp [flawed]
 · rfl

lemma find?_eq_none_iff {ds:List Char} (hds:∀ d ∈ ds, d.isDigit = true) :
  ds.find? (fun c => c == '8' || c == '9') = none ↔ ∀ d ∈ ds, digitWeight d < 8 := by
 rw [List.find?_eq_none]
 exact forall₂_congr fun d hd =>
  of_isDigit (p := fun d => ¬ (d == '8' || d == '9') = true ↔ digitWeight d < 8)
   (by decide +kernel) (hds d hd)

lemma plainInteger_cases (cs:List Char) {whole:List Char} (hne:whole ≠ [])
  (hwhole:∀ d ∈ whole, d.isDigit = true) :
  (∃ radix digits, Marked radix digits whole ∧
    plainInteger cs whole = integer cs digits radix whole.length) ∨
   ∀ n m, plainInteger cs whole ≠ Except.ok (.int n,m) := by
 have hweights:∀ d ∈ whole, digitWeight d < 10:=fun d hd => (weighed d).decimal.mp (hwhole d hd)
 unfold plainInteger
 split
 · rename_i d ds
   have hds:=List.forall_mem_cons.mp hwhole |>.2
   split
   · exact .inr fun n m => by simp [flawed]
   · rename_i hnone
     exact .inl ⟨_,_,.octal ⟨by simp,(find?_eq_none_iff hds).mp hnone⟩,rfl⟩
 · rename_i hshape
   refine .inl ⟨_,_,?_,rfl⟩
   by_cases hlead : whole.head? = some '0'
   · obtain ⟨ds,rfl⟩:=List.head?_eq_some_iff.mp hlead
     cases ds with
     | nil => exact .zero
     | cons d ds => exact absurd rfl (hshape d ds)
   · exact .decimal ⟨hne,hweights⟩ hlead

lemma number_cases {c:Char} {cs:List Char} (hdigit:c.isDigit = true)
  (hword:∀ d ∈ c :: cs, isWordChar d = true) :
  (∃ radix digits body suffix, c :: cs = body ++ suffix ∧ Marked radix digits body ∧
    number (c :: cs) = integer (body ++ suffix) digits radix body.length) ∨
   ∀ n m, number (c :: cs) ≠ Except.ok (.int n,m) := by
 rw [number_eq]
 split
 · rename_i hmarked
   obtain ⟨mark,rest,rfl⟩ : ∃ mark rest, cs = mark :: rest := by
    cases cs with
    | nil => cases hmarked
    | cons mark rest => exact ⟨mark,rest,rfl⟩
   simp only [isHexMarked,Bool.and_eq_true,Bool.or_eq_true,beq_iff_eq] at hmarked
   obtain ⟨rfl,hmark⟩:=hmarked
   have hds:∀ d ∈ rest.takeWhile isHexDigit, isHexDigit d = true:=
    fun d hd => List.mem_takeWhile_imp hd
   have hread:=hexadecimal_append mark hds (head?_dropWhile rest)
   have hsplit : '0' :: mark :: rest.takeWhile isHexDigit ++ rest.dropWhile isHexDigit =
     '0' :: mark :: rest := by
    rw [List.cons_append,List.cons_append,List.takeWhile_append_dropWhile]
   rw [hsplit] at hread
   by_cases hne : rest.takeWhile isHexDigit = []
   · rw [hread,hne]
     exact .inr fun n m => by simp [flawed]
   · rw [if_neg (by simpa using hne),← hsplit] at hread
     exact .inl ⟨_,_,_,_,hsplit.symm,
      .hex hmark ⟨hne,fun d hd => (weighed d).hex.mp (hds d hd)⟩,hsplit ▸ hread⟩
 · have hds:∀ d ∈ (c :: cs).takeWhile Char.isDigit, d.isDigit = true:=
    fun d hd => List.mem_takeWhile_imp hd
   have hne:(c :: cs).takeWhile Char.isDigit ≠ [] := by
    rw [List.takeWhile_cons_of_pos hdigit]
    simp
   have hsplit:=List.takeWhile_append_dropWhile (p := Char.isDigit) (l := c :: cs)
   have hpoint : '.' ∉ (c :: cs).dropWhile Char.isDigit:=fun hmem =>
    absurd (hword '.' (List.dropWhile_subset _ hmem)) (by decide)
   have hread:=decimal_append hds (head?_dropWhile (c :: cs)) hpoint
   rw [hsplit] at hread
   split at hread
   · exact .inr hread
   · obtain ⟨radix,digits,hmarked,hinteger⟩ | hbad:=plainInteger_cases (c :: cs) hne hds
     · exact .inl ⟨radix,digits,_,_,hsplit.symm,hmarked,by rw [hread,hinteger,hsplit]⟩
     · exact .inr (hread ▸ hbad)

lemma not_isHexMarked {w:List Char} (hx : 'x' ∉ w) (hX : 'X' ∉ w) : isHexMarked w = false := by
 unfold isHexMarked
 split
 · simp only [List.mem_cons,not_or] at hx hX
   simp [Ne.symm hx.2.1,Ne.symm hX.2.1]
 · rfl

lemma number_of_marked (hbody:Marked radix digits body)
  (hsuffix:(suffix,r) ∈ intSuffixes) :
  number (body ++ suffix) = integer (body ++ suffix) digits radix body.length := by
 have hletters:=suffix_letters (suffix,r) hsuffix
 have hhead:∀ c ∈ suffix.head?, c ∈ suffix:=fun c hc => List.mem_of_head? hc
 -- All but the hexadecimal ones are read as digits alone.
 have hplain (hdigits:∀ d ∈ body, digitWeight d < 10) :
   number (body ++ suffix) = plainInteger (body ++ suffix) body := by
  have hbodyDigits:∀ d ∈ body, d.isDigit = true:=
   fun d hd => (weighed d).decimal.mpr (hdigits d hd)
  have hunmarked:isHexMarked (body ++ suffix) = false := by
   refine not_isHexMarked ?_ ?_
   all_goals
    rw [List.mem_append]
    rintro (hmem | hmem)
    · exact absurd (hbodyDigits _ hmem) (by decide)
    · exact (hletters _ hmem).2.2.2 (by decide)
  have hread:=decimal_append hbodyDigits (fun c hc => (hletters c (hhead c hc)).2.2.1)
   fun hmem => (hletters '.' hmem).2.2.2 (by decide)
  have hexponent:startsExponent suffix = false := by
   cases suffix with
   | nil => rfl
   | cons c cs =>
    have hc:=(hletters c List.mem_cons_self).2.2.2
    simp only [List.mem_cons,not_or] at hc
    simp [startsExponent,hc]
  rw [number_eq,hunmarked]
  rw [hexponent] at hread
  exact hread
 cases hbody with
 | zero => exact hplain (by decide)
 | decimal hds hlead =>
  rw [hplain hds.2]
  unfold plainInteger
  split
  · exact absurd rfl hlead
  · rfl
 | octal hds =>
  have hdigits:∀ d ∈ digits, d.isDigit = true:=
   fun d hd => (weighed d).decimal.mpr (Nat.lt_of_lt_of_le (hds.2 d hd) (by decide))
  have hnone:=(find?_eq_none_iff hdigits).mpr hds.2
  rw [hplain (List.forall_mem_cons.mpr ⟨by decide,fun d hd =>
   Nat.lt_of_lt_of_le (hds.2 d hd) (by decide)⟩)]
  obtain ⟨d,ds,rfl⟩:=List.exists_cons_of_ne_nil hds.1
  rw [plainInteger,hnone]
 | @hex mark _ hmark hds =>
  have hmarked:isHexMarked ('0' :: mark :: digits ++ suffix) = true := by
   simpa [isHexMarked] using hmark
  rw [number_eq,if_pos hmarked,hexadecimal_append _ (fun d hd => (weighed d).hex.mpr (hds.2 d hd))
   fun c hc => (hletters c (hhead c hc)).2.1,if_neg (by simpa using hds.1)]

/-! ### Reading words -/

section Reading

variable {c:Char} (hdigit:c.isDigit = true) (cs:List Char)
include hdigit

lemma lexeme_digit : lexeme c cs = number (c :: cs) := by
 have hword:startsWord c = false:=
  of_isDigit (p := (startsWord · = false)) (by decide +kernel) hdigit
 have hnumber:startsNumber c cs = true := by
  unfold startsNumber
  rw [hdigit]
  rfl
 unfold lexeme
 rw [hword,if_neg (by decide),if_pos hnumber]

lemma gap_digit (fresh:Bool) : gap fresh (c :: cs) = .absent := by
 obtain ⟨hblank,hmark,hslash⟩:=of_isDigit
  (p := fun c => isBlank c = false ∧ c ≠ '#' ∧ c ≠ '/') (by decide +kernel) hdigit
 unfold gap
 dsimp only
 rw [hblank,if_neg (by decide),if_neg (fun h => hmark h.1),if_neg hslash]

end Reading

end Lexeme

open Lexeme

lemma Cursor.scan_of_absent {c:Cursor} {ch:Char} {cs:List Char}
  (h:gap c.fresh c.rest = .absent) (hc:c.rest = ch :: cs) : c.scan = c.take ch cs := by
 unfold scan
 rw [skipGaps_of_absent h]
 dsimp only
 rw [hc]

lemma Cursor.tokens_of_last {c d:Cursor} {t:Token} (h:c.scan = .token t d) (hd:d.rest = []) :
  c.tokens = .ok [t,Token.eof (d.spanOf 0)] := by
 rw [tokens_of_token h,tokens_of_finish (scan_of_rest_nil hd)]
 rfl

section Tokenize

variable {ch:Char} {cs:List Char} (hgap:gap true (ch :: cs) = .absent)
include hgap

lemma scan_start :
  (Cursor.start (String.ofList (ch :: cs))).scan =
   (Cursor.start (String.ofList (ch :: cs))).take ch cs := by
 have hrest:(Cursor.start (String.ofList (ch :: cs))).rest = ch :: cs:=String.toList_ofList
 exact Cursor.scan_of_absent (by rw [hrest]; exact hgap) hrest

lemma tokenize_single (h:lexeme ch cs = Except.ok (k,cs.length + 1)) :
  ∃ span, tokenize (String.ofList (ch :: cs)) = .ok
   [⟨k,String.ofList (ch :: cs),⟨0,cs.length + 1,1,1⟩⟩,Token.eof span] := by
 have hscan:=scan_start hgap
 unfold Cursor.take at hscan
 rw [h] at hscan
 dsimp only at hscan
 rw [Nat.add_sub_cancel,← List.length_cons,List.take_length] at hscan
 have htokens:=Cursor.tokens_of_last hscan (by simp [Cursor.start])
 simp only [Cursor.spanOf,Cursor.start,Nat.zero_add] at htokens
 exact ⟨_,htokens⟩

lemma tokenize_fault {cause:Cause} {n:Nat} (h:lexeme ch cs = Except.error (cause,n)) :
  tokenize (String.ofList (ch :: cs)) = .error ⟨cause,⟨0,n,1,1⟩⟩ := by
 have hscan:=scan_start hgap
 unfold Cursor.take at hscan
 rw [h] at hscan
 rw [tokenize,Cursor.tokens_of_fault hscan]
 simp [Cursor.spanOf,Cursor.start]

lemma lexeme_of_tokenize {ks:List TokenKind}
  (h:(tokenize (String.ofList (ch :: cs))).map (·.map Token.kind) = .ok (k :: ks)) :
  ∃ n, lexeme ch cs = Except.ok (k,n) := by
 cases hread : lexeme ch cs with
 | error e =>
  rw [tokenize_fault hgap hread] at h
  cases h
 | ok r =>
  have hscan:=scan_start hgap
  unfold Cursor.take at hscan
  rw [hread] at hscan
  rw [tokenize,Cursor.tokens_of_token hscan] at h
  generalize Cursor.tokens _ = later at h
  cases later with
  | error f => cases h
  | ok ts =>
   obtain ⟨rfl,-⟩:=List.cons.inj (Except.ok.inj h)
   exact ⟨r.2,rfl⟩

end Tokenize

/-- A word that starts with a digit is a single integer token exactly if it has the form of an
integer constant whose number fits into 64 bits, and the token carries that number; an integer
constant whose number does not fit is refused for that. -/
theorem tokenize_integer (w:List Char) (hword:∀ c ∈ w, isWordChar c = true)
  (hdigit:w.head?.any Char.isDigit = true) :
  (∀ n:IntLiteral,
    (tokenize (String.ofList w)).map (·.map Token.kind) = .ok [.int n,.eof] ↔
     ∃ digits, IsInteger n.radix digits n.isUnsigned n.longs w ∧
      n.value.toNat = numeral n.radix.base digits) ∧
  ∀ radix digits isUnsigned longs, IsInteger radix digits isUnsigned longs w →
   UInt64.size ≤ numeral radix.base digits →
    tokenize (String.ofList w) =
     .error ⟨.integerTooLarge (String.ofList w),⟨0,w.length,1,1⟩⟩ := by
 obtain ⟨c,cs,rfl⟩ : ∃ c cs, w = c :: cs:=List.exists_cons_of_ne_nil (by rintro rfl; cases hdigit)
 have hgap:=gap_digit hdigit cs true
 have hlexeme:=lexeme_digit hdigit cs
 refine ⟨fun n => ⟨fun h => ?_,?_⟩,?_⟩
 · obtain ⟨m,hread⟩:=lexeme_of_tokenize hgap h
   rw [hlexeme] at hread
   obtain ⟨radix,digits,body,suffix,hsplit,hmarked,hnumber⟩ | hbad:=number_cases hdigit hword
   · have hsuffix:∀ d ∈ suffix, isWordChar d = true:=
      fun d hd => hword d (hsplit ▸ List.mem_append_right _ hd)
     obtain ⟨⟨-,hsign⟩,rfl,hvalue⟩:=(integer_eq_ok_iff body hsuffix).mp (hnumber.symm.trans hread)
     exact ⟨digits,⟨body,suffix,hsplit,hmarked,mem_intSuffixes_iff.mpr hsign⟩,
      hvalue.trans hmarked.ofDigits_eq⟩
   · exact absurd hread (hbad n m)
 · rintro ⟨digits,⟨body,suffix,hsplit,hmarked,hsuffix⟩,hvalue⟩
   have hletters:∀ d ∈ suffix, isWordChar d = true:=
    fun d hd => (suffix_letters _ hsuffix d hd).1
   have hread:=(integer_eq_ok_iff body hletters).mpr ⟨⟨rfl,mem_intSuffixes_iff.mp hsuffix⟩,
    rfl,hvalue.trans hmarked.ofDigits_eq.symm⟩
   rw [← number_of_marked hmarked hsuffix,← hsplit,← hlexeme,List.length_cons] at hread
   obtain ⟨span,htokens⟩:=tokenize_single hgap hread
   rw [htokens]
   rfl
 · rintro radix digits isUnsigned longs ⟨body,suffix,hsplit,hmarked,hsuffix⟩ hlarge
   have hletters:∀ d ∈ suffix, isWordChar d = true:=
    fun d hd => (suffix_letters _ hsuffix d hd).1
   have hread:=integer_tooLarge body hletters (mem_intSuffixes_iff.mp hsuffix)
    (hmarked.ofDigits_eq ▸ hlarge)
   rw [← number_of_marked hmarked hsuffix,← hsplit,← hlexeme] at hread
   exact tokenize_fault hgap hread

theorem tokenize_integer_hex :
  (tokenize (String.ofList ['0','X','1','e','u','L','L'])).map (·.map Token.kind) =
    .ok [.int ⟨30,.hex,true,2⟩,.eof] ∧
   tokenize (String.ofList ('1' :: List.replicate 20 '0')) = .error
    ⟨.integerTooLarge (String.ofList ('1' :: List.replicate 20 '0')),⟨0,21,1,1⟩⟩ := by
 constructor
 · refine ((tokenize_integer _ (by decide) (by decide)).1 ⟨30,.hex,true,2⟩).mpr ⟨['1','e'],?_,?_⟩
   · exact ⟨['0','X','1','e'],['u','L','L'],rfl,.hex (.inr rfl) (by decide),by decide⟩
   · rfl
 · refine (tokenize_integer _ (by decide) (by decide)).2 .decimal ('1' :: List.replicate 20 '0')
    false 0 ⟨_,[],(List.append_nil _).symm,?_,by decide⟩ ?_
   · exact .decimal (by decide) (by decide)
   · decide

end CCheck
