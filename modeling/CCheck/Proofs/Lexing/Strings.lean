import CCheck.Proofs.Lexing.Integers

/-! # Spellings of string literals

A character of a string can be spelled in several ways, and a backslash at the end of a line joins
two lines between any two spellings. Whichever way is chosen, the literal is read as the characters
that were spelled. -/

set_option autoImplicit false

namespace CCheck

attribute [local instance] decidableBAllChars

namespace Lexeme

def simpleEscapes : List (Char × Char) :=
 [('n','\n'),('t','\t'),('r','\r'),('a','\x07'),('b','\x08'),('f','\x0c'),('v','\x0b'),('\\','\\'),
  ('\'','\''),('"','"'),('?','?')]

/-- The ways to spell a character before the given text. A code stands for the character with its
low eight bits; the digits of a hexadecimal one end where no digit follows. -/
inductive Spells (later:List Char) : Char → List Char → Prop
 | itself {c} (hc:c ∉ ['"','\\','\n']) : Spells later c [c]
 | simple {e c} (h:(e,c) ∈ simpleEscapes) : Spells later c ['\\',e]
 | octal {c d₁ d₂ d₃} (hds:IsNumeral 8 [d₁,d₂,d₃]) (hc:numeral 8 [d₁,d₂,d₃] % 256 = c.toNat) :
   Spells later c ['\\',d₁,d₂,d₃]
 | hex {c ds} (hds:IsNumeral 16 ds) (hc:numeral 16 ds % 256 = c.toNat)
   (hlater:∀ d ∈ later.head?, 16 ≤ digitWeight d) : Spells later c ('\\' :: 'x' :: ds)

inductive Spelling : List Char → List Char → Prop
 | nil : Spelling [] []
 | joined {s w} (h:Spelling s w) : Spelling s ('\\' :: '\n' :: w)
 | cons {c s v w} (hc:Spells w c v) (h:Spelling s w) : Spelling (c :: s) (v ++ w)

lemma codeOf_toNat (base:UInt32) (ds:List Char) :
  (codeOf base ds).toNat = Decimal.ofDigits base.toNat ds % 2 ^ 32 := by
 unfold codeOf Decimal.ofDigits
 induction ds using List.reverseRecOn with
 | nil => rfl
 | append_singleton ds d ih =>
  rw [List.foldl_concat,List.foldl_concat,UInt32.toNat_add,UInt32.toNat_mul,UInt32.toNat_ofNat',ih,
   Nat.mod_add_mod,Nat.add_mod_mod,Nat.add_mod,Nat.mod_mul_mod,← Nat.add_mod]

/-- The bits that a long code loses are not those that the character is made of. -/
lemma byteChar_codeOf {base:UInt32} {ds:List Char} {c:Char}
  (h:Decimal.ofDigits base.toNat ds % 256 = c.toNat) : byteChar (codeOf base ds) = c := by
 have hlow:(codeOf base ds &&& 0xFF).toNat = (codeOf base ds).toNat % 256:=
  Nat.and_two_pow_sub_one_eq_mod _ 8
 rw [byteChar,hlow,codeOf_toNat,Nat.mod_mod_of_dvd _ (by decide),h,Char.ofNat_toNat]

lemma escape?_simple : ∀ p ∈ simpleEscapes, ∀ cs, escape? (p.1 :: cs) = some (p.2,1) := by
 simp [simpleEscapes,escape?,isOctalDigit]

lemma escape?_octal {d₁ d₂ d₃ c:Char} (hds:IsNumeral 8 [d₁,d₂,d₃])
  (hc:numeral 8 [d₁,d₂,d₃] % 256 = c.toNat) (later:List Char) :
  escape? (d₁ :: d₂ :: d₃ :: later) = some (c,3) := by
 have hoctal:∀ d ∈ [d₁,d₂,d₃], isOctalDigit d = true:=
  fun d hd => (weighed d).octal.mpr (hds.2 d hd)
 have hmore:((d₂ :: d₃ :: later).take 2).takeWhile isOctalDigit = [d₂,d₃] := by
  simp [hoctal]
 have hvalue:byteChar (codeOf 8 [d₁,d₂,d₃]) = c:=
  byteChar_codeOf ((congrArg (· % 256) (ofDigits_eq_numeral (by decide) hds.2)).trans hc)
 unfold escape?
 dsimp only
 split
 case h_9 =>
  rw [if_pos (hoctal d₁ (by simp)),hmore,hvalue]
  rfl
 all_goals exact absurd (hoctal _ List.mem_cons_self) (by decide)

lemma escape?_hex {ds later:List Char} {c:Char} (hds:IsNumeral 16 ds)
  (hc:numeral 16 ds % 256 = c.toNat) (hlater:∀ d ∈ later.head?, 16 ≤ digitWeight d) :
  escape? ('x' :: (ds ++ later)) = some (c,ds.length + 1) := by
 have hdigits:(ds ++ later).takeWhile isHexDigit = ds:=
  takeWhile_append_stop (fun d hd => (weighed d).hex.mpr (hds.2 d hd)) fun d hd =>
   (Bool.not_eq_true _).mp fun hhex =>
    absurd ((weighed d).hex.mp hhex) (Nat.not_lt.mpr (hlater d hd))
 have hvalue:byteChar (codeOf 16 ds) = c:=
  byteChar_codeOf ((congrArg (· % 256) (ofDigits_eq_numeral (Nat.le_refl 16) hds.2)).trans hc)
 unfold escape?
 dsimp only
 rw [hdigits,hvalue]
 rfl

lemma stringBody_escape {v rest:List Char} {c:Char} (hv:v.head? ≠ some '\n') (hne:v ≠ [])
  (h:escape? (v ++ rest) = some (c,v.length)) :
  stringBody ('\\' :: v ++ rest) = (stringBody rest).after ('\\' :: v).length (c :: ·) := by
 obtain ⟨e,v,rfl⟩:=List.exists_cons_of_ne_nil hne
 have hnewline:∀ ds, e :: v ++ rest = '\n' :: ds → False:=fun ds hds => hv (by cases hds; rfl)
 rw [List.cons_append,stringBody_escaped hnewline h,List.drop_left]
 rfl

lemma stringBody_spells {c:Char} {v w:List Char} (h:Spells w c v) (rest:List Char) :
  stringBody (v ++ (w ++ '"' :: rest)) =
   (stringBody (w ++ '"' :: rest)).after v.length (c :: ·) := by
 cases h with
 | itself hc =>
  simp only [List.mem_cons,not_or] at hc
  exact stringBody_plain _ hc.2.2.1 hc.1 hc.2.1
 | simple hc =>
  have hnewline:∀ p ∈ simpleEscapes, [p.1].head? ≠ some '\n' := by decide
  exact stringBody_escape (hnewline _ hc) (by simp) (escape?_simple _ hc _)
 | octal hds hc =>
  refine stringBody_escape ?_ (by simp) (escape?_octal hds hc _)
  intro hnewline
  obtain rfl:=Option.some.inj hnewline
  exact absurd (hds.2 '\n' List.mem_cons_self) (by decide)
 | hex hds hc hlater =>
  refine stringBody_escape (by simp) (by simp) (escape?_hex hds hc ?_)
  cases w with
  | nil =>
   rintro d ⟨⟩
   decide
  | cons d w => exact hlater

lemma stringBody_spelling {s w:List Char} (h:Spelling s w) (rest:List Char) :
  stringBody (w ++ '"' :: rest) = Except.ok (s,w.length + 1) := by
 induction h with
 | nil => exact stringBody_quote rest
 | joined _ ih =>
  rw [List.cons_append,List.cons_append,stringBody_continued,ih]
  rfl
 | cons hc _ ih =>
  rw [List.append_assoc,stringBody_spells hc,ih,List.length_append]
  exact congrArg (fun n => Except.ok (_,n)) (by omega)

end Lexeme

open Lexeme

/-- Wherever a literal stands, it is read as one token with the characters that it spells and its
own text; alone, it is the only token. -/
theorem scan_string {s w:List Char} (h:Spelling s w) :
  (∀ (c:Cursor) (rest:List Char), c.rest = '"' :: (w ++ '"' :: rest) → ∃ d,
    c.scan = .token ⟨.string (String.ofList s),String.ofList ('"' :: (w ++ ['"'])),
     c.spanOf (w.length + 2)⟩ d ∧ d.rest = rest) ∧
  ∃ span, tokenize (String.ofList ('"' :: (w ++ ['"']))) = .ok
   [⟨.string (String.ofList s),String.ofList ('"' :: (w ++ ['"'])),⟨0,w.length + 2,1,1⟩⟩,
    Token.eof span] := by
 have hlexeme (rest:List Char) : lexeme '"' (w ++ '"' :: rest) =
   Except.ok (.string (String.ofList s),w.length + 2) := by
  rw [lexeme_double,stringLiteral,stringBody_spelling h rest]
 have hgap (fresh:Bool) (rest:List Char) : gap fresh ('"' :: (w ++ '"' :: rest)) = .absent := rfl
 constructor
 · intro c rest hc
   have hscan:=Cursor.scan_of_absent (by rw [hc]; exact hgap _ _) hc
   have hsplit : '"' :: (w ++ '"' :: rest) = '"' :: (w ++ ['"']) ++ rest := by simp
   have hlength : w.length + 2 = ('"' :: (w ++ ['"'])).length := by simp
   rw [Cursor.take,hlexeme] at hscan
   dsimp only at hscan
   rw [hsplit,Nat.sub_add_cancel (by omega),hlength,List.take_left] at hscan
   rw [hlength]
   refine ⟨_,hscan,?_⟩
   rw [Cursor.advance_rest,hc,hsplit,List.drop_left]
 · have hread:=hlexeme []
   have hlength : w.length + 2 = (w ++ ['"']).length + 1 := by simp
   rw [hlength] at hread ⊢
   exact tokenize_single (hgap true []) hread

/-- The last two spellings hold a joined line between them, without which the digit would belong to
the code. -/
theorem scan_string_mixed :
  ∃ span, tokenize (String.ofList ('"' :: ['\\','"','\\','1','0','1','\\','x','1','4','2','\\',
    '\n','1'] ++ ['"'])) = .ok
   [⟨.string (String.ofList ['"','A','B','1']),String.ofList ('"' :: ['\\','"','\\','1','0','1',
    '\\','x','1','4','2','\\','\n','1'] ++ ['"']),⟨0,16,1,1⟩⟩,Token.eof span] :=
 (scan_string (.cons (v := ['\\','"']) (.simple (by decide))
  (.cons (v := ['\\','1','0','1']) (.octal (by decide) rfl)
   (.cons (v := ['\\','x','1','4','2']) (.hex (by decide) rfl (by simp; decide))
    (.joined (.cons (v := ['1']) (.itself (by decide)) .nil)))))).2

end CCheck
