import CCheck.Proofs.Printing.Declarators

/-! # Printed declarators are read back

Stars, core and suffixes are read one after another. An empty core is told from an inner
declarator by what follows its parenthesis. -/

set_option autoImplicit false

namespace CCheck

open Grammar

variable {α β:Type} {names names' names'':TypeNames} {ts us rest:List TokenKind}

variable {abstract:Bool} {d:Declarator} {depth:Nat} {s:Suffix}

/-! ### What may follow -/

def DeclaratorEnds (rest:List TokenKind) : Prop :=
 rest.headD .eof = .punct .rparen ∨ rest.headD .eof = .punct .comma ∨
  rest.headD .eof = .punct .semicolon

lemma DeclaratorEnds.wordsEnd (h:DeclaratorEnds rest) : WordsEnd rest := by
 intro k hk
 unfold DeclaratorEnds at h
 rw [hk] at h
 simp at h

lemma DeclaratorEnds.ne {p:Punctuator} (h:DeclaratorEnds rest)
  (hp:p = .star ∨ p = .lbracket ∨ p = .lparen) : rest.headD .eof ≠ .punct p := by
 intro heq
 unfold DeclaratorEnds at h
 rw [heq] at h
 obtain rfl | rfl | rfl:=hp <;> simp at h

def TokenKind.OpensParams : TokenKind → Prop
 | keyword _ => True
 | k => k = .punct .rparen ∨ k = .punct .ellipsis

def NoCore (ts:List TokenKind) : Prop :=
 (∃ p, ts.headD .eof = .punct p ∧ p ≠ .star ∧ p ≠ .lparen) ∨
  ∃ k us, ts = .punct .lparen :: k :: us ∧ k.OpensParams

lemma DeclaratorEnds.noCore (h:DeclaratorEnds rest) : NoCore rest := by
 obtain h | h | h:=h <;> exact Or.inl ⟨_,h,by decide,by decide⟩

lemma NoCore.wordsEnd (h:NoCore ts) : WordsEnd ts := by
 obtain ⟨p,hp,-⟩ | ⟨k,us,rfl,-⟩:=h
 · intro w hw
   rw [hp] at hw
   cases hw
 · exact wordsEnd_punct _ _

lemma NoCore.ne_star (h:NoCore ts) : ts.headD .eof ≠ .punct .star := by
 obtain ⟨p,hp,hstar,-⟩ | ⟨k,us,rfl,-⟩:=h
 · rw [hp]
   exact fun heq => hstar (TokenKind.punct.inj heq)
 · simp

lemma reads_stars (ps:List (Qualifiers × Span)) (hwords:WordsEnd rest)
  (hstar:rest.headD .eof ≠ .punct .star) :
  Reads names stars (ps.flatMap fun p => printStar p.1) rest
   fun qs => qs.map Prod.fst = ps.map Prod.fst := by
 rw [stars_eq]
 have hstart:Opens names (pure []) starStep [] (ps.flatMap (fun p => printStar p.1) ++ rest)
   fun qs => qs.map Prod.fst = [] := .of_start (.pure rfl)
 have hprint (p:Qualifiers × Span) (_:p ∈ ps) :
   printStar p.1 ≠ [] ∧ ∀ us, WordsEnd (printStar p.1 ++ us) :=
  ⟨by simp [printStar],fun us => wordsEnd_punct _ _⟩
 have hstep (p:Qualifiers × Span) (_:p ∈ ps) (us:List TokenKind)
   (qs:List (Qualifiers × Span)) (hus:WordsEnd us) :
   Reads names (starStep qs) (printStar p.1) us
    fun x => ∃ q, x = .yield (qs ++ [q]) ∧ q.1 = p.1 := by
  refine (reads_starStep p.1 hus qs).mono fun x hx => ?_
  obtain ⟨qs',rfl,span,rfl⟩:=hx
  exact ⟨(p.1,span),rfl,rfl⟩
 have hopens:=Opens.items hprint hstep hwords hstart
 exact hopens.close fun qs _ => reads_starStep_done hstar qs

/-! ### Suffixes -/

def suffixStep (r:Reader) (ss:List Suffix) : Parser (ForInStep (List Suffix)) := do
 if ← Parser.check .lbracket then return .yield (ss ++ [← arraySuffix r])
 else if ← Parser.check .lparen then return .yield (ss ++ [← functionSuffix r])
 else return .done ss

lemma suffixes_eq (r:Reader) : suffixes r = pure [] >>= Parser.loop (suffixStep r) := rfl

def Suffix.withoutPlaces (s:Suffix) : Suffix := s.mapSpans fun _ => .nowhere

structure TypeNames.Plain (names:TypeNames) : Prop where
 inScope : names.scopes ≠ []
 noType : ∀ name, names.isType name = false

/-- A suffix that is read back, and that cannot be taken for the core of a declarator. -/
structure Suffix.Recovered (s:Suffix) : Prop where
 noCore : ∀ us, NoCore (s.print ++ us)
 reads : ∀ (names:TypeNames) d rest ss, names.Plain → s.print.length ≤ d →
  Reads names (suffixStep (read d) ss) s.print rest
   fun x => ∃ s', x = .yield (ss ++ [s']) ∧ s'.withoutPlaces = s.withoutPlaces

lemma Suffix.Recovered.print_ne_nil (h:s.Recovered) : s.print ≠ [] := by
 intro hnil
 have hcore:=h.noCore []
 rw [hnil] at hcore
 obtain ⟨p,hp,-⟩ | ⟨k,us,hk,-⟩:=hcore
 · cases hp
 · cases hk

lemma reads_suffixStep_done (hrest:DeclaratorEnds rest) (r:Reader) (ss:List Suffix) :
  Reads names (suffixStep r ss) [] rest fun x => x = .done ss := by
 refine (Reads.check .lbracket).look fun b hb => ?_
 obtain rfl : b = false:=hb.trans (beq_false_of_ne (hrest.ne (by simp)))
 refine (Reads.check .lparen).look fun b hb => ?_
 obtain rfl : b = false:=hb.trans (beq_false_of_ne (hrest.ne (by simp)))
 exact .pure rfl

lemma reads_suffixes_printed {d:Nat} (hnames:names.Plain) (ss:List Suffix)
  (hss:∀ s ∈ ss, s.Recovered) (hd:(ss.flatMap Suffix.print).length ≤ d)
  (hrest:DeclaratorEnds rest) :
  Reads names (suffixes (read d)) (ss.flatMap Suffix.print) rest
   fun ss' => ss'.map Suffix.withoutPlaces = ss.map Suffix.withoutPlaces := by
 rw [suffixes_eq]
 have hstart:Opens names (pure []) (suffixStep (read d)) [] (ss.flatMap Suffix.print ++ rest)
   fun ss' => ss'.map Suffix.withoutPlaces = [] := .of_start (.pure rfl)
 have hlength (s:Suffix) (hs:s ∈ ss) : s.print.length ≤ d:=
  Nat.le_trans (List.sublist_flatten_of_mem (List.mem_map_of_mem hs)).length_le hd
 have hopens:=Opens.items (F := fun _ => True)
  (fun s hs => ⟨(hss s hs).print_ne_nil,fun _ => trivial⟩)
  (fun s hs us ss' _ => (hss s hs).reads names d us ss' hnames (hlength s hs)) trivial hstart
 exact hopens.close fun ss' _ => reads_suffixStep_done hrest _ ss'

lemma reads_startsNested (abstract:Bool) (hstar:d.starred = true)
  (us:List TokenKind) :
  Reads names (startsNested abstract) [] (.punct .lparen :: (d.print ++ us))
   fun b => b = true := by
 cases abstract with
 | false => exact .pure rfl
 | true =>
  obtain ⟨vs,hprint⟩:=Declarator.print_of_starred hstar
  refine Reads.peek?.look fun k hk => ?_
  rw [hprint] at hk
  obtain rfl : k = some (.punct .star):=hk
  exact .pure rfl

lemma reads_startsNested_false (us:List TokenKind) {k:TokenKind} (hk:k.OpensParams) :
  Reads names (startsNested true) [] (.punct .lparen :: k :: us) fun b => b = false := by
 refine Reads.peek?.look fun k' hk' => ?_
 obtain rfl : k' = some k:=hk'
 cases k with
 | keyword w => exact .pure rfl
 | punct p => obtain hp | hp := hk <;> cases hp <;> exact .pure rfl
 | _ => obtain hp | hp := hk <;> cases hp

lemma reads_declaratorCore_none (hrest:NoCore rest) (r:Reader) :
  Reads names (declaratorCore r true) [] rest fun x => x = (none,none) := by
 refine Reads.kind.look fun k hk => ?_
 obtain ⟨p,hp,-,hparen⟩ | ⟨k',us,rfl,hk'⟩:=hrest
 · obtain rfl : k = .punct p:=hk.trans hp
   cases p with
   | lparen => exact absurd rfl hparen
   | _ => exact .pure rfl
 · obtain rfl : k = .punct .lparen:=hk
   refine (reads_startsNested_false us hk').look fun b hb => ?_
   rw [hb]
   exact .pure rfl

lemma reads_declaratorCore_name (i:Ident) (r:Reader) (abstract:Bool) :
  Reads names (declaratorCore r abstract) [.ident i.name] rest
   fun x => ∃ i', x = (some i',none) ∧ i'.name = i.name := by
 refine Reads.kind.look fun k hk => ?_
 obtain rfl : k = .ident i.name:=hk
 exact (Reads.ident i.name).next fun i' hi' => .pure ⟨i',rfl,hi'⟩

lemma reads_declaratorCore_nested {r:Reader}
  (hstar:d.starred = true) {Q:Declarator → Prop}
  (h:Reads names (r (.declarator abstract)) d.print (.punct .rparen :: rest) Q) :
  Reads names (declaratorCore r abstract) (inParens d.print) rest
   fun x => ∃ d', x = (none,some d') ∧ Q d' := by
 refine Reads.kind.look fun k hk => ?_
 obtain rfl : k = .punct .lparen:=hk
 have hnested:Reads names (startsNested abstract) [] (inParens d.print ++ rest)
   fun b => b = true := by
  unfold inParens
  rw [List.cons_append,List.append_assoc]
  exact reads_startsNested abstract hstar _
 refine hnested.look fun b hb => ?_
 rw [hb]
 refine Reads.advance.next fun _ _ => ?_
 refine Reads.bind h fun d' hd' => ?_
 exact (Reads.expect .rparen).next fun _ _ => .pure ⟨d',rfl,hd'⟩

/-! ### Declarators -/

/-- A declarator whose suffixes are read back, with stars in every pair of parentheses, and
with a name unless it may be abstract. -/
inductive Declarator.Proper (abstract:Bool) : Declarator → Prop where
 | flat {name:Option Ident} (pointers:List (Qualifiers × Span)) {suffixes:List Suffix}
    (hname:name = none → abstract = true) (hsuffixes:∀ s ∈ suffixes, s.Recovered) :
    Proper abstract ⟨name,pointers,suffixes,none⟩
 | nested {d:Declarator} (pointers:List (Qualifiers × Span)) {suffixes:List Suffix}
    (hd:d.Proper abstract) (hstar:d.starred = true)
    (hsuffixes:∀ s ∈ suffixes, s.Recovered) :
    Proper abstract ⟨none,pointers,suffixes,some d⟩

lemma Declarator.Proper.addStar (h:d.Proper abstract)
  (q:Qualifiers) : (d.addStar q).Proper abstract := by
 cases h with
 | flat pointers hname hsuffixes => exact .flat _ hname hsuffixes
 | nested pointers hd hstar hsuffixes => exact .nested _ hd hstar hsuffixes

lemma Declarator.Proper.addSuffix (h:d.Proper abstract)
  (hs:s.Recovered) : (d.addSuffix s).Proper abstract := by
 unfold Declarator.addSuffix
 split
 · rename_i hstar
   exact .nested [] h hstar (by simpa using hs)
 · have hconcat {ss:List Suffix} (hss:∀ s ∈ ss, s.Recovered) :
     ∀ s' ∈ ss ++ [s], s'.Recovered := by
    intro s' hs'
    obtain hs' | hs':=List.mem_append.mp hs'
    · exact hss s' hs'
    · rwa [List.mem_singleton.mp hs']
   cases h with
   | flat pointers hname hsuffixes => exact .flat _ hname (hconcat hsuffixes)
   | nested pointers hd hstar hsuffixes => exact .nested _ hd hstar (hconcat hsuffixes)

def Declarator.Same (d d':Declarator) : Prop := d'.withoutPlaces = d.withoutPlaces

def Declarator.CoreSame (d:Declarator) (x:Option Ident × Option Declarator) : Prop :=
 x.1.map (·.name) = d.name.map (·.name) ∧
  x.2.map Declarator.withoutPlaces = d.nested.map Declarator.withoutPlaces

lemma Declarator.withoutPlaces_eq (d:Declarator) : d.withoutPlaces =
  ⟨(d.name.map (·.name)).map (⟨·,.nowhere⟩),(d.pointers.map Prod.fst).map (·,.nowhere),
   d.suffixes.map Suffix.withoutPlaces,d.nested.map Declarator.withoutPlaces⟩ := by
 obtain ⟨name,pointers,suffixes,nested⟩:=d
 rw [Option.map_map,List.map_map]
 cases nested <;> rfl

lemma noCore_suffixes {ss:List Suffix} (hss:∀ s ∈ ss, s.Recovered)
  (hrest:DeclaratorEnds rest) : NoCore (ss.flatMap Suffix.print ++ rest) := by
 cases ss with
 | nil => exact hrest.noCore
 | cons s ss =>
  rw [List.flatMap_cons,List.append_assoc]
  exact (hss s List.mem_cons_self).noCore _

lemma Declarator.reads_of_core (d:Declarator)
  {core:List TokenKind} (hnames:names.Plain) (hsuffixes:∀ s ∈ d.suffixes, s.Recovered)
  (hdepth:(d.suffixes.flatMap Suffix.print).length ≤ depth) (hrest:DeclaratorEnds rest)
  (hwords:WordsEnd (core ++ (d.suffixes.flatMap Suffix.print ++ rest)))
  (hstar:(core ++ (d.suffixes.flatMap Suffix.print ++ rest)).headD .eof ≠ .punct .star)
  (hpresent:(!abstract && d.name.isNone && d.nested.isNone) = false)
  (hcore:Reads names (declaratorCore (read depth) abstract) core
   (d.suffixes.flatMap Suffix.print ++ rest) d.CoreSame) :
  Reads names (declarator (read depth) abstract)
   (d.pointers.flatMap (fun p => printStar p.1) ++ core ++ d.suffixes.flatMap Suffix.print)
   rest d.Same := by
 rw [List.append_assoc]
 rw [← List.append_assoc] at hwords hstar
 refine (reads_stars d.pointers hwords hstar).bind fun ps hps => ?_
 refine Reads.bind hcore fun x hx => ?_
 have hsuffixed:=reads_suffixes_printed hnames d.suffixes hsuffixes hdepth hrest
 refine hsuffixed.lookAfter fun ss hss => ?_
 obtain ⟨name,nested⟩:=x
 obtain ⟨hname,hnested⟩:=hx
 dsimp only at hname hnested ⊢
 have hnone:name.isNone = d.name.isNone := by
  rw [← Option.isNone_map,hname,Option.isNone_map]
 have hnone':nested.isNone = d.nested.isNone := by
  rw [← Option.isNone_map,hnested,Option.isNone_map]
 rw [hnone,hnone',hpresent]
 refine .pure ?_
 unfold Declarator.Same
 rw [Declarator.withoutPlaces_eq,d.withoutPlaces_eq,hname,hps,hss,hnested]

lemma Declarator.Proper.reads (h:d.Proper abstract)
  (hnames:names.Plain) (hdepth:d.print.length ≤ depth)
  (hrest:DeclaratorEnds rest) :
  Reads names (declarator (read depth) abstract) d.print rest d.Same := by
 induction h generalizing depth rest with
 | @flat name pointers suffixes hname hsuffixes =>
  simp only [Declarator.print,List.length_append] at hdepth
  have hnoCore:=noCore_suffixes hsuffixes hrest
  cases name with
  | none =>
   obtain rfl:=hname rfl
   refine Declarator.reads_of_core ⟨none,pointers,suffixes,none⟩ hnames hsuffixes
    (by dsimp only; omega) hrest hnoCore.wordsEnd hnoCore.ne_star rfl ?_
   refine (reads_declaratorCore_none hnoCore _).mono fun x hx => ?_
   rw [hx]
   exact ⟨rfl,rfl⟩
  | some i =>
   refine Declarator.reads_of_core ⟨some i,pointers,suffixes,none⟩ hnames hsuffixes
    (by dsimp only; omega) hrest (wordsEnd_ident _ _) (by simp [printName]) (by simp) ?_
   refine (reads_declaratorCore_name i _ abstract).mono fun x hx => ?_
   obtain ⟨i',rfl,hi'⟩:=hx
   exact ⟨congrArg some hi',rfl⟩
 | @nested d pointers suffixes hd hstar hsuffixes ih =>
  simp only [Declarator.print,inParens,List.length_append,List.length_cons,
   List.length_nil] at hdepth
  -- The inner declarator is read with one level of nesting less.
  obtain ⟨depth,rfl⟩ : ∃ n, depth = n + 1:=⟨depth - 1,by omega⟩
  have hinner:Reads names (read (depth + 1) (.declarator abstract)) d.print
    (.punct .rparen :: (suffixes.flatMap Suffix.print ++ rest)) d.Same :=
   ih (by omega) (Or.inl rfl)
  refine Declarator.reads_of_core ⟨none,pointers,suffixes,some d⟩ hnames hsuffixes
   (by dsimp only; omega) hrest (wordsEnd_punct _ _) (by simp [inParens]) (by simp) ?_
  refine (reads_declaratorCore_nested hstar hinner).mono fun x hx => ?_
  obtain ⟨d',rfl,hd'⟩:=hx
  exact ⟨rfl,congrArg some hd'⟩

end CCheck
