import CCheck.Proofs.Lexing.Returns

/-! # Endings of lines

Texts that end their lines with a newline alone or with a carriage return before it have the same
tokens or the same fault, where no token goes over the end of a line. -/

set_option autoImplicit false

namespace CCheck

open Lexeme

namespace Cursor

structure Returned (c d:Cursor) : Prop where
 rest : CCheck.Returned c.rest d.rest
 fresh : d.fresh = c.fresh
 clean : '\r' ∉ c.rest

variable {c d:Cursor}

lemma Returned.advance (h:c.Returned d) {n m:Nat}
  (hrest:CCheck.Returned (c.rest.drop n) (d.rest.drop m))
  (hfresh:(c.fresh || (d.rest.take m).contains '\n') =
   (c.fresh || (c.rest.take n).contains '\n')) :
  (advance n c).Returned (advance m d) where
 rest := by
  rw [advance_rest,advance_rest]
  exact hrest
 fresh := by
  rw [advance_fresh,advance_fresh,h.fresh,hfresh]
 clean := by
  rw [advance_rest]
  exact fun hmem => h.clean (List.mem_of_mem_drop hmem)

lemma Returned.begun (h:c.Returned d) :
  Returned { c with fresh := false } { d with fresh := false } :=
 ⟨h.rest,rfl,h.clean⟩

lemma Returned.newline (h:c.Returned d) {r:List Char} (hr:c.rest = '\n' :: r) :
  ∃ e, d.skipGaps = e.skipGaps ∧ (Cursor.advance 1 c).Returned e := by
 have hblank:∀ {e:Cursor} {ch:Char} {cs:List Char}, e.rest = ch :: cs →
   isBlank ch = true → e.skipGaps = (Cursor.advance 1 e).skipGaps := by
  intro e ch cs hrest hch
  have hgap:gap e.fresh e.rest = .item 0 := by
   rw [hrest]
   exact (Gap.View.blank hch).gap_eq
  exact skipGaps_of_item hgap
 have hdrop:c.rest.drop 1 = r := by rw [hr]; rfl
 have htake:(c.rest.take 1).contains '\n' = true := by rw [hr]; rfl
 rcases h.rest with hrest | ⟨r',hr',hrest⟩
 · rw [hr,withReturns_newline] at hrest
   have hnext:(Cursor.advance 1 d).rest = '\n' :: withReturns r := by
    rw [advance_rest,hrest]
    rfl
   refine ⟨Cursor.advance 2 d,(hblank hrest (by decide)).trans (hblank hnext (by decide)),
    h.advance ?_ ?_⟩
   · rw [hdrop,hrest]
     exact Or.inl rfl
   · rw [htake,hrest]
     rfl
 · obtain rfl:=(List.cons.inj (hr'.symm.trans hr)).2
   refine ⟨Cursor.advance 1 d,hblank hrest (by decide),h.advance ?_ ?_⟩
   · rw [hdrop,hrest]
     exact Or.inl rfl
   · rw [htake,hrest]
     rfl

lemma Returned.rest_eq (h:c.Returned d) (hc:∀ r, c.rest ≠ '\n' :: r) :
  d.rest = withReturns c.rest := by
 rcases h.rest with hrest | ⟨r,hr,-⟩
 · exact hrest
 · exact absurd hr (hc r)

lemma gap_newline_eq (fresh:Bool) (r:List Char) : gap fresh ('\n' :: r) = .item 0 :=
 (Gap.View.blank (by decide)).gap_eq

lemma skipGaps_returned (h:c.Returned d) :
  (∀ f, c.skipGaps = .error f → ∃ g, d.skipGaps = .error g ∧ g.cause = f.cause) ∧
  ∀ e, c.skipGaps = .ok e → ∃ e', d.skipGaps = .ok e' ∧ e.Returned e' := by
 fun_induction skipGaps c generalizing d with
 | case1 c hgap =>
  have hrest:=h.rest_eq fun r hr => by
   rw [hr,gap_newline_eq] at hgap
   cases hgap
  have habsent:=gap_returned_absent hgap
  rw [← h.fresh,← hrest] at habsent
  refine ⟨fun f hf => (by cases hf),fun e he => ?_⟩
  obtain rfl:=Except.ok.inj he
  exact ⟨d,skipGaps_of_absent habsent,h⟩
 | case2 c hgap =>
  have hrest:=h.rest_eq fun r hr => by
   rw [hr,gap_newline_eq] at hgap
   cases hgap
  have hunclosed:=gap_returned_unclosed hgap
  rw [← h.fresh,← hrest] at hunclosed
  refine ⟨fun f hf => ?_,fun e he => by cases he⟩
  obtain rfl:=Except.error.inj hf
  exact ⟨_,skipGaps_of_unclosed hunclosed,rfl⟩
 | case3 c extra hgap ih =>
  by_cases hnewline : ∃ r, c.rest = '\n' :: r
  · obtain ⟨r,hr⟩:=hnewline
    obtain ⟨e,hskip,he⟩:=h.newline hr
    rw [hr,gap_newline_eq] at hgap
    obtain rfl:=Gap.item.inj hgap
    rw [hskip]
    exact ih he
  · have hc:∀ r, c.rest ≠ '\n' :: r:=fun r hr => hnewline ⟨r,hr⟩
    have hrest:=h.rest_eq hc
    obtain ⟨extra',hitem,hdrop,hfresh⟩:=gap_returned_item h.clean hc hgap
    rw [← hrest] at hitem hdrop hfresh
    rw [← h.fresh] at hitem
    rw [skipGaps_of_item hitem]
    exact ih (h.advance hdrop hfresh)

inductive Scan.Returned : Scan → Scan → Prop
 | fault {f g:Fault} (cause:g.cause = f.cause) : Returned (.fault f) (.fault g)
 | finish {s s':Span} {c d:Cursor} : Returned (.finish s c) (.finish s' d)
 | token {t u:Token} {c d:Cursor} (line : '\n' ∉ t.text.toList) (kind:u.kind = t.kind)
   (cursor:c.Returned d) : Returned (.token t c) (.token u d)
 | broken {t:Token} {c:Cursor} {g:Fault} (lines : '\n' ∈ t.text.toList)
   (cause:g.cause = t.kind.unclosed) : Returned (.token t c) (.fault g)

lemma scan_returned (h:c.Returned d) : Scan.Returned c.scan d.scan := by
 obtain ⟨herror,hok⟩:=skipGaps_returned h
 unfold scan
 cases hskip : c.skipGaps with
 | error f =>
  obtain ⟨g,hg,hcause⟩:=herror f hskip
  rw [hg]
  exact .fault hcause
 | ok e =>
  obtain ⟨e',he',hreturned⟩:=hok e hskip
  have habsent:=skipGaps_absent hskip
  have hrest:=hreturned.rest_eq fun r hr => by
   rw [hr,gap_newline_eq] at habsent
   cases habsent
  rw [he']
  dsimp only
  cases hcs : e.rest with
  | nil =>
   rw [hcs] at hrest
   have hnil:e'.rest = []:=hrest
   simp only [hnil]
   exact .finish
  | cons ch cs =>
   have hch:ch ≠ '\n' := by
    rintro rfl
    rw [hcs,gap_newline_eq] at habsent
    cases habsent
   rw [hcs,withReturns_cons hch] at hrest
   simp only [hrest]
   have hlexeme:=lexeme_returned hch cs
   unfold take
   cases hread : lexeme ch cs with
   | error answer =>
    rw [hread] at hlexeme
    generalize lexeme ch (withReturns cs) = answer' at hlexeme
    cases hlexeme with
    | error => exact .fault rfl
   | ok answer =>
    obtain ⟨k,n⟩:=answer
    have hpos:=(lexeme_covers ch cs k n hread).1
    rw [hread] at hlexeme
    generalize lexeme ch (withReturns cs) = answer' at hlexeme
    cases hlexeme with
    | ok line same rest =>
     rw [withReturns_cons hch] at same rest
     dsimp only
     rw [Nat.sub_add_cancel hpos]
     refine .token (by rwa [String.toList_ofList]) rfl (hreturned.begun.advance ?_ ?_)
     · exact Or.inl (by rw [hcs,hrest,rest])
     · rw [hcs,hrest,same]
    | broken lines =>
     dsimp only
     rw [Nat.sub_add_cancel hpos]
     exact .broken (by rwa [String.toList_ofList]) rfl

lemma listing_of_fault {f:Fault} (h:c.scan = .fault f) : c.listing = ([],some f) := by
 rw [listing]
 split
 · rename_i f' h'
   obtain rfl:=Scan.fault.inj (h'.symm.trans h)
   rfl
 · simp_all
 · simp_all

lemma listing_of_finish {span:Span} (h:c.scan = .finish span d) :
  c.listing = ([],none) := by
 rw [listing]
 split
 · simp_all
 · rfl
 · simp_all

lemma listing_of_token {t:Token} (h:c.scan = .token t d) :
  c.listing = (t :: d.listing.1,d.listing.2) := by
 rw [listing]
 split
 · simp_all
 · simp_all
 · rename_i t' d' h'
   obtain ⟨rfl,rfl⟩:=Scan.token.inj (h'.symm.trans h)
   rfl

lemma listing_eq_cons {t:Token} {ts:List Token} (h:c.listing.1 = t :: ts) :
  ∃ e, c.scan = .token t e ∧ e.listing.1 = ts := by
 cases hscan : c.scan with
 | fault f =>
  rw [listing_of_fault hscan] at h
  cases h
 | finish span e =>
  rw [listing_of_finish hscan] at h
  cases h
 | token u e =>
  rw [listing_of_token hscan] at h
  obtain ⟨rfl,rfl⟩:=List.cons.inj h
  exact ⟨e,rfl,rfl⟩

lemma tokens_returned (h:c.Returned d) (hline:∀ t ∈ c.listing.1, '\n' ∉ t.text.toList) :
  (∀ ts, c.tokens = .ok ts → ∃ us, d.tokens = .ok us ∧ us.map (·.kind) = ts.map (·.kind)) ∧
  ∀ f, c.tokens = .error f → ∃ g, d.tokens = .error g ∧ g.cause = f.cause := by
 fun_induction tokens c generalizing d with
 | case1 c f hscan =>
  have hboth:=scan_returned h
  rw [hscan] at hboth
  generalize hd : d.scan = found at hboth
  cases hboth with
  | @fault _ g cause =>
   refine ⟨fun ts hts => (by cases hts),fun f' hf' => ⟨g,tokens_of_fault hd,?_⟩⟩
   obtain rfl:=Except.error.inj hf'
   exact cause
 | case2 c span e hscan =>
  have hboth:=scan_returned h
  rw [hscan] at hboth
  generalize hd : d.scan = found at hboth
  cases hboth with
  | finish =>
   refine ⟨fun ts hts => ⟨_,tokens_of_finish hd,?_⟩,fun f hf => by cases hf⟩
   obtain rfl:=Except.ok.inj hts
   rfl
 | case3 c t e hscan _ ih =>
  have hboth:=scan_returned h
  rw [hscan] at hboth
  rw [listing_of_token hscan,List.forall_mem_cons] at hline
  generalize hd : d.scan = found at hboth
  cases hboth with
  | broken lines => exact absurd lines hline.1
  | @token _ u _ d' line kind cursor =>
   obtain ⟨hok,herror⟩:=ih cursor hline.2
   rw [tokens_of_token hd]
   refine ⟨fun ts hts => ?_,fun f hf => ?_⟩
   · cases he : e.tokens with
     | error f =>
      rw [he] at hts
      cases hts
     | ok vs =>
      rw [he] at hts
      obtain rfl:=Except.ok.inj hts
      obtain ⟨us,hus,hkinds⟩:=hok vs he
      refine ⟨u :: us,by rw [hus]; rfl,?_⟩
      rw [List.map_cons,List.map_cons,kind,hkinds]
   · cases he : e.tokens with
     | error f' =>
      rw [he] at hf
      obtain rfl:=Except.error.inj hf
      obtain ⟨g,hg,hcause⟩:=herror f' he
      exact ⟨g,by rw [hg]; rfl,hcause⟩
     | ok vs =>
      rw [he] at hf
      cases hf

lemma tokens_broken (h:c.Returned d) {ts us:List Token} {t:Token}
  (hsplit:c.listing.1 = ts ++ t :: us) (hline:∀ u ∈ ts, '\n' ∉ u.text.toList)
  (hlines : '\n' ∈ t.text.toList) :
  ∃ g, d.tokens = .error g ∧ g.cause = t.kind.unclosed := by
 induction ts generalizing c d with
 | nil =>
  obtain ⟨e,hscan,-⟩:=listing_eq_cons hsplit
  have hboth:=scan_returned h
  rw [hscan] at hboth
  generalize hd : d.scan = found at hboth
  cases hboth with
  | token line => exact absurd hlines line
  | broken _ cause => exact ⟨_,tokens_of_fault hd,cause⟩
 | cons u ts ih =>
  obtain ⟨e,hscan,hrest⟩:=listing_eq_cons hsplit
  rw [List.forall_mem_cons] at hline
  have hboth:=scan_returned h
  rw [hscan] at hboth
  generalize hd : d.scan = found at hboth
  cases hboth with
  | broken lines => exact absurd lines hline.1
  | token _ _ cursor =>
   obtain ⟨g,hg,hcause⟩:=ih cursor hrest hline.2
   exact ⟨g,by rw [tokens_of_token hd,hg]; rfl,hcause⟩

end Cursor

def returnedSource (source:String) : String := String.ofList (withReturns source.toList)

/-- A source without carriage returns, with returns put before all its newlines, has the same kinds
of tokens, or a fault of the same cause, as long as no token goes over the end of a line. The first
token that does makes it fail. -/
theorem tokenize_withReturns (source:String) (h : '\r' ∉ source.toList) :
  ((∀ t ∈ (Cursor.start source).listing.1, '\n' ∉ t.text.toList) →
   (∀ ts, tokenize source = .ok ts →
    ∃ us, tokenize (returnedSource source) = .ok us ∧ us.map (·.kind) = ts.map (·.kind)) ∧
   ∀ f, tokenize source = .error f →
    ∃ g, tokenize (returnedSource source) = .error g ∧ g.cause = f.cause) ∧
  ∀ ts t us, (Cursor.start source).listing.1 = ts ++ t :: us →
   (∀ u ∈ ts, '\n' ∉ u.text.toList) → '\n' ∈ t.text.toList →
   ∃ g, tokenize (returnedSource source) = .error g ∧ g.cause = t.kind.unclosed := by
 have hreturned:(Cursor.start source).Returned (Cursor.start (returnedSource source)) := by
  refine ⟨Or.inl ?_,rfl,h⟩
  exact String.toList_ofList
 exact ⟨fun hline => Cursor.tokens_returned hreturned hline,
  fun ts t us hsplit hline hlines => Cursor.tokens_broken hreturned hsplit hline hlines⟩

/-- A directive, a string and comments, on lines of both kinds; and then a string that is continued
on the next line. -/
theorem tokenize_withReturns_comments :
  '\r' ∉ "#a \\\nb\nx /* \n */ \"y\" // z\n'\\t'".toList ∧
  (∃ us, tokenize "#a \\\r\nb\r\nx /* \r\n */ \"y\" // z\r\n'\\t'" = .ok us ∧
   us.map (·.kind) = [.ident "x",.string "y",.char 9,.eof]) ∧
  ∃ g, tokenize "x \"a\\\r\nb\"" = .error g ∧ g.cause = .unterminatedString := by
 have hclean : '\r' ∉ "#a \\\nb\nx /* \n */ \"y\" // z\n'\\t'".toList := by decide
 have hline : ∀ t ∈ (Cursor.start "#a \\\nb\nx /* \n */ \"y\" // z\n'\\t'").listing.1,
   '\n' ∉ t.text.toList := by
  decide +kernel
 have hkinds : (tokenize "#a \\\nb\nx /* \n */ \"y\" // z\n'\\t'").map (·.map (·.kind)) =
   .ok [.ident "x",.string "y",.char 9,.eof] := by
  decide +kernel
 have hsplit : (Cursor.start "x \"a\\\nb\"").listing.1 = [⟨.ident "x","x",⟨0,1,1,1⟩⟩] ++
   ⟨.string "ab","\"a\\\nb\"",⟨2,8,1,3⟩⟩ :: [] := by
  decide +kernel
 refine ⟨hclean,?_,?_⟩
 · cases hts : tokenize "#a \\\nb\nx /* \n */ \"y\" // z\n'\\t'" with
   | error f =>
    rw [hts] at hkinds
    cases hkinds
   | ok ts =>
    rw [hts] at hkinds
    obtain ⟨us,hus,hsame⟩:=((tokenize_withReturns _ hclean).1 hline).1 ts hts
    exact ⟨us,hus,hsame.trans (Except.ok.inj hkinds)⟩
 · exact (tokenize_withReturns "x \"a\\\nb\"" (by decide)).2 _ _ _ hsplit (by decide) (by decide)

/-- A string that a backslash continues on the next line cannot be read any more when the lines end
with returns. -/
theorem continued_string_broken :
  '\r' ∉ "\"a\\\nb\"".toList ∧
  tokenize "\"a\\\nb\"" =
   .ok [⟨.string "ab","\"a\\\nb\"",⟨0,6,1,1⟩⟩,Token.eof ⟨6,6,2,3⟩] ∧
  returnedSource "\"a\\\nb\"" = "\"a\\\r\nb\"" ∧
  tokenize (returnedSource "\"a\\\nb\"") = .error ⟨.unterminatedString,⟨0,4,1,1⟩⟩ := by
 have hsource : returnedSource "\"a\\\nb\"" = "\"a\\\r\nb\"" := by decide
 refine ⟨by decide,by decide +kernel,hsource,?_⟩
 rw [hsource]
 decide +kernel

end CCheck
