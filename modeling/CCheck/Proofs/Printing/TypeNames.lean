import CCheck.Proofs.Printing.Printer
import CCheck.Proofs.Printing.Specifiers

/-! # Printed type names are read back -/

set_option autoImplicit false

namespace CCheck

open Grammar

variable {names:TypeNames} {rest:List TokenKind}

lemma BaseType.print_of_keyword? {b:BaseType} {k:Keyword} (h:b.keyword? = some k) :
  b.print = [.keyword k] := by
 cases b <;> cases h <;> rfl

def starStep (ps:List (Qualifiers × Span)) :
  Parser (ForInStep (List (Qualifiers × Span))) := do
 if ← Parser.check .star then
  let star ← Parser.advance
  let q ← starQualifiers
  return .yield (ps ++ [(q,star.span)])
 else return .done ps

lemma stars_eq : stars = pure [] >>= Parser.loop starStep := rfl

lemma reads_starStep (q:Qualifiers) (hrest:WordsEnd rest) (ps:List (Qualifiers × Span)) :
  Reads names (starStep ps) (.punct .star :: q.print) rest
   fun x => ∃ qs, x = .yield qs ∧ ∃ span, qs = ps ++ [(q,span)] := by
 refine (Reads.check .star).look fun b hb => ?_
 obtain rfl : b = true:=hb
 refine Reads.advance.next fun t _ => ?_
 refine (reads_starQualifiers q hrest).lookAfter fun q' hq' => .pure ?_
 exact ⟨_,rfl,t.span,by rw [hq']⟩

lemma reads_starStep_done (hrest:rest.headD .eof ≠ .punct .star)
  (ps:List (Qualifiers × Span)) :
  Reads names (starStep ps) [] rest fun x => x = .done ps := by
 refine (Reads.check .star).look fun b hb => ?_
 obtain rfl : b = false:=hb.trans (beq_false_of_ne hrest)
 exact .pure rfl

def StarsName (b:BaseType) (t:TypeExpr) (ps:List (Qualifiers × Span)) : Prop :=
 ∀ u : TypeExpr, u.withoutPlaces = ⟨.base b,.none,.nowhere⟩ →
  (ps.foldl (fun t p => t.addPointer p.1 p.2) u).withoutPlaces = t.withoutPlaces

lemma TypeExpr.Simple.opens {t:TypeExpr} (ht:t.Simple) :
  ∃ b k us, b.keyword? = some k ∧ t.print = .keyword k :: us ∧
   (∀ rest, WordsEnd rest → WordsEnd (us ++ rest)) ∧
   ∀ rest, WordsEnd rest → Opens names (pure []) starStep us rest (StarsName b t) := by
 induction ht with
 | @base b k span hb =>
  refine ⟨b,k,[],hb,?_,fun _ h => h,fun rest _ => .of_start (.pure fun u hu => hu)⟩
  simp only [TypeExpr.print,TypeForm.print,hb,Option.map_some,Option.toList_some]
 | @pointer t span _ ih =>
  obtain ⟨b,k,us,hb,hprint,hnext,hopens⟩:=ih
  refine ⟨b,k,us ++ [.punct .star],hb,?_,?_,fun rest hrest => ?_⟩
  · simp only [TypeExpr.print,TypeForm.print,hprint,List.cons_append]
  · intro rest _
    rw [List.append_assoc]
    exact hnext _ (wordsEnd_punct _ _)
  · refine (hopens _ (wordsEnd_punct .star rest)).next (by simp) fun ps hps => ?_
    refine (reads_starStep .none hrest ps).mono fun x hx => ?_
    obtain ⟨_,rfl,span,rfl⟩:=hx
    refine ⟨_,rfl,fun u hu => ?_⟩
    have hinner:=hps u hu
    rw [List.foldl_append]
    simp only [List.foldl_cons,List.foldl_nil,TypeExpr.addPointer,TypeExpr.withoutPlaces,
     TypeExpr.mapSpans,TypeForm.mapSpans] at hinner ⊢
    rw [hinner]

lemma reads_suffixes (r:Reader) :
  Reads names (suffixes r) [] (.punct .rparen :: rest) fun ss => ss = [] := by
 refine Reads.loop_done ?_
 refine (Reads.check .lbracket).look fun b hb => ?_
 obtain rfl : b = false:=hb
 refine (Reads.check .lparen).look fun b hb => ?_
 obtain rfl : b = false:=hb
 exact .pure rfl

lemma reads_declaratorCore (r:Reader) :
  Reads names (declaratorCore r true) [] (.punct .rparen :: rest) fun x => x = (none,none) := by
 refine Reads.kind.look fun k hk => ?_
 obtain rfl : k = .punct .rparen:=hk
 exact .pure rfl

lemma reads_typeName {t:TypeExpr} (ht:t.Simple) (r:Reader) :
  Reads names (typeName r) t.print (.punct .rparen :: rest)
   fun u => u.withoutPlaces = t.withoutPlaces := by
 obtain ⟨b,k,us,hb,hprint,hnext,hopens⟩:=ht.opens
 have hrparen:=wordsEnd_punct .rparen rest
 have hstars:Reads names stars us (.punct .rparen :: rest) (StarsName b t) := by
  rw [stars_eq]
  exact (hopens _ hrparen).close fun ps _ => reads_starStep_done (by simp) ps
 have hdeclarator:Reads names (declarator r true) us (.punct .rparen :: rest)
   fun d => ∃ ps, d = ⟨none,ps,[],none⟩ ∧ StarsName b t ps := by
  refine hstars.lookAfter fun ps hps => ?_
  refine (reads_declaratorCore r).look fun x hx => ?_
  rw [hx]
  refine (reads_suffixes r).look fun ss hss => ?_
  rw [hss]
  exact .pure ⟨ps,rfl,hps⟩
 have hspecifiers:=@reads_specifiers names _ b .none (hnext _ hrparen) r false
 rw [BaseType.print_of_keyword? hb] at hspecifiers
 rw [hprint]
 refine Reads.next hspecifiers fun specs hspecs => ?_
 refine hdeclarator.lookAfter fun d hd => ?_
 obtain ⟨ps,rfl,hps⟩:=hd
 exact .pure (hps _ hspecs.2.2)

end CCheck
