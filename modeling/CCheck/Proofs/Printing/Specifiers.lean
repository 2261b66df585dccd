import CCheck.Proofs.Layout.Relocation
import CCheck.Proofs.Printing.Reads

/-! # Printed specifiers are read back

The words of a base type and the qualifiers before them, and the qualifiers after a star.
-/

set_option autoImplicit false

namespace CCheck

open Grammar

variable {names:TypeNames} {rest:List TokenKind}

def TypeExpr.withoutPlaces (t:TypeExpr) : TypeExpr := t.mapSpans fun _ => .nowhere

/-- What comes next is no keyword, so there are no more specifiers and no qualifiers. -/
def WordsEnd (rest:List TokenKind) : Prop := ∀ k, rest.headD .eof ≠ .keyword k

lemma wordsEnd_punct (p:Punctuator) (rest:List TokenKind) : WordsEnd (.punct p :: rest) := by
 intro k hk
 cases hk

lemma wordsEnd_ident (name:String) (rest:List TokenKind) :
  WordsEnd (.ident name :: rest) := by
 intro k hk
 cases hk

def Qualifiers.keywords (q:Qualifiers) : List Keyword :=
 (if q.isConst then [.kwConst] else []) ++ (if q.isVolatile then [.kwVolatile] else [])
  ++ (if q.isRestrict then [.kwRestrict] else [])

def Qualifiers.print (q:Qualifiers) : List TokenKind := q.keywords.map .keyword

def BaseType.keywords : BaseType → List Keyword
 | void => [.kwVoid]
 | bool => [.kwBool]
 | char => [.kwChar]
 | schar => [.kwSigned,.kwChar]
 | uchar => [.kwUnsigned,.kwChar]
 | short => [.kwShort]
 | ushort => [.kwUnsigned,.kwShort]
 | int => [.kwInt]
 | uint => [.kwUnsigned]
 | long => [.kwLong]
 | ulong => [.kwUnsigned,.kwLong]
 | longLong => [.kwLong,.kwLong]
 | ulongLong => [.kwUnsigned,.kwLong,.kwLong]
 | float => [.kwFloat]
 | double => [.kwDouble]
 | longDouble => [.kwLong,.kwDouble]

def BaseType.print (b:BaseType) : List TokenKind := b.keywords.map .keyword

lemma Opens.words {σ:Type} {start:Parser σ} {step:σ → Parser (ForInStep σ)}
  {add?:σ → Keyword → Option σ}
  (hstep:∀ rest k a a', add? a k = some a' →
   Reads names (step a) [.keyword k] rest fun x => x = .yield a')
  {ts:List TokenKind} (ks:List Keyword) {a a':σ}
  (h:Opens names start step ts (ks.map .keyword ++ rest) (· = a))
  (ha:ks.foldlM add? a = some a') :
  Opens names start step (ts ++ ks.map .keyword) rest (· = a') := by
 induction ks generalizing ts a with
 | nil =>
  obtain rfl : a = a':=Option.some.inj ha
  rw [List.map_nil,List.append_nil]
  exact h
 | cons k ks ih =>
  obtain ⟨a₁,hk,hks⟩:=Option.bind_eq_some_iff.mp ha
  have hnext :
    Opens names start step (ts ++ [.keyword k]) (ks.map .keyword ++ rest) (· = a₁) := by
   refine Opens.next h (by simp) fun b hb => ?_
   rw [hb]
   exact (hstep _ k a a₁ hk).mono fun x hx => ⟨a₁,hx,rfl⟩
  have hall:=ih hnext hks
  rwa [List.append_assoc] at hall

def starQualifierStep (q:Qualifiers) : Parser (ForInStep Qualifiers) := do
 match ← Parser.kind with
 | .keyword k =>
  match q.add? k with
  | some q =>
   let _ ← Parser.advance
   return .yield q
  | none => return .done q
 | _ => return .done q

lemma starQualifiers_eq : starQualifiers = pure .none >>= Parser.loop starQualifierStep := rfl

lemma reads_starQualifierStep (rest:List TokenKind) (k:Keyword) (q q':Qualifiers)
  (h:q.add? k = some q') :
  Reads names (starQualifierStep q) [.keyword k] rest fun x => x = .yield q' := by
 refine Reads.kind.look fun t ht => ?_
 obtain rfl : t = .keyword k:=ht
 dsimp only
 rw [h]
 exact Reads.advance.next fun _ _ => .pure rfl

lemma reads_starQualifierStep_done (hrest:WordsEnd rest) (q:Qualifiers) :
  Reads names (starQualifierStep q) [] rest fun x => x = .done q := by
 refine Reads.kind.look fun t ht => ?_
 cases t with
 | keyword k => exact absurd ht.symm (hrest k)
 | _ => exact .pure rfl

lemma Qualifiers.add_keywords (q:Qualifiers) :
  q.keywords.foldlM Qualifiers.add? .none = some q := by
 obtain ⟨c,v,r⟩:=q
 cases c <;> cases v <;> cases r <;> rfl

lemma reads_starQualifiers (q:Qualifiers) (hrest:WordsEnd rest) :
  Reads names starQualifiers q.print rest fun x => x = q := by
 rw [starQualifiers_eq]
 have hstart:Opens names (pure .none) starQualifierStep [] (q.print ++ rest) (· = .none):=
  .of_start (.pure rfl)
 have hopens:=hstart.words reads_starQualifierStep q.keywords q.add_keywords
 exact hopens.close fun a _ => reads_starQualifierStep_done hrest a

/-! ### Specifiers -/

def SpecifierState.add? (s:SpecifierState) (k:Keyword) : Option SpecifierState :=
 if let some q := s.quals.add? k then some { s with quals := q }
 else (s.counts.add? k).map fun c => { s with counts := c }

lemma reads_specifierStep (r:Reader) (allowed:Bool) (rest:List TokenKind) (k:Keyword)
  (s s':SpecifierState) (h:s.add? k = some s') :
  Reads names (specifierStep r allowed s) [.keyword k] rest fun x => x = .yield s' := by
 refine Reads.current.look fun t ht => ?_
 have hkind:t.kind = .keyword k:=ht
 rw [hkind]
 cases k <;> cases h <;> exact Reads.advance.next fun _ _ => .pure rfl

lemma reads_specifierStep_done (hrest:WordsEnd rest) (r:Reader) (allowed:Bool)
  {s:SpecifierState} (hs:s.hasType = true) :
  Reads names (specifierStep r allowed s) [] rest fun x => x = .done s := by
 refine Reads.current.look fun t ht => ?_
 cases hkind : t.kind with
 | keyword k => exact absurd (ht.symm.trans hkind) (hrest k)
 | ident name =>
  dsimp only
  rw [hs]
  exact .pure rfl
 | _ => exact .pure rfl

/-- What the specifiers come to after qualifiers and the words of a base type. -/
structure SpecifierState.Names (b:BaseType) (q:Qualifiers) (s:SpecifierState) : Prop where
 storage : s.storage = none
 isInline : s.isInline = false
 quals : s.quals = q
 named : s.named = none
 counted : s.counts.isEmpty = false
 base : s.counts.base = .ok b

lemma SpecifierState.Names.hasType {b:BaseType} {q:Qualifiers} {s:SpecifierState}
  (h:s.Names b q) : s.hasType = true := by
 unfold SpecifierState.hasType
 rw [h.named,h.counted]
 rfl

lemma SpecifierState.add_keywords (b:BaseType) (q:Qualifiers) :
  ∃ s, (q.keywords ++ b.keywords).foldlM SpecifierState.add? .start = some s ∧ s.Names b q := by
 have hquals:q.keywords.foldlM SpecifierState.add? .start =
   some { SpecifierState.start with quals := q } := by
  obtain ⟨c,v,r⟩:=q
  cases c <;> cases v <;> cases r <;> rfl
 rw [List.foldlM_append,hquals]
 cases b <;> exact ⟨_,rfl,rfl,rfl,rfl,rfl,rfl,rfl⟩

lemma reads_specifiedForm {b:BaseType} {q:Qualifiers} {s:SpecifierState}
  (hs:s.Names b q) (span:Span) :
  Reads names (specifiedForm s span) [] rest fun form => form = .base b := by
 unfold specifiedForm
 rw [hs.named]
 dsimp only
 rw [hs.counted,if_neg Bool.false_ne_true,hs.base]
 exact .pure rfl

lemma reads_specifiers (b:BaseType) (q:Qualifiers) (hrest:WordsEnd rest) (r:Reader)
  (allowed:Bool) :
  Reads names (specifiers r allowed) (q.print ++ b.print) rest
   fun x => x.storage = none ∧ x.isInline = false ∧
    x.type.withoutPlaces = ⟨.base b,q,.nowhere⟩ := by
 obtain ⟨s,hadd,hs⟩:=SpecifierState.add_keywords b q
 have hprint:q.print ++ b.print = (q.keywords ++ b.keywords).map .keyword:=
  List.map_append.symm
 have hstart:Opens names (pure .start) (specifierStep r allowed) []
   ((q.keywords ++ b.keywords).map .keyword ++ rest) (· = .start) := .of_start (.pure rfl)
 have hopens:=hstart.words (reads_specifierStep r allowed) _ hadd
 have hloop:=hopens.close fun a ha => by
  rw [ha]
  exact reads_specifierStep_done hrest r allowed hs.hasType
 rw [hprint]
 refine Reads.here.look fun _ _ => ?_
 refine Reads.lookAfter hloop fun s' hs' => ?_
 obtain rfl : s' = s:=hs'
 refine Reads.previous.look fun _ _ => ?_
 refine (reads_specifiedForm hs _).look fun form hform => .pure ?_
 refine ⟨hs.storage,hs.isInline,?_⟩
 rw [hform,hs.quals]
 rfl

end CCheck
