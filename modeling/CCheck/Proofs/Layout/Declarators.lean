import CCheck.Proofs.Layout.Relocation

/-! # Moving what declarations are read into -/

set_option autoImplicit false

namespace CCheck

def Suffix.mapSpans (f:Span → Span) : Suffix → Suffix
 | .array size vla s => .array (size.map (·.mapSpans f)) vla (f s)
 | .function params variadic prototyped s =>
  .function (params.map (·.mapSpans f)) variadic prototyped (f s)

def Declarator.mapSpans (f:Span → Span) : Declarator → Declarator
 | ⟨name,pointers,suffixes,none⟩ =>
  ⟨name.map (·.mapSpan f),pointers.map fun p => (p.1,f p.2),
   suffixes.map (·.mapSpans f),none⟩
 | ⟨name,pointers,suffixes,some d⟩ =>
  ⟨name.map (·.mapSpan f),pointers.map fun p => (p.1,f p.2),
   suffixes.map (·.mapSpans f),some (d.mapSpans f)⟩
termination_by structural d => d

def Specifiers.mapSpans (f:Span → Span) (s:Specifiers) : Specifiers :=
 ⟨s.storage,s.isInline,s.type.mapSpans f⟩

def SpecifierState.mapSpans (f:Span → Span) (s:SpecifierState) : SpecifierState :=
 ⟨s.storage,s.isInline,s.quals,s.counts,s.named.map (·.mapSpans f)⟩

section Apply

/-! A map of places that commutes with merging may be put through a declarator and the type
it is applied to, or through the result. -/

variable {f:Span → Span} (hf:∀ a b, f (a.merge b) = (f a).merge (f b))

include hf

lemma TypeExpr.mapSpans_addPointer (t:TypeExpr) (q:Qualifiers) (s:Span) :
  (t.mapSpans f).addPointer q (f s) = (t.addPointer q s).mapSpans f := by
 simp only [addPointer,TypeExpr.mapSpans,TypeForm.mapSpans,TypeExpr.mapSpans_span,hf]

lemma TypeExpr.mapSpans_addSuffix (t:TypeExpr) (s:Suffix) :
  (t.mapSpans f).addSuffix (s.mapSpans f) = (t.addSuffix s).mapSpans f := by
 cases s with
 | array size vla s =>
  cases size <;> simp only [Suffix.mapSpans,addSuffix,TypeExpr.mapSpans,
   TypeForm.mapSpans,TypeExpr.mapSpans_span,hf,Option.map]
 | function params variadic prototyped s =>
  simp only [Suffix.mapSpans,addSuffix,TypeExpr.mapSpans,TypeForm.mapSpans,
   TypeExpr.mapSpans_span,hf,Param.mapSpansAll_eq]

lemma TypeExpr.mapSpans_wrap (t:TypeExpr) (pointers:List (Qualifiers × Span))
  (suffixes:List Suffix) :
  (suffixes.map (·.mapSpans f)).foldr (fun s t => t.addSuffix s)
    ((pointers.map fun p => (p.1,f p.2)).foldl (fun t p => t.addPointer p.1 p.2)
     (t.mapSpans f)) =
   (suffixes.foldr (fun s t => t.addSuffix s)
    (pointers.foldl (fun t p => t.addPointer p.1 p.2) t)).mapSpans f := by
 rw [List.foldl_map,List.foldr_map,
  List.foldl_hom (TypeExpr.mapSpans f)
   (fun t p => TypeExpr.mapSpans_addPointer hf t p.1 p.2)]
 exact (List.foldr_hom (TypeExpr.mapSpans f)
  fun s t => (TypeExpr.mapSpans_addSuffix hf t s))

lemma Declarator.mapSpans_apply : ∀ (d:Declarator) (t:TypeExpr),
  (d.mapSpans f).apply (t.mapSpans f) =
   ((d.apply t).1.map (·.mapSpan f),(d.apply t).2.mapSpans f)
 | ⟨name,pointers,suffixes,none⟩, t => by
  simp only [Declarator.mapSpans,Declarator.apply,TypeExpr.mapSpans_wrap hf]
 | ⟨name,pointers,suffixes,some d⟩, t => by
  simp only [Declarator.mapSpans,Declarator.apply,TypeExpr.mapSpans_wrap hf,
   Declarator.mapSpans_apply d]

end Apply

@[simp] lemma SpecifierState.mapSpans_hasType (f:Span → Span) (s:SpecifierState) :
  (s.mapSpans f).hasType = s.hasType := by
 simp [SpecifierState.hasType,SpecifierState.mapSpans]

lemma Grammar.bareDeclaration_mapSpans (f:Span → Span) (specs:Specifiers) :
  bareDeclaration (specs.mapSpans f) = (bareDeclaration specs).map (·.mapSpans f) := by
 obtain ⟨storage,isInline,form,quals,span⟩:=specs
 cases form with
 | array t size vla => cases size <;> rfl
 | _ => rfl

end CCheck
