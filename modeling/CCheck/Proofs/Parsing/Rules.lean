import CCheck.Proofs.Parsing.Sessions
import CCheck.Proofs.Printing.DeclarationRoundTrip

/-! # The rules of the grammar

Two readers that agree where few tokens are left make rules that agree where one token more is left:
a rule passes a token before it reads an inner phrase. It reads the same tree, moved by the
relocation, or refuses for the same cause, and what it reads is booked. -/

set_option autoImplicit false

namespace CCheck

variable {ds:List Declaration} {k:TokenKind} {left:Expr} {ms:List Member} {specs:Specifiers}
 {type:TypeExpr}

def Phrase.passes : Phrase → Bool
 | .declarator abstract => !abstract
 | _ => true

lemma TokenKind.isEof_of_unary? {op:UnaryOp} (h:k.unary? = some op) :
  k.isEof = false := by
 cases k <;> first | rfl | cases h

lemma TokenKind.isEof_of_binary? {op:BinOp × Nat} (h:k.binary? = some op) :
  k.isEof = false := by
 cases k <;> first | rfl | cases h

lemma TokenKind.isEof_of_assign? {op:AssignOp} (h:k.assign? = some op) :
  k.isEof = false := by
 cases k <;> first | rfl | cases h

/-! ### Turns of the loops -/

namespace Grammar

open CCheck.Parser

def stringStep : String × Span → Parser (ForInStep (String × Span)) :=
 fun (value,span) => do
  match ← kind with
  | .string next =>
   let t ← advance
   return .yield (value ++ next,span.merge t.span)
  | _ => return .done (value,span)

def memberStep (r:Reader) (start:Span) (type:TypeExpr) (ms:List Member) :
  Parser (ForInStep (List Member)) := do
 let m ← member r start type
 if ← consume .comma then return .yield (ms ++ m) else return .done (ms ++ m)

def memberListStep (r:Reader) (ms:List Member) : Parser (ForInStep (List Member)) := do
 if (← check .rbrace) || (← atEnd) then return .done ms
 else return .yield (ms ++ (← memberDeclaration r))

def enumeratorStep (r:Reader) (es:List Enumerator) :
  Parser (ForInStep (List Enumerator)) := do
 if (← check .rbrace) || (← atEnd) then return .done es
 else
  let e ← enumerator r
  if ← consume .comma then return .yield (es ++ [e]) else return .done (es ++ [e])

def arrayQualifierStep (_:Unit) : Parser (ForInStep Unit) := do
 match ← kind with
 | .keyword .kwStatic | .keyword .kwConst | .keyword .kwVolatile | .keyword .kwRestrict =>
  let _ ← advance
  return .yield ()
 | _ => return .done ()

def initializerStep (r:Reader) (items:List Initializer) :
  Parser (ForInStep (List Initializer)) := do
 if (← check .rbrace) || (← atEnd) then return .done items
 else
  if (← check .dot) || (← check .lbracket) then unsupported .designators
  let item : Initializer ← r .initializer
  if ← consume .comma then return .yield (items ++ [item])
  else return .done (items ++ [item])

def declaratorStep (r:Reader) (start:Span) (specs:Specifiers) (ds:List Declaration) :
  Parser (ForInStep (List Declaration)) := do
 if ← consume .comma then return .yield (ds ++ [← initDeclarator r start specs])
 else return .done ds

def blockItemStep (r:Reader) (ss:List Stmt) : Parser (ForInStep (List Stmt)) := do
 if (← check .rbrace) || (← atEnd) then return .done ss
 else
  let s : Stmt ← r .statement
  return .yield (ss ++ [s])

end Grammar

open Grammar
open CCheck.Parser (Anywhere Standing At)
open CCheck.Session (Peers)
open CCheck.Session.Goes (advance advanceAt expect expectKeyword ident ident? loop noting)

variable {α β γ:Type} {ρ:Relocation} {K:Session ρ} {B:Nat} {P:TokenStream → Prop}
 {r r':Reader} {n m:K.State}

attribute [local simp] image_iff mapStep Expr.mapSpans Stmt.mapSpans Initializer.mapSpans
 TypeExpr.mapSpans TypeForm.mapSpans RecordSpec.mapSpans Member.mapSpans EnumSpec.mapSpans
 Enumerator.mapSpans Param.mapSpans Suffix.mapSpans Declaration.mapSpans VarDecl.mapSpans
 FunctionDecl.mapSpans TypedefDecl.mapSpans Block.mapSpans External.mapSpans Expr.mapSpansAll_eq
 Initializer.mapSpansAll_eq Stmt.mapSpansAll_eq Expr.mapSpans_span Stmt.mapSpans_span
 Relocation.merge

namespace Session

abbrev ReadsExpr (K:Session ρ) (B:Nat) (x y:Parser Expr) : Prop :=
 K.Reads B true (Expr.mapSpans ρ) (fun n e m => K.Paid n [.expr e] m) x y

abbrev ExtendsExpr (K:Session ρ) (B:Nat) (n m:K.State) (x y:Parser (ForInStep Expr)) : Prop :=
 K.Turns B (fun _ => false) (Expr.mapSpans ρ) m (fun k e => K.Paid n [.expr e] k)
  (fun k e => K.Paid n [.expr e] k) x y

/-- The turns of a loop that collects items of one kind. -/
abbrev Collects (K:Session ρ) (B:Nat) (e:Bool) (f:α → Piece) (ν:α → α)
  (step step':List α → Parser (ForInStep (List α))) : Prop :=
 ∀ {n m xs}, K.Paid n (xs.map f) m → K.Turns B (fun _ => e) (List.map ν) m
  (fun k xs => K.Paid n (xs.map f) k) (fun k xs => K.Paid n (xs.map f) k) (step xs)
  (step' (xs.map ν))

abbrev ReadsDeclarator (K:Session ρ) (B:Nat) (abstract:Bool) (x y:Parser Declarator) :
  Prop :=
 K.Reads B (!abstract) (Declarator.mapSpans ρ)
  (fun n d m => K.Suffixes n d.all m ∧ (∀ i ∈ d.declared?, K.Noted m i.name) ∧
   (abstract = false → d.declared?.isSome = true)) x y

structure Reading (K:Session ρ) (B:Nat) (r r':Reader) : Prop where
 expr : K.ReadsExpr B (r .expr) (r' .expr)
 assignment : K.ReadsExpr B (r .assignment) (r' .assignment)
 conditional : K.ReadsExpr B (r .conditional) (r' .conditional)
 binary : ∀ least, K.ReadsExpr B (r (.binary least)) (r' (.binary least))
 cast : K.ReadsExpr B (r .cast) (r' .cast)
 unary : K.ReadsExpr B (r .unary) (r' .unary)
 specifiers : ∀ allowed, K.Reads B true (Specifiers.mapSpans ρ)
  (fun n specs m => K.Specified n specs.type.form m) (r (.specifiers allowed))
  (r' (.specifiers allowed))
 declarator : ∀ abstract, K.ReadsDeclarator B abstract (r (.declarator abstract))
  (r' (.declarator abstract))
 initializer : K.Reads B true (Initializer.mapSpans ρ)
  (fun n i m => K.Paid n [.initializer i] m) (r .initializer) (r' .initializer)
 statement : K.Reads B true (Stmt.mapSpans ρ) (fun n s m => K.Paid n [.stmt s] m) (r .statement)
  (r' .statement)

end Session

open CCheck.Session (Reading Goes)

/-! ### Specifiers -/

lemma steps_bitField : K.Steps B false (fun u => u) bitField bitField :=
 fun _ => .check (.unsupported _) (.pure rfl rfl rfl)

namespace Session.Reading

lemma member (hr:K.Reading B r r') (start:Span)
  (h:K.Members n type ms m) :
  K.Goes B P (fun _ => true) (Image (List.map (Member.mapSpans ρ))) m
   (fun k new => K.Members n type (ms ++ new) k ∧ new ≠ []) (Grammar.member r start type)
   (Grammar.member r' (ρ start) (type.mapSpans ρ)) := by
 refine steps_bitField.after fun _ => (hr.declarator false).past fun d k hd => ?_
 rw [Declarator.mapSpans_apply ρ.merge]
 have hname:(d.apply type).1.isSome = true:=Declarator.apply_fst d type ▸ hd.2.2 rfl
 cases happly : d.apply type with
 | mk name u =>
  cases name with
  | none =>
   rw [happly] at hname
   cases hname
  | some name =>
   refine steps_bitField.after fun _ => .previous fun last => .pure ?_ rfl (by simp)
   exact ⟨K.members_snoc _ h hd.1 happly,List.cons_ne_nil _ _⟩

lemma memberStep (hr:K.Reading B r r') (start:Span)
  (h:K.Members n type ms m) :
  K.Turns B (fun _ => true) (List.map (Member.mapSpans ρ)) m (fun k ms => K.Members n type ms k)
   (fun k ms => K.Members n type ms k ∧ ms ≠ []) (memberStep r start type ms)
   (memberStep r' (ρ start) (type.mapSpans ρ) (ms.map (Member.mapSpans ρ))) :=
 (hr.member start h).past fun _ _ hnew => .consume (.pure hnew.1 rfl (by simp))
  (.pure ⟨hnew.1,List.append_ne_nil_of_right_ne_nil _ hnew.2⟩ rfl (by simp))

lemma memberDeclaration (hr:K.Reading B r r') :
  K.Reads B true (List.map (Member.mapSpans ρ)) (fun n ms m => K.Paid n (ms.map .member) m)
   (memberDeclaration r) (memberDeclaration r') := by
 refine fun n => .here fun start => (hr.specifiers false).past fun specs m hs => ?_
 exact (loop (fun _ _ => hr.memberStep start) (K.members_nil hs)).after fun ms k hms =>
  (expect _).past fun _ _ => .pure (K.members_done hms.1 hms.2) rfl rfl

lemma memberListStep (hr:K.Reading B r r') :
  K.Collects B false .member (Member.mapSpans ρ) (memberListStep r) (memberListStep r') := by
 intro n m ms h
 refine (Peers.check _).then fun _ => Peers.atEnd.then fun _ => ?_
 split
 · exact .pure h rfl rfl
 · exact hr.memberDeclaration.past fun _ _ hnew => .pure (K.append_map h hnew) rfl (by simp)

/-- A specifier with a keyword, a tag and a list in braces, of which the keyword and the closing
brace are passed for nothing else. -/
lemma bodied (build:Option Ident → Option (List α) → Span → β)
  {step:List α → Parser (ForInStep (List α))} {step':List α → Parser (ForInStep (List α))}
  {f:α → Piece} {ν:α → α} {μ:β → β} {t:Token} {Q:K.State → β → Prop}
  (hitems:K.Collects B false f ν step step') (ht:t.kind.isEof = false)
  (hbuild:∀ tag xs span,
   build (tag.map (Ident.mapSpan ρ)) (xs.map (List.map ν)) (ρ span) = μ (build tag xs span))
  (hnone:∀ tag span, Q (K.earn t.span n) (build tag none span))
  (hsome:∀ {m} tag xs last, K.Paid (K.earn t.span n) (xs.map f) m →
   Q (K.earn last m) (build tag (some xs) (t.span.merge last))) :
  K.Goes (B + 1) (At t) (fun _ => true) (Image μ) n Q (do
    let start ← Parser.advance
    let tag ← Parser.ident?
    let xs ← braced (do
     let xs ← Parser.loop step []
     let _ ← Parser.expect .rbrace
     return xs)
    if tag.isNone && xs.isNone then Parser.refuse .expectedIdent
    return build tag xs (start.span.merge (← Parser.previous)))
   (do
    let start ← Parser.advance
    let tag ← Parser.ident?
    let xs ← braced (do
     let xs ← Parser.loop step' []
     let _ ← Parser.expect .rbrace
     return xs)
    if tag.isNone && xs.isNone then Parser.refuse .expectedIdent
    return build tag xs (start.span.merge (← Parser.previous))) := by
 refine .earning (fun text => ident?.after fun tag => ?_) ht
 simp only [braced,bind_assoc]
 refine .consume ?_ ?_
 · simp only [if_true,bind_assoc,pure_bind,Option.isNone_some,Bool.and_false,
    if_neg Bool.false_ne_true]
   refine (loop (fun _ _ => hitems) (K.nil _)).after fun xs k hxs => ?_
   refine .closing fun last => .pure (hsome tag xs last hxs) rfl ?_
   rw [image_iff,← hbuild,ρ.merge]
   rfl
 · simp only [if_neg Bool.false_ne_true,pure_bind,Option.isNone_map]
   split
   · exact .stop (.refuse _ fun _ => rfl)
   · refine .previous fun last => .pure (hnone tag _) rfl ?_
     rw [image_iff,← hbuild,ρ.merge]
     rfl

lemma recordSpec (hr:K.Reading B r r') (kind:RecordKind) {t:Token}
  (ht:t.kind.isEof = false) :
  K.Goes (B + 1) (At t) (fun _ => true) (Image (RecordSpec.mapSpans ρ)) n
   (fun m spec => K.Specified n (.record spec) m) (recordSpec r kind) (recordSpec r' kind) := by
 refine bodied (RecordSpec.mk kind) hr.memberListStep ht ?_
  (fun tag span => K.recordTag _ _ _ tag span) fun tag _ last h => K.record kind tag last h
 rintro tag (_ | ms) span
 · rfl
 · simp only [Option.map,RecordSpec.mapSpans,Member.mapSpansAll_eq]

lemma enumerator (hr:K.Reading B r r') :
  K.Reads (B + 1) true (Enumerator.mapSpans ρ) (fun n e m => K.Paid n [.enumerator e] m)
   (enumerator r) (enumerator r') := by
 refine fun n => noting.seq fun name name' m hname hm => ?_
 cases hname
 cases hm
 refine .optional hr.conditional fun value m hvalue => ?_
 have hnoted:=K.noted_paid (K.noted n name) hvalue
 refine .declareName _ _ hnoted (.previous fun _ => ?_)
 cases value <;> exact .pure (K.enumerator name _ (K.paid_note hvalue) hnoted) rfl (by simp)

lemma enumeratorStep (hr:K.Reading B r r') : K.Collects (B + 1) false .enumerator
  (Enumerator.mapSpans ρ) (enumeratorStep r) (enumeratorStep r') := by
 intro n m es h
 refine (Peers.check _).then fun _ => Peers.atEnd.then fun _ => ?_
 split
 · exact .pure h rfl rfl
 · exact hr.enumerator.past fun e _ he => .consume (.pure (K.append_one h he) rfl (by simp))
    (.pure (K.append_one h he) rfl (by simp))

lemma enumSpec (hr:K.Reading B r r') {t:Token} (ht:t.kind.isEof = false) :
  K.Goes (B + 1) (At t) (fun _ => true) (Image (EnumSpec.mapSpans ρ)) n
   (fun m spec => K.Specified n (.enum spec) m) (enumSpec r) (enumSpec r') := by
 refine bodied EnumSpec.mk (fun h => (hr.enumeratorStep h).fewer) ht ?_
  (fun tag span => K.enumTag _ _ tag span) fun tag _ last h => K.enum tag last h
 rintro tag (_ | es) span
 · rfl
 · simp only [Option.map,EnumSpec.mapSpans,Enumerator.mapSpansAll_eq]

end Session.Reading

def Session.Named (K:Session ρ) (n m:K.State) : Option TypeForm → Prop
 | none => m = n
 | some f => K.Specified n f m

lemma Session.Named.eq {s:SpecifierState} (h:K.Named n m s.named) (hs:s.hasType = false) :
  m = n := by
 obtain ⟨storage,isInline,quals,counts,_ | f⟩:=s
 · exact h
 · cases hs

abbrev Session.Specifies (K:Session ρ) (B:Nat) (P:TokenStream → Prop)
  (e:SpecifierState → Bool) (n m:K.State) (x y:Parser (ForInStep SpecifierState)) : Prop :=
 K.Goes B P (Parser.turns e) (Image (mapStep (SpecifierState.mapSpans ρ))) m
  (K.Next (fun k s => K.Named n k s.named) fun k s => K.Named n k s.named) x y

section SpecifierSteps

variable {e:SpecifierState → Bool} {s:SpecifierState} {t:Token}

lemma specifies_storageStep (allowed:Bool) (text:String) (c:StorageClass)
  (ht:t.kind.isEof = false) (h:K.Named n m s.named) :
  K.Specifies B (At t) e n m (storageStep allowed t c s)
   (storageStep allowed ⟨t.kind,text,ρ t.span⟩ c (s.mapSpans ρ)) := by
 change K.Goes _ _ _ _ _ _
  (if (!allowed) = true then _ else if s.storage.isSome = true then _ else _)
  (if (!allowed) = true then _ else if s.storage.isSome = true then _ else _)
 split
 · exact .stop (.throw rfl rfl)
 split
 · exact .stop (.throw rfl rfl)
 · exact (advanceAt ht).past fun _ _ => .pure h rfl rfl

lemma specifies_namedStep (text:String) {x y:Parser TypeForm} (h:K.Named n m s.named)
  (hxy:K.Goes B P (fun _ => true) (Image (TypeForm.mapSpans ρ)) n
   (fun k f => K.Specified n f k) x y) :
  K.Specifies B P e n m (namedStep t s x)
   (namedStep ⟨t.kind,text,ρ t.span⟩ (s.mapSpans ρ) y) := by
 unfold namedStep
 rw [SpecifierState.mapSpans_hasType]
 split
 · exact Goes.stop (.throw rfl rfl)
 · rw [h.eq (Bool.eq_false_iff.mpr ‹_›)]
   exact hxy.past fun _ _ hform => .pure hform rfl rfl

lemma specifies_wordStep (w:Keyword) (ht:t.kind.isEof = false) (h:K.Named n m s.named)
  (hs:e s = false) :
  K.Specifies B (At t) e n m (wordStep w s) (wordStep w (s.mapSpans ρ)) := by
 unfold wordStep
 simp only [SpecifierState.mapSpans]
 split
 · exact (advanceAt ht).past fun _ _ => .pure h rfl rfl
 · exact (advanceAt ht).past fun _ _ => .pure h rfl rfl
 · split
   · exact (advanceAt ht).past fun _ _ => .pure h rfl rfl
   · exact Goes.pure h hs rfl

end SpecifierSteps

namespace Session.Reading

lemma keywordStep (hr:K.Reading B r r') {e:SpecifierState → Bool} {s:SpecifierState}
  (allowed:Bool) (w:Keyword) (text text':String) (span:Span) (h:K.Named n m s.named)
  (hs:e s = false) :
  K.Specifies (B + 1) (At ⟨.keyword w,text,span⟩) e n m
   (keywordStep r allowed ⟨.keyword w,text,span⟩ w s)
   (keywordStep r' allowed ⟨.keyword w,text',ρ span⟩ w (s.mapSpans ρ)) := by
 have hrecord (kind:RecordKind) : K.Goes (B + 1) (At ⟨.keyword w,text,span⟩) (fun _ => true)
   (Image (TypeForm.mapSpans ρ)) n (fun k f => K.Specified n f k)
   (.record <$> Grammar.recordSpec r kind) (.record <$> Grammar.recordSpec r' kind) := by
  rw [← bind_pure_comp,← bind_pure_comp]
  exact (hr.recordSpec kind rfl).past fun _ _ hspec => .pure hspec rfl rfl
 have henum:K.Goes (B + 1) (At ⟨.keyword w,text,span⟩) (fun _ => true)
   (Image (TypeForm.mapSpans ρ)) n (fun k f => K.Specified n f k)
   (.enum <$> Grammar.enumSpec r) (.enum <$> Grammar.enumSpec r') := by
  rw [← bind_pure_comp,← bind_pure_comp]
  exact (hr.enumSpec rfl).past fun _ _ hspec => .pure hspec rfl rfl
 unfold Grammar.keywordStep
 split
 · exact specifies_storageStep allowed text' _ rfl h
 · split
   · exact Goes.throw rfl rfl
   · exact Goes.throw rfl rfl
   · exact specifies_namedStep text' h (hrecord .struct)
   · exact specifies_namedStep text' h (hrecord .union)
   · exact specifies_namedStep text' h henum
   · exact specifies_wordStep _ rfl h hs

lemma specifierStep (hr:K.Reading B r r') (allowed:Bool) {s:SpecifierState}
  (h:K.Named n m s.named) :
  K.Turns (B + 1) (fun s' => !s.hasType && s'.hasType) (SpecifierState.mapSpans ρ) m
   (fun k s => K.Named n k s.named) (fun k s => K.Named n k s.named)
   (specifierStep r allowed s) (specifierStep r' allowed (s.mapSpans ρ)) := by
 have hs:(!s.hasType && s.hasType) = false:=Bool.not_and_self _
 refine Goes.currentAt fun kind text text' span => ?_
 dsimp only
 split
 · exact hr.keywordStep allowed _ text text' span h hs
 · refine .isTypeName fun b hb => ?_
   rw [SpecifierState.mapSpans_hasType]
   split
   · rename_i hboth
     obtain ⟨hnone,htype⟩:=Bool.and_eq_true_iff.mp hboth
     obtain rfl:=h.eq ((Bool.not_eq_true' _).mp hnone)
     exact (advanceAt rfl).past fun _ _ => .pure (K.named (hb htype)) rfl rfl
   · exact .pure h hs rfl
 · exact .pure h hs rfl

lemma specifiedForm {s:SpecifierState} (span:Span) (h:K.Named n m s.named) :
  K.Goes B P (fun _ => !s.hasType) (Image (TypeForm.mapSpans ρ)) m (fun k f => K.Specified n f k)
   (specifiedForm s span) (specifiedForm (s.mapSpans ρ) (ρ span)) := by
 unfold Grammar.specifiedForm SpecifierState.hasType
 cases hs : s.named with
 | some form =>
  rw [hs] at h
  simp only [SpecifierState.mapSpans,hs,Option.map]
  split
  · exact .pure h rfl rfl
  · exact .throw rfl rfl
 | none =>
  rw [hs] at h
  simp only [SpecifierState.mapSpans,hs,Option.map]
  split
  · exact .refuse _ fun _ => rfl
  · rename_i hcounts
    obtain rfl : m = n:=h
    split
    · exact .pure (K.base _ _) (by simp [hcounts]) rfl
    · exact .throw rfl rfl

lemma specifiersRule (hr:K.Reading B r r') (allowed:Bool) :
  K.Reads (B + 1) true (Specifiers.mapSpans ρ) (fun n specs m => K.Specified n specs.type.form m)
   (Grammar.specifiers r allowed) (Grammar.specifiers r' allowed) := by
 refine fun n => .here fun start => ?_
 refine (loop (d := fun s s' => !s.hasType && s'.hasType) (μ := SpecifierState.mapSpans ρ)
  (fun s m => hr.specifierStep allowed) (a := .start) (n := n) rfl).bind fun s s' m hs h => ?_
 cases hs
 refine .previous fun last => ?_
 rw [← ρ.merge]
 refine (specifiedForm _ h).bind fun form form' k hform hspec => ?_
 cases hform
 refine .pure hspec ?_ rfl
 cases s.hasType <;> rfl

end Session.Reading

/-! ### Declarators -/

lemma turns_starQualifierStep (q:Qualifiers) (n:K.State) :
  K.Turns B (fun _ => false) (fun q => q) n (fun m _ => m = n) (fun m _ => m = n)
   (starQualifierStep q) (starQualifierStep q) := by
 refine Goes.kind fun w => ?_
 split
 · split
   · exact (advance rfl).past fun _ _ => .pure rfl rfl rfl
   · exact .pure rfl rfl rfl
 · exact .pure rfl rfl rfl

lemma turns_starStep (ps:List (Qualifiers × Span)) (n:K.State) :
  K.Turns B (fun _ => false) (List.map fun p => (p.1,ρ p.2)) n (fun m _ => m = n)
   (fun m _ => m = n) (starStep ps) (starStep (ps.map fun p => (p.1,ρ p.2))) := by
 have hqualifiers:K.Steps B false (fun q => q) starQualifiers starQualifiers:=
  Goes.steps_loop turns_starQualifierStep .none
 refine Goes.check ?_ (.pure rfl rfl rfl)
 exact (advance rfl).past fun _ _ => hqualifiers.after fun _ => .pure rfl rfl (by simp)

lemma steps_stars : K.Steps B false (List.map fun p => (p.1,ρ p.2)) stars stars :=
 Goes.steps_loop turns_starStep []

lemma turns_arrayQualifierStep (u:Unit) (n:K.State) :
  K.Turns B (fun _ => false) (fun u => u) n (fun m _ => m = n) (fun m _ => m = n)
   (arrayQualifierStep u) (arrayQualifierStep u) := by
 refine Goes.kind fun w => ?_
 split
 case h_5 => exact .pure rfl rfl rfl
 all_goals exact (advance rfl).past fun _ _ => .pure rfl rfl rfl

lemma steps_skipArrayQualifiers :
  K.Steps B false (fun u => u) skipArrayQualifiers skipArrayQualifiers :=
 Goes.steps_loop turns_arrayQualifierStep ()

lemma peers_startsNested (abstract:Bool) : K.Peers (startsNested abstract) := by
 unfold startsNested
 cases abstract with
 | false => exact Peers.pure _
 | true =>
  refine Peers.peek?.bind fun w => ?_
  split
  case h_4 => exact (Peers.isTypeName _).bind fun _ => Peers.pure _
  all_goals exact Peers.pure _

namespace Session.Reading

lemma arraySize (hr:K.Reading B r r') :
  K.Reads B false (Prod.map (Option.map (Expr.mapSpans ρ)) id)
   (fun n p m => K.Paid n (p.1.toList.map .expr) m) (arraySize r) (arraySize r') := by
 have size {n P} : K.Goes B P (fun _ => false) (Image (Prod.map (Option.map (Expr.mapSpans ρ)) id))
   n (fun m p => K.Paid n (p.1.toList.map .expr) m)
   (r .assignment >>= fun e : Expr => Pure.pure (some e,!e.isSyntacticConstant))
   (r' .assignment >>= fun e : Expr => Pure.pure (some e,!e.isSyntacticConstant)) :=
  hr.assignment.past fun e _ he => .pure he rfl (by
   rw [image_iff,Expr.mapSpans_isSyntacticConstant]
   rfl)
 refine fun n => .check (.pure (K.nil n) rfl rfl) (.check ?_ ?_)
 · refine (Peers.peeks _).then fun b => ?_
   cases b with
   | true => exact (advance rfl).past fun _ _ => .pure (K.nil n) rfl rfl
   | false => exact size
 · exact (Peers.peeks _).then fun _ => size

lemma arraySuffix (hr:K.Reading B r r') :
  K.Goes (B + 1) (Standing (.punct .lbracket)) (fun _ => true) (Image (Suffix.mapSpans ρ)) n
   (fun m s => K.Suffixes n [s] m) (arraySuffix r) (arraySuffix r') := by
 refine (advance rfl).next fun start _ => steps_skipArrayQualifiers.after fun _ => ?_
 refine hr.arraySize.after fun (size,vla) m hsize => (expect _).past fun _ _ => ?_
 exact .previous fun _ => .pure (K.array vla _ hsize) rfl (by simp)

lemma parameter (hr:K.Reading B r r') :
  K.Reads B true (Param.mapSpans ρ) (fun n p m => K.Paid n [.param p] m) (parameter r)
   (parameter r') := by
 refine fun n => .here fun start => (hr.specifiers true).past fun specs m hs => ?_
 change K.Goes _ _ _ _ _ _ (if (!parameterStorageAllowed specs.storage) = true then _ else _)
  (if (!parameterStorageAllowed specs.storage) = true then _ else _)
 split
 · exact .stop (.throw rfl rfl)
 refine (hr.declarator true).after fun d k hd => ?_
 have hnoted:=hd.2.1
 rw [← Declarator.apply_fst d specs.type] at hnoted
 have hparam (span:Span):=K.param span hs hd.1 hnoted
 simp only [Specifiers.mapSpans,Declarator.mapSpans_apply ρ.merge]
 cases happly : d.apply specs.type with
 | mk name u =>
  rw [happly] at hparam hnoted
  cases name with
  | none => exact .previous fun _ => .pure (hparam _) rfl (by simp)
  | some name =>
   exact .declareName _ _ (hnoted name rfl) (.previous fun _ => .pure (hparam _) rfl (by simp))

lemma parameterStep (hr:K.Reading B r r') {p:List Param × Bool}
  (h:K.Paid n (p.1.map .param) m) :
  K.Turns B (fun _ => true) (Prod.map (List.map (Param.mapSpans ρ)) id) m
   (fun k p => K.Paid n (p.1.map .param) k) (fun k p => K.Paid n (p.1.map .param) k)
   (parameterStep r p) (parameterStep r' (p.map (List.map (Param.mapSpans ρ)) id)) := by
 obtain ⟨ps,variadic⟩:=p
 refine Goes.consume (.pure h rfl rfl) ?_
 exact hr.parameter.past fun p _ hp => .consume (.pure (K.append_one h hp) rfl (by simp))
  (.pure (K.append_one h hp) rfl (by simp))

lemma parameterClause (hr:K.Reading B r r') :
  K.Reads B false (Prod.map (List.map (Param.mapSpans ρ)) id)
   (fun n c m => ∀ span, K.Suffixes n [.function c.1 c.2.1 c.2.2 span] m) (parameterClause r)
   (parameterClause r') := by
 have clause {n P} : K.Goes B P (fun _ => false)
  (Image (Prod.map (List.map (Param.mapSpans ρ)) id))
   n (fun m c => ∀ span, K.Suffixes n [.function c.1 c.2.1 c.2.2 span] m)
   (Parser.inScope (Grammar.parameters r) >>= fun p => Pure.pure (p.1,p.2,true))
   (Parser.inScope (Grammar.parameters r') >>= fun p => Pure.pure (p.1,p.2,true)) := by
  refine (Goes.inScope (loop (d := fun _ _ => true) (fun _ _ => hr.parameterStep)
   (a := ([],false)) (K.nil _))).past fun p m hp => .pure (fun span => ?_) rfl rfl
  obtain ⟨k,rfl,hps⟩:=hp
  exact K.function _ _ span hps
 refine fun n => .check (.pure (fun _ => K.noParams ..) rfl rfl) (.checkKeyword ?_ ?_)
 · refine (Peers.peeks _).then fun b => ?_
   cases b with
   | true => exact (advance rfl).past fun _ _ => .pure (fun _ => K.noParams ..) rfl rfl
   | false => exact clause
 · exact (Peers.peeks _).then fun _ => clause

lemma functionSuffix (hr:K.Reading B r r') :
  K.Goes (B + 1) (Standing (.punct .lparen)) (fun _ => true) (Image (Suffix.mapSpans ρ)) n
   (fun m s => K.Suffixes n [s] m) (functionSuffix r) (functionSuffix r') := by
 refine (advance rfl).next fun start _ => ?_
 refine hr.parameterClause.after fun (ps,variadic,known) m h => (expect _).past fun _ _ => ?_
 exact .previous fun _ => .pure (h _) rfl (by simp)

lemma suffixStep (hr:K.Reading B r r') {ss:List Suffix} (h:K.Suffixes n ss m) :
  K.Turns (B + 1) (fun _ => false) (List.map (Suffix.mapSpans ρ)) m
   (fun k ss => K.Suffixes n ss k) (fun k ss => K.Suffixes n ss k) (suffixStep r ss)
   (suffixStep r' (ss.map (Suffix.mapSpans ρ))) :=
 Goes.check (hr.arraySuffix.past fun _ _ hs => .pure (K.suffixes_append h hs) rfl (by simp))
  (.check (hr.functionSuffix.past fun _ _ hs => .pure (K.suffixes_append h hs) rfl (by simp))
   (.pure h rfl rfl))

lemma declaratorCore (hr:K.Reading B r r') (abstract:Bool) :
  K.Goes (B + 1) P (fun c => c.1.isSome || (!abstract && c.2.isSome))
   (Image (Prod.map (Option.map (Ident.mapSpan ρ)) (Option.map (Declarator.mapSpans ρ)))) n
   (fun m c => K.Suffixes n (c.2.elim [] Declarator.all) m ∧
    (∀ i ∈ c.2.elim c.1 Declarator.declared?, K.Noted m i.name) ∧
    ∀ d ∈ c.2, abstract = false → d.declared?.isSome = true)
   (declaratorCore r abstract) (declaratorCore r' abstract) := by
 refine .kind fun w => ?_
 split
 · refine noting.past fun i m hm => .pure ?_ rfl rfl
   cases hm
   exact ⟨K.suffixes_note (K.suffixes_nil _),fun j hj => Option.mem_some.mp hj ▸ K.noted n i,nofun⟩
 · refine (peers_startsNested abstract).then fun _ => ?_
   split
   · refine (advance rfl).next fun _ _ => (hr.declarator abstract).after fun d m hd => ?_
     refine (expect _).past fun _ _ => .pure ⟨hd.1,hd.2.1,fun d' hd' => ?_⟩ rfl rfl
     cases hd'
     exact hd.2.2
   · exact .pure ⟨K.suffixes_nil n,nofun,nofun⟩ (by simp) rfl
 · exact .pure ⟨K.suffixes_nil n,nofun,nofun⟩ (by simp) rfl

lemma declaratorRule (hr:K.Reading B r r') (abstract:Bool) :
  K.ReadsDeclarator (B + 1) abstract (Grammar.declarator r abstract)
   (Grammar.declarator r' abstract) := by
 refine fun n => steps_stars.after fun pointers => ?_
 refine (hr.declaratorCore abstract).bind fun (name,nested) core' m hcore h => ?_
 cases hcore
 refine (loop (fun _ _ => hr.suffixStep) (K.suffixes_nil m)).after fun ss k hss => ?_
 have hall:=K.suffixes_append h.1 hss
 have hnoted:∀ i ∈ nested.elim name Declarator.declared?, K.Noted k i.name:=
  fun i hi => K.noted_suffixes (h.2.1 i hi) hss
 simp only [Option.isNone_map]
 split
 · exact .stop (.refuse _ fun _ => rfl)
 · rename_i hnamed
   cases nested with
   | none =>
    refine .pure ⟨hall,hnoted,?_⟩ ?_ rfl
    · cases name <;> simp_all [Declarator.declared?]
    · cases abstract <;> cases name <;> simp_all
   | some inner => exact .pure ⟨hall,hnoted,h.2.2 inner rfl⟩ (by cases abstract <;> simp_all) rfl

lemma typeName (hr:K.Reading B r r') :
  K.Reads (B + 1) true (TypeExpr.mapSpans ρ) (fun n t m => K.Paid n [.form t.form] m)
   (typeName r) (typeName r') := by
 refine fun n => (hr.specifiersRule false).past fun specs m hs => ?_
 refine (hr.declaratorRule true).after fun d k hd => ?_
 have hform:=K.typeName hs hd.1
 simp only [Specifiers.mapSpans,Declarator.mapSpans_apply ρ.merge]
 cases happly : d.apply specs.type with
 | mk name u =>
  rw [happly] at hform
  cases name with
  | none => exact .pure hform rfl rfl
  | some name => exact .throw rfl rfl

end Session.Reading

/-! ### Expressions -/

lemma turns_stringStep (p:String × Span) (n:K.State) :
  K.Turns B (fun _ => false) (Prod.map id ρ) n (fun m _ => m = n) (fun m _ => m = n)
   (stringStep p) (stringStep (p.map id ρ)) := by
 obtain ⟨value,span⟩:=p
 refine Goes.kind fun w => ?_
 split
 · exact (advance rfl).past fun _ _ => .pure rfl rfl (by simp)
 · exact .pure rfl rfl rfl

lemma peers_atParenthesizedType : K.Peers atParenthesizedType := by
 refine (Peers.check _).bind fun b => ?_
 split
 · refine Peers.peek?.bind fun w => ?_
   split
   · exact Peers.startsTypeName _
   · exact Peers.pure _
 · exact Peers.pure _

lemma goes_atParenthesizedType {e:α → Bool} {R:α → β → Prop} {Q:K.State → α → Prop}
  {f:Bool → Parser α} {g:Bool → Parser β}
  (yes:K.Goes B (Standing (.punct .lparen)) e R n Q (f true) (g true))
  (no:K.Goes B P e R n Q (f false) (g false)) :
  K.Goes B P e R n Q (atParenthesizedType >>= f) (atParenthesizedType >>= g) := by
 refine .branch peers_atParenthesizedType (M := Standing (.punct .lparen)) (fun s hs => ?_)
  (yes.restrict (Nat.le_refl B) fun _ h => h.2) no
 cases hk : s.stream.current.kind == .punct .lparen with
 | true => exact eq_of_beq hk
 | false =>
  have hno:atParenthesizedType s = .ok false s := by
   have hcheck:Parser.check .lparen s =
     .ok (s.stream.current.kind == .punct .lparen) s := rfl
   unfold atParenthesizedType
   simp only [Bind.bind,EStateM.bind,hcheck,hk]
   rfl
  cases hs.symm.trans hno

namespace Session.Reading

lemma primary (hr:K.Reading B r r') : K.ReadsExpr (B + 1) (primary r) (primary r') := by
 refine fun n => .currentAt fun kind text text' span => ?_
 dsimp only
 split
 · exact .earning (fun _ => .pure (K.ident _ _) rfl rfl) rfl
 · exact (advanceAt rfl).past fun _ _ => .pure (K.children rfl (K.nil n)) rfl rfl
 · exact (advanceAt rfl).past fun _ _ => .pure (K.children rfl (K.nil n)) rfl rfl
 · exact (advanceAt rfl).past fun _ _ => .pure (K.children rfl (K.nil n)) rfl rfl
 · refine (advanceAt rfl).past fun _ _ => ?_
   exact (Goes.steps_loop turns_stringStep (_,span)).after fun _ =>
    .pure (K.children rfl (K.nil n)) rfl rfl
 · exact (advanceAt rfl).next fun _ _ => hr.expr.past fun _ _ he =>
    (expect _).past fun _ _ => .pure he rfl rfl
 · exact .refuse _ fun _ => rfl

lemma argumentStep (hr:K.Reading B r r') :
  K.Collects B true .argument (Expr.mapSpans ρ) (argumentStep r) (argumentStep r') := by
 intro n m es h
 refine hr.assignment.past fun e k he => ?_
 have hmore:=K.append_one h (K.children rfl he)
 exact .consume (.pure hmore rfl (by simp)) (.pure hmore rfl (by simp))

lemma arguments (hr:K.Reading B r r') :
  K.Reads B false (List.map (Expr.mapSpans ρ)) (fun n es m => K.Paid n (es.map .argument) m)
   (arguments r) (arguments r') :=
 fun n => .check (.pure (K.nil n) rfl rfl)
  (loop (d := fun _ _ => true) (fun _ _ => hr.argumentStep) (a := []) (K.nil n)).idle

lemma postfixStep (hr:K.Reading B r r') {e:Expr} (h:K.Paid n [.expr e] m) :
  K.ExtendsExpr (B + 1) n m (postfixStep r e) (postfixStep r' (e.mapSpans ρ)) := by
 refine Goes.kind fun w => ?_
 split
 · refine (advance rfl).next fun _ _ => hr.arguments.after fun args k hargs => ?_
   exact .closing fun last => .pure (K.call last (K.append h hargs)) rfl (by simp)
 · refine (advance rfl).next fun _ _ => hr.expr.past fun i k hi => (expect _).past fun _ _ => ?_
   exact .previous fun _ => .pure (K.children rfl (K.append h hi)) rfl (by simp)
 · exact (advance rfl).past fun _ _ => ident.past fun _ => .pure (K.children rfl h) rfl (by simp)
 · exact (advance rfl).past fun _ _ => ident.past fun _ => .pure (K.children rfl h) rfl (by simp)
 · exact (advance rfl).past fun _ _ => .previous fun _ => .pure (K.children rfl h) rfl (by simp)
 · exact (advance rfl).past fun _ _ => .previous fun _ => .pure (K.children rfl h) rfl (by simp)
 · exact .pure h rfl rfl

lemma postfixed (hr:K.Reading B r r') : K.ReadsExpr (B + 1) (postfixed r) (postfixed r') :=
 fun _ => hr.primary.past fun _ _ he => loop (fun _ _ => hr.postfixStep) he

lemma sizeofOperand (hr:K.Reading B r r') (start:Span) :
  K.ReadsExpr B (sizeofOperand r start) (sizeofOperand r' (ρ start)) := by
 refine fun n => goes_atParenthesizedType ?_ ?_
 · refine (advance rfl).past fun _ _ => hr.typeName.fewer.past fun t m ht => ?_
   exact (expect _).past fun _ _ => .previous fun _ => .pure (K.children rfl ht) rfl (by simp)
 · exact hr.unary.past fun _ _ he => .pure (K.children rfl he) rfl (by simp)

lemma unaryOperand (hr:K.Reading B r r') (op:UnaryOp) :
  K.ReadsExpr B (unaryOperand r op) (unaryOperand r' op) := by
 unfold Grammar.unaryOperand
 split
 · exact hr.unary
 · exact hr.unary
 · exact hr.cast

lemma unaryRule (hr:K.Reading B r r') :
  K.ReadsExpr (B + 1) (Grammar.unary r) (Grammar.unary r') := by
 refine fun n => .current fun kind text text' span => ?_
 dsimp only
 split
 · rename_i op hop
   exact (advance (TokenKind.isEof_of_unary? hop)).next fun _ _ =>
    (hr.unaryOperand op).past fun _ _ he => .pure (K.children rfl he) rfl (by simp)
 · split
   · rename_i h
     rw [eq_of_beq h]
     exact (advance rfl).next fun _ _ => (hr.sizeofOperand span n).idle
   · exact (hr.postfixed n).anywhere

lemma castRule (hr:K.Reading B r r') :
  K.ReadsExpr (B + 1) (Grammar.cast r) (Grammar.cast r') := by
 refine fun n => goes_atParenthesizedType ?_ (hr.unaryRule n)
 refine (advance rfl).next fun start _ => hr.typeName.fewer.past fun t m ht => ?_
 refine (expect _).past fun _ _ => .check (.stop (.unsupported _)) ?_
 exact hr.cast.past fun _ _ he => .pure (K.children rfl (K.append ht he)) rfl (by simp)

lemma binaryStep (hr:K.Reading B r r') (least:Nat)
  (h:K.Paid n [.expr left] m) :
  K.ExtendsExpr (B + 1) n m (binaryStep r least left)
   (binaryStep r' least (left.mapSpans ρ)) := by
 refine Goes.kind fun w => ?_
 split
 · rename_i op p hop
   split
   · exact .pure h rfl rfl
   · exact (advance (TokenKind.isEof_of_binary? hop)).next fun _ _ =>
      (hr.binary _).past fun _ _ he => .pure (K.children rfl (K.append h he)) rfl (by simp)
 · exact .pure h rfl rfl

lemma binaryRule (hr:K.Reading B r r') (least:Nat) :
  K.ReadsExpr (B + 1) (Grammar.binary r least) (Grammar.binary r' least) :=
 fun _ => hr.castRule.past fun _ _ he => loop (fun _ _ => hr.binaryStep least) he

lemma conditionalRule (hr:K.Reading B r r') :
  K.ReadsExpr (B + 1) (Grammar.conditional r) (Grammar.conditional r') := by
 refine fun n => (hr.binaryRule 1).past fun test m htest => .consume_next ?_ (.pure htest rfl rfl)
 refine hr.expr.past fun yes k hyes => (expect _).past fun _ _ => ?_
 exact hr.conditional.past fun _ _ hno =>
  .pure (K.children rfl (K.append htest (K.append hyes hno))) rfl (by simp)

lemma assignmentRule (hr:K.Reading B r r') :
  K.ReadsExpr (B + 1) (Grammar.assignment r) (Grammar.assignment r') := by
 refine fun n => hr.conditionalRule.past fun target m htarget => .kind fun w => ?_
 split
 · rename_i op hop
   exact (advance (TokenKind.isEof_of_assign? hop)).next fun _ _ =>
    hr.assignment.past fun _ _ he => .pure (K.children rfl (K.append htarget he)) rfl (by simp)
 · exact .pure htarget rfl rfl

lemma commaStep (hr:K.Reading B r r') (h:K.Paid n [.expr left] m) :
  K.ExtendsExpr (B + 1) n m (commaStep r left) (commaStep r' (left.mapSpans ρ)) :=
 Goes.consume
  (hr.assignmentRule.past fun _ _ he => .pure (K.children rfl (K.append h he)) rfl (by simp))
  (.pure h rfl rfl)

lemma expression (hr:K.Reading B r r') :
  K.ReadsExpr (B + 1) (expression r) (expression r') :=
 fun _ => hr.assignmentRule.past fun _ _ he => loop (fun _ _ => hr.commaStep) he

lemma initializerStep (hr:K.Reading B r r') : K.Collects B false .initializer
  (Initializer.mapSpans ρ) (initializerStep r) (initializerStep r') := by
 intro n m items h
 refine (Peers.check _).then fun _ => Peers.atEnd.then fun _ => ?_
 split
 · exact .pure h rfl rfl
 · refine (Peers.check _).then fun _ => (Peers.check _).then fun _ => ?_
   dsimp only
   split
   · exact .stop (.unsupported _)
   · exact hr.initializer.past fun _ _ hi => .consume (.pure (K.append_one h hi) rfl (by simp))
      (.pure (K.append_one h hi) rfl (by simp))

lemma initializerRule (hr:K.Reading B r r') :
  K.Reads (B + 1) true (Initializer.mapSpans ρ) (fun n i m => K.Paid n [.initializer i] m)
   (Grammar.initializer r) (Grammar.initializer r') := by
 refine fun n => .check ?_ (hr.assignmentRule.past fun _ _ he => .pure (K.children rfl he) rfl rfl)
 refine (advance rfl).next fun start _ => ?_
 refine (loop (fun _ _ => hr.initializerStep) (a := []) (K.nil n)).after fun _ _ his => ?_
 exact (expect _).past fun _ _ => .previous fun _ => .pure (K.children rfl his) rfl (by simp)

lemma initDeclarator (hr:K.Reading B r r') (start:Span)
  (h:K.Group n specs.type ds m) :
  K.Goes (B + 1) P (fun _ => true) (Image (Declaration.mapSpans ρ)) m
   (fun k d => K.Group n specs.type (ds ++ [d]) k) (initDeclarator r start specs)
   (initDeclarator r' (ρ start) (specs.mapSpans ρ)) := by
 refine (hr.declaratorRule false).past fun d k hd => ?_
 simp only [Specifiers.mapSpans,Declarator.mapSpans_apply ρ.merge]
 cases happly : d.apply specs.type with
 | mk name u =>
  cases name with
  | none => exact .refuse _ fun _ => rfl
  | some name =>
   have hnoted:=hd.2.1 name ((d.apply_fst specs.type).symm.trans (congrArg Prod.fst happly))
   simp only [Option.map,TypeExpr.mapSpans_isFunction,Ident.mapSpan_name,Ident.mapSpan_span]
   split
   · exact .declareName _ _ hnoted (.pure (K.group_typedef _ h hd.1 hnoted happly) rfl (by simp))
   · refine .declareName _ _ hnoted ?_
     split
     · rename_i hfunction
       exact .previous fun _ => .pure (K.group_func _ _ _ h hd.1 hnoted happly hfunction) rfl
        (by simp)
     · refine .optional hr.initializerRule fun init l hinit => .previous fun _ => ?_
       exact .pure (K.group_var _ _ h hd.1 hnoted happly hinit) rfl (by simp)

lemma declaratorStep (hr:K.Reading B r r') (start:Span)
  {j:Nat} (h:K.Group n specs.type ds m ∧ j ≤ ds.length) :
  K.Turns (B + 1) (fun _ => false) (List.map (Declaration.mapSpans ρ)) m
   (fun k ds => K.Group n specs.type ds k ∧ j ≤ ds.length)
   (fun k ds => K.Group n specs.type ds k ∧ j ≤ ds.length) (declaratorStep r start specs ds)
   (declaratorStep r' (ρ start) (specs.mapSpans ρ) (ds.map (Declaration.mapSpans ρ))) :=
 Goes.consume ((hr.initDeclarator start h.1).past fun _ _ hd =>
  .pure ⟨hd,h.2.trans (List.sublist_append_left _ _).length_le⟩ rfl (by simp)) (.pure h rfl rfl)

lemma moreDeclarators (hr:K.Reading B r r') (start:Span)
  {first:Declaration} (h:K.Group n specs.type [first] m) :
  K.Goes (B + 1) P (fun _ => true) (Image (List.map (Declaration.mapSpans ρ))) m
   (fun k ds => K.Declared n ds k) (moreDeclarators r start specs first)
   (moreDeclarators r' (ρ start) (specs.mapSpans ρ) (first.mapSpans ρ)) := by
 refine (loop (fun _ _ => hr.declaratorStep start) (a := [first])
  ⟨h,Nat.le_refl 1⟩).after fun ds k hds => ?_
 exact (expect _).past fun _ _ => .pure (K.group_done hds.1 (List.length_pos_iff.mp hds.2)) rfl rfl

lemma declaration (hr:K.Reading B r r') :
  K.Reads (B + 1) true (List.map (Declaration.mapSpans ρ)) K.Declared (declaration r)
   (declaration r') := by
 refine fun n => .here fun start => (hr.specifiersRule true).past fun specs m hs => ?_
 refine .consume (.pure (K.bare hs) rfl (bareDeclaration_mapSpans ρ specs)) ?_
 exact (hr.initDeclarator start (K.group_nil hs)).past fun _ _ hfirst =>
  (hr.moreDeclarators start hfirst).idle

end Session.Reading

end CCheck
