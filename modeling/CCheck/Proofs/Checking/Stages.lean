import CCheck.Proofs.Checking.ProgramAccounts
import CCheck.Proofs.Parsing.Inventory
import CCheck.Proofs.Scoping.AllSymbols

/-! # The stages of diagnostics

Scanning finds faults of spelling only, reading the tokens faults of grammar only. The analysis
finds faults of meaning, and one fault that belongs to the grammar: a type name that is read as a
value. -/

set_option autoImplicit false

namespace CCheck

open Check

/-! ### Spelling -/

namespace Lexeme

def Reading.Lexical (r:Reading) : Prop :=
 ∀ cause n, r = Except.error (cause,n) → cause.stage = .lexical

lemma lexical_ok (k:TokenKind) (n:Nat) : Reading.Lexical (Except.ok (k,n)) := by
 intro cause n h
 cases h

lemma lexical_error {cause:Cause} (h:cause.stage = .lexical) (n:Nat) :
  Reading.Lexical (Except.error (cause,n)) := by
 intro cause n h'
 cases h'
 exact h

lemma lexical_flawed (cs:List Char) (n:Nat) (flaw:NumberFlaw) :
  (flawed cs n flaw).Lexical :=
 lexical_error rfl _

lemma lexical_integer (cs digits:List Char) (radix:Radix) (n:Nat) :
  (integer cs digits radix n).Lexical := by
 unfold integer
 dsimp only
 split
 · exact lexical_flawed _ _ _
 · split
   · exact lexical_ok _ _
   · exact lexical_error rfl _

lemma lexical_floating (cs:List Char) (value:Float) (n:Nat) :
  (floating cs value n).Lexical := by
 unfold floating
 dsimp only
 split
 · exact lexical_flawed _ _ _
 · exact lexical_ok _ _

lemma lexical_plainInteger (cs whole:List Char) : (plainInteger cs whole).Lexical := by
 unfold plainInteger
 split
 · split
   · exact lexical_flawed _ _ _
   · exact lexical_integer _ _ _ _
 · exact lexical_integer _ _ _ _

lemma lexical_number (cs:List Char) : (number cs).Lexical := by
 have hhex:(hexadecimal cs).Lexical := by
  unfold hexadecimal
  dsimp only
  split
  · exact lexical_flawed _ _ _
  · exact lexical_integer _ _ _ _
 have hdecimal:(decimal cs).Lexical := by
  unfold decimal
  dsimp only
  split
  · split
    · exact lexical_flawed _ _ _
    · exact lexical_floating _ _ _
  · split
    · exact lexical_floating _ _ _
    · exact lexical_plainInteger _ _
 unfold number
 split
 · exact hhex
 · exact hhex
 · exact hdecimal

lemma lexical_lexeme (ch:Char) (cs:List Char) : (lexeme ch cs).Lexical := by
 unfold lexeme stringLiteral charConstant punctuator
 split
 · exact lexical_ok _ _
 · split
   · exact lexical_number _
   · split
     · split
       · exact lexical_ok _ _
       · exact lexical_error rfl _
     · split
       · split
         · exact lexical_ok _ _
         · exact lexical_error rfl _
         · exact lexical_error rfl _
       · split
         · exact lexical_ok _ _
         · exact lexical_error rfl _

end Lexeme

namespace Cursor

lemma stage_skipGaps {c:Cursor} {f:Fault} (h:c.skipGaps = .error f) :
  f.stage = .lexical := by
 fun_induction skipGaps c with
 | case1 => cases h
 | case2 =>
  cases h
  rfl
 | case3 c extra _ ih => exact ih h

lemma stage_scan {c:Cursor} {f:Fault} (h:c.scan = .fault f) : f.stage = .lexical := by
 unfold scan at h
 split at h
 · rename_i hskip
   cases h
   exact stage_skipGaps hskip
 · split at h
   · cases h
   · rename_i ch cs _
     unfold take at h
     split at h
     · cases h
     · rename_i hlexeme
       cases h
       exact Lexeme.lexical_lexeme ch cs _ _ hlexeme

lemma stage_tokens {c:Cursor} {f:Fault} (h:c.tokens = .error f) : f.stage = .lexical := by
 fun_induction tokens c with
 | case1 c g hscan =>
  cases h
  exact stage_scan hscan
 | case2 => cases h
 | case3 c t d hscan hlt ih =>
  cases htokens : d.tokens with
  | error g =>
   rw [htokens] at h
   cases h
   exact ih htokens
  | ok ts =>
   rw [htokens] at h
   cases h

end Cursor

/-! ### Meaning -/

/-- The names that a program reads as values, and those that it declares as types. -/
structure Vocabulary where
 read : Ident → Prop
 isType : String → Prop

namespace Vocabulary

variable (V:Vocabulary)

def Has : Mark → Prop
 | .value i => V.read i
 | .call i _ => V.read i
 | .typedef d => V.isType d.name.name
 | .definition .. | .again _ | .object _ => True

def typeReadFault (i:Ident) : Fault :=
 ⟨.expectedExpr ("type name '" ++ i.name ++ "'"),i.span⟩

def ExplainsFault (f:Fault) : Prop :=
 f.stage = .semantic ∨ ∃ i, V.read i ∧ V.isType i.name ∧ f = typeReadFault i

def Explains (d:Diagnostic) : Prop :=
 d.stage = .semantic ∨ ∃ i, V.read i ∧ V.isType i.name ∧ d = .ofFault (typeReadFault i)

/-- Type names are declared as such, and no label is a symbol. -/
def Names (x:Symbol) : Prop := x.kind ≠ .label ∧ (x.kind = .type → V.isType x.name)

variable {V}

lemma has_value {i:Ident} {span:Span} (h:V.Has (.call i span)) : V.Has (.value i) := h

lemma ExplainsFault.diagnostic {f:Fault} (h:V.ExplainsFault f) : V.Explains (.ofFault f) := by
 rcases h with h | ⟨i,hread,htype,rfl⟩
 · exact Or.inl h
 · exact Or.inr ⟨i,hread,htype,rfl⟩

structure Describes (V:Vocabulary) (c:Checker) : Prop where
 symbols : c.symbols.All V.Names
 diagnostics : ∀ d ∈ c.diagnostics, V.Explains d
 locals : ∀ f, c.function = some f → ∀ x ∈ f.locals, V.Names x

end Vocabulary

namespace Vocabulary.Describes

variable {V:Vocabulary} {c:Checker}

lemma start (V:Vocabulary) (warnUnused:Bool) : V.Describes (.start warnUnused) := by
 refine ⟨fun s hs x hx => ?_,nofun,nofun⟩
 cases List.mem_singleton.mp hs
 cases hx

lemma setSymbols (h:V.Describes c) {t:SymbolTable} (ht:t.All V.Names) :
  V.Describes { c with symbols := t } :=
 { h with symbols := ht }

lemma declare {x:Symbol} {t:SymbolTable} (h:V.Describes c) (hx:V.Names x)
  (ht:c.symbols.declare x = .ok t) : V.Describes { c with symbols := t } :=
 h.setSymbols (h.symbols.declare hx ht)

lemma report (h:V.Describes c) {f:Fault} (hf:V.ExplainsFault f) :
  V.Describes (c.report f) :=
 { h with
   diagnostics := List.forall_mem_append.mpr
    ⟨h.diagnostics,List.forall_mem_singleton.mpr hf.diagnostic⟩ }

lemma warn (h:V.Describes c) (message:String) (span:Span) :
  V.Describes (c.warn message span) :=
 { h with
   diagnostics := List.forall_mem_append.mpr
    ⟨h.diagnostics,List.forall_mem_singleton.mpr (Or.inl rfl)⟩ }

lemma enterScope (h:V.Describes c) : V.Describes c.enterScope := h.setSymbols h.symbols.enter

lemma leaveScope (h:V.Describes c) : V.Describes c.leaveScope := by
 cases houter : c.symbols.outer with
 | nil =>
  unfold Checker.leaveScope SymbolTable.exit?
  rw [houter]
  exact h
 | cons s ss =>
  rw [leaveScope_of_outer houter]
  have hleft:V.Describes { c with symbols := ⟨s,ss⟩ }:=h.setSymbols (h.symbols.exit houter)
  have hwarned:=warnAboutUnused_keeps (P := V.Describes)
   (fun _ message span h => h.warn message span) c.symbols.current.symbols hleft
  refine { hwarned with locals := fun f hf => ?_ }
  obtain ⟨g,hg,rfl⟩:=Option.map_eq_some_iff.mp hf
  exact List.forall_mem_append.mpr ⟨hwarned.locals g hg,h.symbols _ List.mem_cons_self⟩

end Vocabulary.Describes

def Vocabulary.account (V:Vocabulary) : Account where
 rel ms c o d := (∀ m ∈ Mark.flatAll ms, V.Has m) → V.Describes c →
  V.Describes d ∧ ∀ f, o = some f → V.ExplainsFault f
 refl c _ h := ⟨h,fun _ hf => nomatch hf⟩
 trans h h' hms hc := by
  rw [Mark.flatAll_append] at hms
  obtain ⟨hms,hms'⟩:=List.forall_mem_append.mp hms
  exact h' hms' (h hms hc).1
 mono h hsub hms := h fun m hm => hms m (Mark.flatAll_subset hsub hm)
 recover h hms hc := ⟨(h hms hc).1,fun _ hf => nomatch hf⟩
 refuse c f hf _ hc := ⟨hc,fun _ h => by cases h; exact Or.inl (Cause.stage_of_isOrdinary hf)⟩
 typeRead hx hkind hms hc := by
  refine ⟨hc,fun f hf => ?_⟩
  obtain ⟨⟨hlabel,htype⟩,hname⟩:=hc.symbols.of_lookup? hx
  cases hf
  refine Or.inr ⟨_,hms _ List.mem_cons_self,?_,rfl⟩
  exact hname ▸ htype (hkind.resolve_right hlabel)
 use c i _ hc :=
  ⟨hc.setSymbols (hc.symbols.markUsed (fun _ h => h) i.name),fun _ hf => nomatch hf⟩
 callee h span hms :=
  h (List.forall_mem_singleton.mpr (Vocabulary.has_value (hms _ List.mem_cons_self)))
 call _ _ _ _ hc := ⟨{ hc with },fun _ hf => nomatch hf⟩
 again h hms := by
  rw [Mark.flatAll_again] at hms
  exact h (List.forall_mem_cons.mp hms).2
 enumerator h _ hc := by
  refine ⟨hc.declare ?_ h,fun _ hf => nomatch hf⟩
  exact ⟨nofun,nofun⟩
 tag h _ hc := ⟨hc.setSymbols (hc.symbols.declareTag h),fun _ hf => nomatch hf⟩
 record _ _ _ _ hc := ⟨{ hc with },fun _ hf => nomatch hf⟩
 complete _ _ hc := ⟨{ hc with },fun _ hf => nomatch hf⟩
 defineRecord _ h hms hc := by
  rw [Mark.flatAll_definition] at hms
  exact h (List.forall_mem_cons.mp hms).2 { hc with }
 defineEnum _ h hms hc := by
  rw [Mark.flatAll_definition] at hms
  exact h (List.forall_mem_cons.mp hms).2 { hc with }

lemma Vocabulary.enters (V:Vocabulary) : V.account.Enters where
 declare hx ht _ hc := by
  refine ⟨hc.declare ?_ ht,fun _ hf => nomatch hf⟩
  rcases hx with hx | hx
  · exact ⟨hx ▸ nofun,hx ▸ nofun⟩
  · exact ⟨hx ▸ nofun,hx ▸ nofun⟩
 typedef ht hms hc := by
  refine ⟨hc.declare ?_ ht,fun _ hf => nomatch hf⟩
  exact ⟨nofun,fun _ => hms _ List.mem_cons_self⟩
 redeclare c name g hname hkind _ hc := by
  refine ⟨hc.setSymbols (hc.symbols.updateLocal fun x _ _ hx => ?_),fun _ hf => nomatch hf⟩
  exact ⟨hkind x ▸ hx.1,fun h => hname x ▸ hx.2 (hkind x ▸ h)⟩
 initialized _ _ _ hc := ⟨{ hc with },fun _ hf => nomatch hf⟩

def Vocabulary.program (V:Vocabulary) : ProgramAccount where
 toAccount := V.account
 declaration := V.enters.checkDeclaration
 heading name t storage := V.enters.declareFunction name t storage true
 param _ ht _ hc := by
  refine ⟨hc.declare ?_ ht,fun _ hf => nomatch hf⟩
  exact ⟨nofun,nofun⟩
 jump c f hf _ hc := ⟨hc,fun _ h => by cases h; exact Or.inl (Cause.stage_of_ofJump hf)⟩
 adjust h hadjusted hms hc := by
  obtain ⟨hd,hf⟩:=h hms hc
  cases hadjusted with
  | flow flow switches => exact ⟨{ hd with },hf⟩
  | function hnotes =>
   refine ⟨{ hd with locals := fun f hf => ?_ },hf⟩
   obtain ⟨g,hg,rfl⟩:=Option.map_eq_some_iff.mp hf
   exact (hnotes g).locals ▸ hd.locals g hg
 scope h hms hc := by
  obtain ⟨hd,hf⟩:=h hms hc.enterScope
  exact ⟨hd.leaveScope,hf⟩
 report h hms hc := by
  obtain ⟨hd,hf⟩:=h hms hc
  exact ⟨hd.report (hf _ rfl),fun _ hf => nomatch hf⟩
 warn c message span _ hc := ⟨hc.warn message span,fun _ hf => nomatch hf⟩
 enterFunction _ _ _ _ hc :=
  ⟨{ hc with locals := fun f hf => by cases hf; exact List.forall_mem_nil _ },
   fun _ hf => nomatch hf⟩
 leaveFunction c t _ hc := by
  refine ⟨leaveFunction_keeps (P := V.Describes) (fun d f hf hd => hd.report (Or.inl hf))
   (fun _ hd => { hd with locals := nofun }) (fun _ _ hd => { hd with }) t hc,fun _ hf => nomatch hf⟩

namespace ProgramUnit

def Reads (u:ProgramUnit) (i:Ident) : Prop :=
 .value i ∈ Mark.flatAll u.marks ∨ ∃ span, .call i span ∈ Mark.flatAll u.marks

def DeclaresType (u:ProgramUnit) (n:String) : Prop :=
 ∃ d, .typedef d ∈ Mark.flatAll u.marks ∧ d.name.name = n

def vocabulary (u:ProgramUnit) : Vocabulary := ⟨u.Reads,u.DeclaresType⟩

lemma vocabulary_has (u:ProgramUnit) : ∀ m ∈ Mark.flatAll u.marks, u.vocabulary.Has m := by
 intro m hm
 cases m with
 | value i => exact Or.inl hm
 | call i span => exact Or.inr ⟨span,hm⟩
 | typedef d => exact ⟨d,hm,rfl⟩
 | definition key ms => trivial
 | again ms => trivial
 | object d => trivial

lemma explains_analyze (u:ProgramUnit) (warnUnused:Bool) :
  ∀ d ∈ ((Checker.start warnUnused).analyze u).diagnostics, u.vocabulary.Explains d := by
 exact (u.vocabulary.program.analyze (.start warnUnused) u u.vocabulary_has
  (.start _ warnUnused)).1.diagnostics

end ProgramUnit

lemma Report.diagnostics_push (r:Report) (d:Diagnostic) :
  (r.push d).diagnostics = r.diagnostics ++ [d] := by
 unfold push
 dsimp only
 split <;> rfl

lemma Report.diagnostics_pushAll (r:Report) (ds:List Diagnostic) :
  (r.pushAll ds).diagnostics = r.diagnostics ++ ds := by
 induction ds generalizing r with
 | nil => exact (List.append_nil _).symm
 | cons d ds ih =>
  calc ((r.push d).pushAll ds).diagnostics
      = r.diagnostics ++ [d] ++ ds := by rw [ih,r.diagnostics_push]
    _ = r.diagnostics ++ d :: ds := List.append_assoc _ _ _

section

variable (source file:String) (warnUnused:Bool)

/-- How far a source gets, with its diagnostics: it cannot be scanned, it cannot be parsed, or its
program is analyzed. -/
lemma outcome_of_check :
  (∃ f, tokenize source = .error f ∧ f.stage = .lexical ∧
   (check source file warnUnused).report.diagnostics = [.ofFault f]) ∨
  (∃ ts f, tokenize source = .ok ts ∧ parseTokens ts = .error f ∧ f.stage = .grammatical ∧
   (check source file warnUnused).report.diagnostics = [.ofFault f]) ∨
  ∃ u, parse source = .ok u ∧
   ∀ d ∈ (check source file warnUnused).report.diagnostics, u.vocabulary.Explains d := by
 unfold check parse
 cases hts : tokenize source with
 | error f => exact .inl ⟨f,rfl,Cursor.stage_tokens hts,Report.diagnostics_push _ _⟩
 | ok ts =>
  dsimp only
  cases hu : parseTokens ts with
  | error f =>
   exact .inr (.inl ⟨ts,f,rfl,hu,stage_of_parseTokens hu,Report.diagnostics_push _ _⟩)
  | ok u =>
   refine .inr (.inr ⟨u,rfl,?_⟩)
   change ∀ d ∈ ((Report.start file).pushAll _).diagnostics, _
   rw [Report.diagnostics_pushAll]
   exact u.explains_analyze warnUnused

end

/-- A diagnostic tells the stage that failed, except that the analysis diagnoses a type name which
is read as a value as a fault of grammar. -/
theorem diagnostics_name_stage (source file:String) (warnUnused:Bool) :
  ((∃ d ∈ (check source file warnUnused).report.diagnostics, d.stage = .lexical) ↔
   ∃ f, tokenize source = .error f) ∧
  (∀ ts f, tokenize source = .ok ts → parseTokens ts = .error f →
   ∃ d, d.stage = .grammatical ∧ (check source file warnUnused).report.diagnostics = [d]) ∧
  (∀ d ∈ (check source file warnUnused).report.diagnostics, d.stage = .grammatical →
   (∃ ts f, tokenize source = .ok ts ∧ parseTokens ts = .error f ∧
    (check source file warnUnused).report.diagnostics = [d]) ∨
   ∃ u i, parse source = .ok u ∧ u.Reads i ∧ u.DeclaresType i.name ∧
    d = .ofFault (Vocabulary.typeReadFault i)) ∧
  ∀ u, parse source = .ok u → ∀ d ∈ (check source file warnUnused).report.diagnostics,
   d.stage = .semantic ∨
   ∃ i, u.Reads i ∧ u.DeclaresType i.name ∧ d = .ofFault (Vocabulary.typeReadFault i) := by
 -- Which stage comes last decides all four parts at once.
 rcases outcome_of_check source file warnUnused with
  ⟨f,hf,hstage,hall⟩ | ⟨ts,f,hts,hf,hstage,hall⟩ | ⟨u,hu,hall⟩
 · have hparse:parse source = .error f := by
    unfold parse
    rw [hf]
   rw [hall,hf,hparse]
   refine ⟨⟨fun _ => ⟨f,rfl⟩,fun _ => ⟨_,List.mem_singleton_self _,hstage⟩⟩,
    (fun ts g hts _ => nomatch hts),fun d hd hd' => ?_,fun u hu => nomatch hu⟩
   cases List.mem_singleton.mp hd
   cases hd'.symm.trans hstage
 · have hparse:parse source = .error f := by
    unfold parse
    rw [hts]
    exact hf
   rw [hall,hts,hparse]
   refine ⟨⟨fun ⟨d,hd,hd'⟩ => ?_,fun ⟨g,hg⟩ => nomatch hg⟩,
    fun us g _ _ => ⟨_,hstage,rfl⟩,fun d hd _ => ?_,fun u hu => nomatch hu⟩
   · cases List.mem_singleton.mp hd
     cases hd'.symm.trans hstage
   · cases List.mem_singleton.mp hd
     exact .inl ⟨ts,f,rfl,hf,rfl⟩
 · obtain ⟨ts,hts,hparse⟩:=tokens_of_parse hu
   refine ⟨⟨fun ⟨d,hd,hd'⟩ => ?_,fun ⟨f,hf⟩ => ?_⟩,fun us f hus hf => ?_,
    fun d hd hd' => ?_,fun v hv => ?_⟩
   · rcases hall d hd with h | ⟨i,_,_,rfl⟩
     · cases hd'.symm.trans h
     · cases hd'
   · cases hts.symm.trans hf
   · cases hts.symm.trans hus
     cases hparse.symm.trans hf
   · rcases hall d hd with h | ⟨i,hread,htype,rfl⟩
     · cases hd'.symm.trans h
     · exact .inr ⟨u,i,hu,hread,htype,rfl⟩
   · cases hu.symm.trans hv
     exact hall

/-- The initializer of an object that hides a type reads the type: the program parses, and its one
diagnostic is a fault of grammar. -/
theorem hidden_type_grammatical :
  (check "typedef int T; void f(void) { int T = T; }" "" true).unit.isSome = true ∧
   (check "typedef int T; void f(void) { int T = T; }" "" true).report.diagnostics.map
    (·.stage) = [.grammatical] := by
 decide +kernel

/-- The name that it reads is declared as a type. -/
theorem diagnostics_name_stage_hidden_type :
  ∃ u i, parse "typedef int T; void f(void) { int T = T; }" = .ok u ∧ u.Reads i ∧
   u.DeclaresType i.name ∧
   (check "typedef int T; void f(void) { int T = T; }" "" true).report.diagnostics =
    [.ofFault (Vocabulary.typeReadFault i)] := by
 have hall : (check "typedef int T; void f(void) { int T = T; }" "" true).report.diagnostics =
   [.ofFault (Vocabulary.typeReadFault ⟨"T",⟨38,39,1,39⟩⟩)] := by
  decide +kernel
 have hparsed : (tokenize "typedef int T; void f(void) { int T = T; }").toOption.bind
   (fun ts => (parseTokens ts).toOption.map fun _ => ()) = some () := by
  decide +kernel
 obtain ⟨_,_,h,_⟩ := diagnostics_name_stage "typedef int T; void f(void) { int T = T; }" "" true
 rcases h _ (hall ▸ List.mem_singleton_self _) rfl with
  ⟨ts,f,hts,hf,_⟩ | ⟨u,i,hu,hr,ht,hi⟩
 · rw [hts,Except.toOption,Option.bind_some,hf] at hparsed
   cases hparsed
 · exact ⟨u,i,hu,hr,ht,hall.trans (congrArg (fun d => [d]) hi)⟩

end CCheck
