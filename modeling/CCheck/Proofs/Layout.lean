import Mathlib.Data.List.Forall2
import CCheck.Proofs.Parsing.UnitRules
import CCheck.Proofs.Layout.Analysis

/-! # Layout does not matter

Programs whose tokens are of the same kinds, whatever their places, are read and checked
alike. Each of two token lists is moved to a third one, whose places keep the order of
both. -/

set_option autoImplicit false

namespace CCheck

variable {p:Nat × Nat} {ps:List (Nat × Nat)} {ts us:List Token} {x:Nat}

/-! ### Token lists -/

structure ParserState.Moved (ρ:Relocation) (s t:ParserState) : Prop where
 passed : List.Forall₂ (Token.Moved ρ) s.stream.passed t.stream.passed
 rest : List.Forall₂ (Token.Moved ρ) s.stream.rest t.stream.rest
 finish : t.stream.finish = ρ s.stream.finish
 names : t.names = s.names

lemma Token.Moved.eof {ρ:Relocation} (s:Span) :
  Token.Moved ρ (Token.eof s) (Token.eof (ρ s)) := ⟨rfl,rfl⟩

namespace ParserState.Moved

variable {ρ:Relocation} {s t:ParserState}

lemma current (h:s.Moved ρ t) : Token.Moved ρ s.stream.current t.stream.current := by
 obtain ⟨⟨ps,rest,f⟩,ns⟩:=s
 obtain ⟨⟨qs,rest',g⟩,ms⟩:=t
 obtain ⟨-,hrest,rfl,-⟩:=h
 cases hrest with
 | nil => exact .eof f
 | cons htu _ => exact htu

lemma peek (h:s.Moved ρ t) : t.stream.peek? = s.stream.peek? := by
 obtain ⟨⟨ps,rest,f⟩,ns⟩:=s
 obtain ⟨⟨qs,rest',g⟩,ms⟩:=t
 obtain ⟨-,hrest,-,-⟩:=h
 cases hrest with
 | nil => rfl
 | cons _ hrest =>
  cases hrest with
  | nil => rfl
  | cons htu _ => exact congrArg some htu.kind

lemma previous (h:s.Moved ρ t) : t.stream.previous = ρ s.stream.previous := by
 have hcurrent:=h.current.span
 obtain ⟨⟨ps,rest,f⟩,ns⟩:=s
 obtain ⟨⟨qs,rest',g⟩,ms⟩:=t
 obtain ⟨hpassed,-,-,-⟩:=h
 cases hpassed with
 | nil => exact hcurrent
 | cons htu _ => exact htu.span

lemma advance (h:s.Moved ρ t) :
  Moved ρ { s with stream := s.stream.advance } { t with stream := t.stream.advance } := by
 obtain ⟨⟨ps,rest,f⟩,ns⟩:=s
 obtain ⟨⟨qs,rest',g⟩,ms⟩:=t
 obtain ⟨hpassed,hrest,hfinish,hnames⟩:=h
 cases hrest with
 | nil => exact ⟨hpassed,.nil,hfinish,hnames⟩
 | cons htu hrest => exact ⟨.cons htu hpassed,hrest,hfinish,hnames⟩

lemma mapNames (h:s.Moved ρ t) (f:TypeNames → TypeNames) :
  Moved ρ { s with names := f s.names } { t with names := f t.names } :=
 ⟨h.passed,h.rest,h.finish,congrArg f h.names⟩

lemma ofTokens (h:List.Forall₂ (Token.Moved ρ) ts us)
  (hempty:ts = [] → ρ .nowhere = .nowhere) :
  Moved ρ (ParserState.ofTokens ts) (ParserState.ofTokens us) := by
 obtain rfl | ⟨init,t,rfl⟩:=List.eq_nil_or_concat' ts
 · cases h
   exact ⟨.nil,.nil,(hempty rfl).symm,rfl⟩
 · obtain rfl | ⟨init',u,rfl⟩:=List.eq_nil_or_concat' us
   · simp at h
   have hreverse:=List.forall₂_reverse_iff.mpr h
   simp only [List.reverse_append,List.reverse_singleton,List.singleton_append,
    List.forall₂_cons,List.forall₂_reverse_iff] at hreverse
   obtain ⟨htu,hinit⟩:=hreverse
   simp only [ParserState.ofTokens,TokenStream.ofTokens,List.getLast?_append,
    List.getLast?_singleton,Option.some_or,htu.kind,List.dropLast_concat]
   split
   · exact ⟨.nil,hinit,htu.span,rfl⟩
   · exact ⟨.nil,h,htu.span,rfl⟩

end ParserState.Moved

def Parser.Simulation.moved (ρ:Relocation) : Parser.Simulation ρ where
 rel := ParserState.Moved ρ
 kind h := h.current.kind
 span h := h.current.span
 peek h := h.peek
 previous h := h.previous
 length h := h.rest.length_eq.symm
 isType h name := by rw [h.names]
 advance h := h.advance
 declare h name isType := h.mapNames (·.declare name isType)
 openScope h := h.mapNames (·.openScope)
 closeScope h := h.mapNames (·.closeScope)

lemma parseTokens_moved {ρ:Relocation}
  (h:List.Forall₂ (Token.Moved ρ) ts us) (hempty:ts = [] → ρ .nowhere = .nowhere) :
  (∃ f, parseTokens ts = .error f ∧ parseTokens us = .error (f.mapSpan ρ)) ∨
   ∃ u, parseTokens ts = .ok u ∧ parseTokens us = .ok (u.mapSpans ρ) := by
 unfold parseTokens
 have hrun:=(Parser.Simulation.moved ρ).session.unit () _ _
  (ParserState.Moved.ofTokens h hempty) (Nat.lt_succ_self _) True.intro True.intro
 generalize Parser.unit (.ofTokens ts) = p at hrun
 generalize Parser.unit (.ofTokens us) = q at hrun
 cases hrun with
 | ok answer => exact .inr ⟨_,rfl,congrArg Except.ok answer⟩
 | error => exact .inl ⟨_,rfl,rfl⟩

/-! ### Findings -/

def Diagnostic.withoutPlace (d:Diagnostic) : Diagnostic := { d with line := 0,column := 0 }

/-- Everything that an analysis found out, with all places erased. -/
def Analysis.withoutPlaces (a:Analysis) : Analysis :=
 { a with
   globals := a.globals.map (·.mapSpan fun _ => .nowhere)
   functions := a.functions.map (·.mapSpans fun _ => .nowhere)
   calls := a.calls.map (·.mapSpan fun _ => .nowhere)
   diagnostics := a.diagnostics.map (·.withoutPlace) }

structure Checker.Moved (ρ:Relocation) (c d:Checker) : Prop where
 warnUnused : d.warnUnused = c.warnUnused
 symbols : d.symbols = c.symbols.mapSpans ρ
 records : d.records = c.records
 calls : d.calls = c.calls.map (·.mapSpan ρ)
 definedRecord : ∀ s : Span,
  d.definedRecords.lookup (ρ s).start = c.definedRecords.lookup s.start
 definedEnum : ∀ s : Span,
  d.definedEnums.contains (ρ s).start = c.definedEnums.contains s.start
 initialized : d.initialized = c.initialized
 flow : d.flow = c.flow
 switches : d.switches = c.switches
 function : d.function = c.function.map (·.mapSpans ρ)
 functions : d.functions = c.functions.map (·.mapSpans ρ)
 diagnostics : d.diagnostics.map (·.withoutPlace) = c.diagnostics.map (·.withoutPlace)
 errorCount : d.errorCount = c.errorCount
 warningCount : d.warningCount = c.warningCount
 lastMessage : d.lastMessage = c.lastMessage

namespace Checker.Moved

variable {ρ:Relocation} {c d:Checker}

lemma start (ρ:Relocation) (warnUnused:Bool) :
  Moved ρ (start warnUnused) (start warnUnused) where
 warnUnused := rfl
 symbols := rfl
 records := rfl
 calls := rfl
 definedRecord _ := rfl
 definedEnum _ := rfl
 initialized := rfl
 flow := rfl
 switches := rfl
 function := rfl
 functions := rfl
 diagnostics := rfl
 errorCount := rfl
 warningCount := rfl
 lastMessage := rfl

lemma addDefinedRecord (h:c.Moved ρ d) (s:Span) (id:Nat) :
  Moved ρ { c with definedRecords := (s.start,id) :: c.definedRecords }
   { d with definedRecords := ((ρ s).start,id) :: d.definedRecords } where
 __ := h
 definedRecord x := by
  have hbeq:((ρ x).start == (ρ s).start) = (x.start == s.start) := by
   rw [Bool.eq_iff_iff,beq_iff_eq,beq_iff_eq,ρ.start_eq]
  simp only [List.lookup_cons,hbeq,h.definedRecord x]

lemma addDefinedEnum (h:c.Moved ρ d) (s:Span) :
  Moved ρ { c with definedEnums := s.start :: c.definedEnums }
   { d with definedEnums := (ρ s).start :: d.definedEnums } where
 __ := h
 definedEnum x := by
  have hbeq:((ρ x).start == (ρ s).start) = (x.start == s.start) := by
   rw [Bool.eq_iff_iff,beq_iff_eq,beq_iff_eq,ρ.start_eq]
  simp only [List.contains_cons,hbeq,h.definedEnum x]

lemma addDiagnostic (h:c.Moved ρ d) {x y:Diagnostic}
  (hxy:y.withoutPlace = x.withoutPlace) :
  Moved ρ { c with diagnostics := c.diagnostics ++ [x] }
   { d with diagnostics := d.diagnostics ++ [y] } where
 __ := h
 diagnostics := by simp only [List.map_append,List.map,h.diagnostics,hxy]

lemma report (h:c.Moved ρ d) (f:Fault) :
  Moved ρ (c.report f) (d.report (f.mapSpan ρ)) where
 __ := h.addDiagnostic (x := .ofFault f) (y := .ofFault (f.mapSpan ρ)) rfl
 errorCount := congrArg (· + 1) h.errorCount
 lastMessage := rfl

lemma warn (h:c.Moved ρ d) (message:String) (span:Span) :
  Moved ρ (c.warn message span) (d.warn message (ρ span)) where
 __ := h.addDiagnostic (x := .warning message span) (y := .warning message (ρ span)) rfl
 warningCount := congrArg (· + 1) h.warningCount

lemma warnAboutUnused (h:c.Moved ρ d) (xs:List Symbol) :
  Moved ρ (c.warnAboutUnused xs) (d.warnAboutUnused (xs.map (·.mapSpan ρ))) := by
 have warnings (xs:List Symbol) {c d:Checker} (h:c.Moved ρ d) :
   Moved ρ (xs.foldl (fun c x => c.warn ("unused variable '" ++ x.name ++ "'") x.span) c)
    ((xs.map (·.mapSpan ρ)).foldl
     (fun c x => c.warn ("unused variable '" ++ x.name ++ "'") x.span) d) := by
  induction xs generalizing c d with
  | nil => exact h
  | cons x xs ih => exact ih (h.warn _ _)
 unfold Checker.warnAboutUnused
 rw [h.warnUnused,List.filter_map]
 split
 · exact warnings _ h
 · exact h

lemma outcome (h:c.Moved ρ d) : d.outcome = c.outcome := by
 simp only [Checker.outcome,h.errorCount,h.warningCount,h.lastMessage]

lemma withoutPlaces (h:c.Moved ρ d) :
  d.analysis.withoutPlaces = c.analysis.withoutPlaces := by
 simp only [Checker.analysis,Analysis.withoutPlaces,h.symbols,h.records,h.calls,
  h.functions,h.diagnostics,h.errorCount,h.warningCount,SymbolTable.mapSpans_globals,
  List.map_map,Function.comp_def,Symbol.mapSpan,FunctionInfo.mapSpans,
  LibraryCall.mapSpan]

end Checker.Moved

def Checker.Simulation.moved (ρ:Relocation) : Checker.Simulation ρ where
 rel := Checker.Moved ρ
 symbols h := h.symbols
 records h := h.records
 definedRecord h := h.definedRecord
 definedEnum h := h.definedEnum
 initialized h := h.initialized
 flow h := h.flow
 switches h := h.switches
 function h := h.function
 setSymbols h _ := { h with symbols := rfl }
 setRecords h _ := { h with records := rfl }
 addCall h _ := { h with calls := by simp only [h.calls,List.map_append,List.map] }
 addDefinedRecord h := h.addDefinedRecord
 addDefinedEnum h := h.addDefinedEnum
 setInitialized h _ := { h with initialized := rfl }
 setFlow h _ := { h with flow := rfl }
 setSwitches h _ := { h with switches := rfl }
 setFunction h _ := { h with function := rfl }
 addFunction h _ :=
  { h with functions := by simp only [h.functions,List.map_append,List.map] }
 report h := h.report
 warn h _ _ := h.warn _
 warnAboutUnused h := h.warnAboutUnused

lemma Checker.Moved.analyze (ρ:Relocation) (warnUnused:Bool) (u:ProgramUnit) :
  Checker.Moved ρ ((Checker.start warnUnused).analyze u)
   ((Checker.start warnUnused).analyze (u.mapSpans ρ)) :=
 (Checker.Simulation.moved ρ).analyze (.start ρ warnUnused) u

/-! ### Two layouts of one program -/

def partner (ps:List (Nat × Nat)) (x:Nat) : Nat :=
 ps.foldr (fun p m => if p.1 ≤ x then max p.2 m else m) 0

lemma partner_le {b:Nat} (h:∀ p ∈ ps, p.1 ≤ x → p.2 ≤ b) :
  partner ps x ≤ b := by
 induction ps with
 | nil => exact Nat.zero_le b
 | cons p ps ih =>
  have htail:=ih fun q hq => h q (List.mem_cons_of_mem p hq)
  have hhead:=h p List.mem_cons_self
  simp only [partner,List.foldr_cons]
  split
  · exact max_le (hhead (by assumption)) htail
  · exact htail

lemma le_partner (hp:p ∈ ps)
  (hx:p.1 ≤ x) : p.2 ≤ partner ps x := by
 induction ps with
 | nil => cases hp
 | cons q ps ih =>
  simp only [partner,List.foldr_cons]
  rcases List.mem_cons.mp hp with rfl | hp
  · rw [if_pos hx]
    exact le_max_left _ _
  · have htail:=ih hp
    unfold partner at htail
    split <;> omega

lemma strictMono_add_partner (ps:List (Nat × Nat)) :
  StrictMono fun x => x + partner ps x := by
 intro x y hxy
 have hle:partner ps x ≤ partner ps y:=partner_le fun p hp hx => le_partner hp (by omega)
 dsimp only
 omega

lemma partner_eq
  (h:ps.Pairwise fun p q => p.1 < q.1 ∧ p.2 < q.2) (hp:p ∈ ps) :
  partner ps p.1 = p.2 := by
 have hrefl:∀ q ∈ ps, q.1 ≤ q.1 → q.2 ≤ q.2:=fun _ _ _ => le_rfl
 have hle:partner ps p.1 ≤ p.2:=partner_le fun q hq =>
  List.Pairwise.forall_of_forall_of_flip (R := fun q p : Nat × Nat => q.1 ≤ p.1 → q.2 ≤ p.2)
   hrefl (h.imp fun hqp _ => hqp.2.le) (h.imp fun hpq hqp => absurd hqp hpq.1.not_ge) hq hp
 exact le_antisymm hle (le_partner hp le_rfl)

def Token.joint (p:Token × Token) : Token :=
 ⟨p.1.kind,"",p.1.span.start + p.2.span.start,0,0,0⟩

lemma Token.joint_swap {p:Token × Token} (h:p.1.kind = p.2.kind) :
  Token.joint p.swap = Token.joint p := by
 simp only [Token.joint,Prod.fst_swap,Prod.snd_swap,h,Nat.add_comm]

/-- The first token of each pair stands after those of the earlier pairs, and so does the
second. -/
def Ordered (ps:List (Token × Token)) : Prop :=
 ps.Pairwise fun p q => p.1.span.start < q.1.span.start ∧ p.2.span.start < q.2.span.start

lemma Ordered.swap {ps:List (Token × Token)} (h:Ordered ps) :
  Ordered (ps.map Prod.swap) :=
 List.pairwise_map.mpr (h.imp And.symm)

def jointRelocation (ps:List (Token × Token)) : Relocation :=
 .ofStrictMono _ (strictMono_add_partner
  (ps.map fun p => (p.1.span.start,p.2.span.start)))

lemma Ordered.moved {ps:List (Token × Token)} (h:Ordered ps) :
  List.Forall₂ (Token.Moved (jointRelocation ps)) (ps.map Prod.fst) (ps.map Token.joint) := by
 rw [List.forall₂_map_left_iff,List.forall₂_map_right_iff,List.forall₂_same]
 intro p hp
 have hstarts:(ps.map fun p => (p.1.span.start,p.2.span.start)).Pairwise
   fun p q => p.1 < q.1 ∧ p.2 < q.2 := List.pairwise_map.mpr h
 have hpartner:=partner_eq hstarts (List.mem_map.mpr ⟨p,hp,rfl⟩)
 refine ⟨rfl,?_⟩
 simp only [Token.joint,jointRelocation,Relocation.ofStrictMono,hpartner]

lemma Ordered.parseTokens {ps:List (Token × Token)} (h:Ordered ps) :
  (∃ f, parseTokens (ps.map Prod.fst) = .error f ∧
   parseTokens (ps.map Token.joint) = .error (f.mapSpan (jointRelocation ps))) ∨
  ∃ u, parseTokens (ps.map Prod.fst) = .ok u ∧
   parseTokens (ps.map Token.joint) = .ok (u.mapSpans (jointRelocation ps)) := by
 refine parseTokens_moved h.moved fun hnil => ?_
 rw [List.map_eq_nil_iff.mp hnil]
 rfl

def ProgramUnit.withoutPlaces (u:ProgramUnit) : ProgramUnit := u.mapSpans fun _ => .nowhere

lemma ProgramUnit.withoutPlaces_mapSpans (f:Span → Span) (u:ProgramUnit) :
  (u.mapSpans f).withoutPlaces = u.withoutPlaces :=
 ProgramUnit.mapSpans_mapSpans f (fun _ => .nowhere) u

/-- Token lists that agree in the kinds of their tokens, each in the order of the text,
are refused for the same cause, or have the same tree and the same findings up to
places. -/
theorem verdict_of_kinds (ts us:List Token)
  (hkinds:ts.map (·.kind) = us.map (·.kind))
  (hts:ts.Pairwise fun t u => t.span.start < u.span.start)
  (hus:us.Pairwise fun t u => t.span.start < u.span.start) :
  (∃ f g, parseTokens ts = .error f ∧ parseTokens us = .error g ∧
   f.cause = g.cause ∧ f.message = g.message) ∨
  ∃ t u, parseTokens ts = .ok t ∧ parseTokens us = .ok u ∧
   t.withoutPlaces = u.withoutPlaces ∧
   ∀ warnUnused,
    ((Checker.start warnUnused).analyze t).analysis.withoutPlaces =
     ((Checker.start warnUnused).analyze u).analysis.withoutPlaces ∧
    ((Checker.start warnUnused).analyze t).outcome =
     ((Checker.start warnUnused).analyze u).outcome := by
 have hlength:ts.length = us.length := by simpa using congrArg List.length hkinds
 obtain ⟨ps,rfl,rfl⟩ : ∃ ps : List (Token × Token), ts = ps.map Prod.fst ∧
   us = ps.map Prod.snd :=
  ⟨ts.zip us,(List.map_fst_zip hlength.le).symm,(List.map_snd_zip hlength.ge).symm⟩
 rw [List.pairwise_map] at hts hus
 have hordered:Ordered ps:=hts.and hus
 have hjoint:(ps.map Prod.swap).map Token.joint = ps.map Token.joint := by
  simp only [List.map_map] at hkinds ⊢
  exact List.map_congr_left fun p hp => Token.joint_swap (List.map_inj_left.mp hkinds p hp)
 have hsnd:(ps.map Prod.swap).map Prod.fst = ps.map Prod.snd := by
  simp only [List.map_map,Function.comp_def,Prod.fst_swap]
 have hfirst:=hordered.parseTokens
 have hsecond:=hordered.swap.parseTokens
 rw [hjoint,hsnd] at hsecond
 obtain ⟨f,hf,hf'⟩ | ⟨t,ht,ht'⟩:=hfirst
 · obtain ⟨g,hg,hg'⟩ | ⟨u,hu,hu'⟩:=hsecond
   · have hcause:=congrArg Fault.cause (Except.error.inj (hf'.symm.trans hg'))
     exact .inl ⟨f,g,hf,hg,hcause,congrArg Cause.message hcause⟩
   · cases hf'.symm.trans hu'
 · obtain ⟨g,hg,hg'⟩ | ⟨u,hu,hu'⟩:=hsecond
   · cases ht'.symm.trans hg'
   · have htu:=Except.ok.inj (ht'.symm.trans hu')
     refine .inr ⟨t,u,ht,hu,?_,fun warnUnused => ?_⟩
     · have herased:=congrArg ProgramUnit.withoutPlaces htu
       rwa [ProgramUnit.withoutPlaces_mapSpans,ProgramUnit.withoutPlaces_mapSpans] at herased
     · have hfst:=Checker.Moved.analyze (jointRelocation ps) warnUnused t
       have hsnd:=Checker.Moved.analyze (jointRelocation (ps.map Prod.swap)) warnUnused u
       rw [← htu] at hsnd
       exact ⟨hfst.withoutPlaces.symm.trans hsnd.withoutPlaces,
        hfst.outcome.symm.trans hsnd.outcome⟩

/-- `struct { int a; } x, y;` with its tokens `step` offsets apart: the two declarators
share a specifier, which is known by its place. -/
def spacedDeclaration (step:Nat) : List Token :=
 [.keyword .kwStruct,.punct .lbrace,.keyword .kwInt,.ident "a",.punct .semicolon,
  .punct .rbrace,.ident "x",.punct .comma,.ident "y",.punct .semicolon].mapIdx
  fun i k => ⟨k,"",⟨step * i,step * i + 1,1,.ofNat (step * i + 1)⟩⟩

theorem verdict_of_kinds_spaced :
  ∃ t u, parseTokens (spacedDeclaration 1) = .ok t ∧
   parseTokens (spacedDeclaration 9) = .ok u ∧
   ((Checker.start true).analyze t).analysis.withoutPlaces =
    ((Checker.start true).analyze u).analysis.withoutPlaces := by
 obtain ⟨f,_,hf,-⟩ | ⟨t,u,ht,hu,-,h⟩:=
  verdict_of_kinds (spacedDeclaration 1) (spacedDeclaration 9) (by decide) (by decide)
   (by decide)
 · have hok:(parseTokens (spacedDeclaration 1)).isOk = true := by decide +kernel
   rw [hf] at hok
   cases hok
 · exact ⟨t,u,ht,hu,(h true).1⟩

end CCheck
