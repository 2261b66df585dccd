import CCheck.Proofs.Checking.SymbolRules
import CCheck.Proofs.Checking.TermLogic

/-! # Checking in lockstep

A coupling is a relation of states that the primitive steps of checking keep, while places move.
Checking a tree and the moved tree from two related states gives the same answer or the same fault,
and related states again. -/

set_option autoImplicit false

namespace CCheck

open Check

variable {α β:Type} {name:String}

def Allows (M:String → NameUse → Prop) (ms:List Mention) : Prop := ∀ m ∈ ms, M m.name m.use

section Allows

variable {M:String → NameUse → Prop} {ms ms':List Mention}

lemma allows_append : Allows M (ms ++ ms') ↔ Allows M ms ∧ Allows M ms' :=
 List.forall_mem_append

lemma allows_cons {m:Mention} : Allows M (m :: ms) ↔ M m.name m.use ∧ Allows M ms :=
 List.forall_mem_cons

lemma allows_all (ms:List Mention) : Allows (fun _ _ => True) ms := fun _ _ => trivial

lemma allows_toExpr : Allows M (ms.map .toExpr) ↔ Allows M ms := List.forall_mem_map

lemma allows_toParams : Allows M (ms.map .toParams) ↔ Allows M ms := List.forall_mem_map

lemma allows_flatMap {γ:Type} {f:γ → List Mention} {l:List γ} :
  Allows M (l.flatMap f) ↔ ∀ a ∈ l, Allows M (f a) := by
 simp only [Allows,List.forall_mem_flatMap]

lemma TypeExpr.mentions_eq (t:TypeExpr) : t.mentions = t.form.mentions := by cases t; rfl

lemma allows_params {ps:List Param} :
  Allows M (Param.mentionsAll ps) ↔ ∀ p ∈ ps, Allows M p.type.form.mentions := by
 induction ps with
 | nil => simp [Param.mentionsAll,Allows]
 | cons p ps ih =>
  obtain ⟨name,type,span⟩:=p
  rw [Param.mentionsAll,allows_append,ih,List.forall_mem_cons,TypeExpr.mentions_eq]

lemma allows_members {ms:List Member} :
  Allows M (Member.mentionsAll ms) ↔ ∀ m ∈ ms, Allows M m.type.form.mentions := by
 induction ms with
 | nil => simp [Member.mentionsAll,Allows]
 | cons m ms ih =>
  obtain ⟨name,type,span⟩:=m
  rw [Member.mentionsAll,allows_append,ih,List.forall_mem_cons,TypeExpr.mentions_eq]

lemma allows_enumerators {es:List Enumerator} :
  Allows M (Enumerator.mentionsAll es) ↔ ∀ e ∈ es, Allows M (Enumerator.mentionsAll [e]) := by
 induction es with
 | nil => simp [Enumerator.mentionsAll,Allows]
 | cons e es ih =>
  rw [← List.singleton_append,Enumerator.mentionsAll_append,allows_append,ih,
   List.singleton_append,List.forall_mem_cons]

end Allows

@[simp] def Piece.Allowed (M:String → NameUse → Prop) : Piece → Prop
 | expr e | argument e => Allows M e.mentions
 | form f => Allows M f.mentions
 | param p => Allows M p.type.form.mentions
 | member m => Allows M m.type.form.mentions
 | enumerator e => Allows M (Enumerator.mentionsAll [e])
 | initializer i => Allows M i.mentions
 | _ => False

attribute [local simp] allows_append allows_cons allows_toExpr allows_toParams allows_flatMap
 Expr.mentionsAll_eq Initializer.mentionsAll_eq allows_params allows_members
 TypeExpr.mentions_eq Expr.mentions TypeForm.mentions Initializer.mentions in
lemma Piece.Allowed.children {M:String → NameUse → Prop} {p:Piece} (h:p.Allowed M) :
  ∀ q ∈ p.children, q.Allowed M := by
 revert h
 fun_cases Piece.children p
 case case17 spec =>
  obtain ⟨kind,tag,members,span⟩:=spec
  cases members <;> simp +contextual [RecordSpec.mentions]
 case case18 spec =>
  obtain ⟨tag,es,span⟩:=spec
  cases es with
  | none => simp
  | some es =>
   intro h q hq
   obtain ⟨e,he,rfl⟩:=List.mem_map.mp hq
   exact allows_enumerators.mp h e he
 case case20 t size vla => cases size <;> simp +contextual
 case case24 e =>
  obtain ⟨name,value,span⟩:=e
  cases value <;> simp +contextual [Enumerator.mentionsAll]
 all_goals simp +contextual

lemma Piece.Allowed.constant {M:String → NameUse → Prop} {e:Enumerator}
  (h:(Piece.enumerator e).Allowed M) : M e.name.name .constant := by
 obtain ⟨name,value,span⟩:=e
 cases value with
 | none => exact (allows_cons.mp h).1
 | some _ => exact (allows_cons.mp (allows_append.mp h).2).1

inductive Paired (S:Checker → Checker → Prop) (E:Fault → Checker → Checker → Prop) :
  EStateM.Result Fault Checker α → EStateM.Result Fault Checker α → Prop
 | ok {a:α} {c d:Checker} (state:S c d) : Paired S E (.ok a c) (.ok a d)
 | error {f:Fault} {c d:Checker} (state:E f c d) : Paired S E (.error f c) (.error f d)

inductive Tracks (ρ:Relocation) (S:Checker → Checker → Prop)
  (E:Fault → Checker → Checker → Prop) :
  EStateM.Result Fault Checker α → EStateM.Result Fault Checker α → Prop
 | ok {a:α} {c d:Checker} (state:S c d) : Tracks ρ S E (.ok a c) (.ok a d)
 | error {f:Fault} {c d:Checker} (state:E f c d) :
   Tracks ρ S E (.error f c) (.error (f.mapSpan ρ) d)

lemma Tracks.run {ρ:Relocation} {S:Checker → Checker → Prop}
  {E:Fault → Checker → Checker → Prop} {p q:EStateM.Result Fault Checker α}
  (h:Tracks ρ S E p q) :
  (∃ a c d, p = .ok a c ∧ q = .ok a d ∧ S c d) ∨
   ∃ f c d, p = .error f c ∧ q = .error (f.mapSpan ρ) d ∧ E f c d := by
 cases h with
 | ok state => exact .inl ⟨_,_,_,rfl,rfl,state⟩
 | error state => exact .inr ⟨_,_,_,rfl,rfl,state⟩

section Updates

variable {S:Checker → Checker → Prop} {E:Fault → Checker → Checker → Prop} {c d:Checker}
 {f:SymbolTable → Except Fault SymbolTable}

lemma tracks_ok {t t':SymbolTable} (hc:f c.symbols = .ok t) (hd:f d.symbols = .ok t')
  (h:S { c with symbols := t } { d with symbols := t' }) :
  Tracks .identity S E (updateSymbols f c) (updateSymbols f d) := by
 unfold updateSymbols
 rw [hc,hd]
 exact .ok h

lemma tracks_error {e:Fault} (hc:f c.symbols = .error e) (hd:f d.symbols = .error e)
  (h:E e c d) : Tracks .identity S E (updateSymbols f c) (updateSymbols f d) := by
 unfold updateSymbols
 rw [hc,hd]
 exact .error (f := e) h

end Updates

def Symbol.sense (x:Symbol) : SymbolKind × CType := (x.kind,x.type)

/-- A relation of states with the same records, also after both have got the same ones. -/
structure Checker.Pairing (ρ:Relocation) where
 rel : Checker → Checker → Prop
 records : ∀ {c d}, rel c d → d.records = c.records
 definedRecord : ∀ {c d}, rel c d → ∀ s : Span,
  d.definedRecords.lookup (ρ s).start = c.definedRecords.lookup s.start
 definedEnum : ∀ {c d}, rel c d → ∀ s : Span,
  d.definedEnums.contains (ρ s).start = c.definedEnums.contains s.start
 setRecords : ∀ {c d}, rel c d → ∀ r, rel { c with records := r } { d with records := r }
 addCall : ∀ {c d}, rel c d → ∀ x,
  rel { c with calls := c.calls ++ [x] } { d with calls := d.calls ++ [x.mapSpan ρ] }
 addDefinedRecord : ∀ {c d}, rel c d → ∀ (s:Span) (id:Nat),
  rel { c with definedRecords := (s.start,id) :: c.definedRecords }
   { d with definedRecords := ((ρ s).start,id) :: d.definedRecords }
 addDefinedEnum : ∀ {c d}, rel c d → ∀ s : Span,
  rel { c with definedEnums := s.start :: c.definedEnums }
   { d with definedEnums := (ρ s).start :: d.definedEnums }

/-- A relation of states that checking keeps while places are moved. `M` says of a name whether it
may be looked up, be used as the name of a type, or be declared as an enumerator. -/
structure Coupling (ρ:Relocation) (M:String → NameUse → Prop) extends Checker.Pairing ρ where
 failed : Fault → Checker → Checker → Prop
 recover : ∀ {f c d}, failed f c d → rel c d
 refuse : ∀ {c d}, rel c d → ∀ {cause:Cause}, cause.isUnknownType = false → ∀ span,
  failed ⟨cause,span⟩ c d
 unknown : ∀ {c d}, rel c d → ∀ {name}, M name .type →
  ((c.symbols.lookup? name).any (·.kind == .type)) = false → ∀ span,
  failed ⟨.unknownTypeName name,span⟩ c d
 lookup? : ∀ {c d}, rel c d → ∀ {name use}, M name use →
  (d.symbols.lookup? name).map Symbol.sense = (c.symbols.lookup? name).map Symbol.sense
 level : ∀ {c d}, rel c d → d.symbols.level = c.symbols.level
 tag? : ∀ {c d}, rel c d → ∀ name, d.symbols.tag? name = c.symbols.tag? name
 tagLocal? : ∀ {c d}, rel c d → ∀ name, d.symbols.tagLocal? name = c.symbols.tagLocal? name
 markUsed : ∀ {c d}, rel c d → ∀ {name}, M name .value →
  rel { c with symbols := c.symbols.markUsed name } { d with symbols := d.symbols.markUsed name }
 declareConstant : ∀ {c d}, rel c d → ∀ {name:Ident}, M name.name .constant → ∀ v,
  Tracks ρ rel failed (Check.declareConstant name v c)
   (Check.declareConstant (name.mapSpan ρ) v d)
 declareTag : ∀ {c d}, rel c d → ∀ (tag:Ident) t,
  Tracks ρ rel failed (Check.declareTag tag t c) (Check.declareTag (tag.mapSpan ρ) t d)

namespace Coupling

variable {ρ:Relocation} {M:String → NameUse → Prop} (T:Coupling ρ M)

def Lockstep (x y:Check α) : Prop := ∀ c d, T.rel c d → Tracks ρ T.rel T.failed (x c) (y d)

abbrev Keeps (x:Check α) : Prop := T.Lockstep x x

/-! ### Programs -/

variable {T}

namespace Lockstep

lemma pure (a:α) : T.Keeps (pure a) := fun _ _ h => .ok h

lemma bind {x y:Check α} {k l:α → Check β} (h:T.Lockstep x y)
  (hk:∀ a, T.Lockstep (k a) (l a)) : T.Lockstep (x >>= k) (y >>= l) := by
 intro c d hcd
 have hxy:=h c d hcd
 simp only [Bind.bind,EStateM.bind]
 generalize x c = p at hxy
 generalize y d = q at hxy
 cases hxy with
 | ok state => exact hk _ _ _ state
 | error state => exact .error state

lemma get {k l:Checker → Check α} (h:∀ c d, T.rel c d → T.Lockstep (k c) (l d)) :
  T.Lockstep (get >>= k) (get >>= l) :=
 fun c d hcd => h c d hcd c d hcd

lemma read {f g:Checker → α} (h:∀ c d, T.rel c d → g d = f c) :
  T.Lockstep (do return f (← MonadState.get)) (do return g (← MonadState.get)) := by
 refine get fun c d hcd => ?_
 rw [h c d hcd]
 exact pure _

lemma modify {f g:Checker → Checker} (h:∀ c d, T.rel c d → T.rel (f c) (g d)) :
  T.Lockstep (modify f) (modify g) :=
 fun c d hcd => .ok (h c d hcd)

end Lockstep

variable (T)

lemma fail {cause:Cause} (h:cause.isUnknownType = false) (span:Span) :
  T.Lockstep (Check.fail cause span:Check α) (Check.fail cause (ρ span)) :=
 fun _ _ hcd => .error (f := ⟨cause,span⟩) (T.refuse hcd h span)

lemma attempt {x y:Check α} {k l:Except Fault α → Check β} (h:T.Lockstep x y)
  (hok:∀ a, T.Lockstep (k (.ok a)) (l (.ok a)))
  (herror:∀ f, T.Lockstep (k (.error f)) (l (.error (f.mapSpan ρ)))) :
  T.Lockstep (attempt x >>= k) (attempt y >>= l) := by
 intro c d hcd
 have hxy:=h c d hcd
 simp only [Check.attempt,Bind.bind,EStateM.bind]
 generalize x c = p at hxy
 generalize y d = q at hxy
 cases hxy with
 | ok state => exact hok _ _ _ state
 | error state => exact herror _ _ _ (T.recover state)

lemma lookup {use:NameUse} (h:M name use) {k l:Option Symbol → Check α}
  (none:T.Lockstep (k none) (l none))
  (some:∀ x y : Symbol, y.kind = x.kind → y.type = x.type →
   T.Lockstep (k (some x)) (l (some y))) :
  T.Lockstep (Check.lookup? name >>= k) (Check.lookup? name >>= l) := by
 intro c d hcd
 change Tracks ρ T.rel T.failed (k (c.symbols.lookup? name) c) (l (d.symbols.lookup? name) d)
 have hsense:=T.lookup? hcd h
 cases hc : c.symbols.lookup? name with
 | none =>
  rw [hc] at hsense
  rw [Option.map_eq_none_iff.mp hsense]
  exact none c d hcd
 | some x =>
  rw [hc] at hsense
  obtain ⟨y,hy,hxy⟩:=Option.map_eq_some_iff.mp hsense
  rw [hy]
  exact some x y (congrArg Prod.fst hxy) (congrArg Prod.snd hxy) c d hcd

lemma newRecord (kind:RecordKind) (tag:Option String) : T.Keeps (newRecord kind tag) := by
 refine Lockstep.get fun c d hcd => ?_
 rw [T.records hcd]
 exact Lockstep.bind (.modify fun _ _ h => T.setRecords h _) fun _ => .pure _

lemma newTaggedRecord (kind:RecordKind) (tag:Ident) :
  T.Lockstep (newTaggedRecord kind tag) (newTaggedRecord kind (tag.mapSpan ρ)) :=
 (T.newRecord kind _).bind fun _ =>
  Lockstep.bind (fun _ _ hcd => T.declareTag hcd tag _) fun _ => .pure _

lemma namedType (h:M name .type) (span:Span) :
  T.Lockstep (namedType name span) (namedType name (ρ span)) := by
 intro c d hcd
 have hsense:=T.lookup? hcd h
 have hfound (c:Checker) : Check.lookup? name c = .ok (c.symbols.lookup? name) c:=rfl
 simp only [Check.namedType,bind,EStateM.bind,hfound]
 cases hx : c.symbols.lookup? name with
 | none =>
  rw [hx] at hsense
  rw [Option.map_eq_none_iff.mp hsense]
  exact .error (f := ⟨_,span⟩) (T.unknown hcd h (by rw [hx]; rfl) span)
 | some x =>
  rw [hx] at hsense
  obtain ⟨y,hy,hxy⟩:=Option.map_eq_some_iff.mp hsense
  obtain ⟨hkind,htype⟩:=Prod.ext_iff.mp hxy
  simp only [Symbol.sense] at hkind htype
  simp only [hy,hkind,htype]
  split
  · exact .ok hcd
  · rename_i hkind
    refine .error (f := ⟨_,span⟩) (T.unknown hcd h ?_ span)
    rw [hx]
    exact (Bool.not_eq_true _).mp hkind

lemma completeRecord (id:Nat) (members:List (String × CType)) (span:Span) :
  T.Lockstep (completeRecord id members span) (completeRecord id members (ρ span)) := by
 intro c d hcd
 unfold Check.completeRecord
 rw [T.records hcd]
 cases h : c.records.complete id members with
 | ok r =>
  rw [Registry.completeInPlace_ok h]
  exact .ok (T.setRecords hcd r)
 | error flaw =>
  have hsame:{ d with records := c.records } = d := by rw [← T.records hcd]
  rw [Registry.completeInPlace_error h]
  dsimp only
  rw [hsame]
  exact .error (f := ⟨_,span⟩) (T.refuse hcd rfl _)

lemma typeName (t:CType) : T.Keeps (typeName t) :=
 Lockstep.read fun _ _ h => by rw [T.records h]

/-! ### Trees -/

def steps : StepLogic ρ where
 Holds _ _ x y _ := T.Lockstep x y
 tracks := False
 Known name := M name .value
 pure _ := .pure _
 fail h := T.fail (Cause.isUnknownType_of_isPlain h)
 failNaming t _ h span := (T.typeName t).bind fun a =>
  T.fail (Cause.isUnknownType_of_isPlain (h a)) span
 failNamingBoth t u _ h span := (T.typeName t).bind fun a => (T.typeName u).bind fun b =>
  T.fail (Cause.isUnknownType_of_isPlain (h a b)) span
 bind {_ _ _ _ _ x} _ _ _ _ _ h hk c d hcd := by
  have hxy:=h c d hcd
  simp only [Bind.bind,EStateM.bind]
  obtain ⟨a,c',d',hx,hy,hcd'⟩ | ⟨f,c',d',hx,hy,hcd'⟩:=hxy.run
  · rw [hx,hy]
    exact hk a ⟨c,c',hx⟩ _ _ hcd'
  · rw [hx,hy]
    exact .error hcd'
 weaken h _ _ := h
 look _ _ h c d hcd := h c d (.of_eq (T.records hcd) (T.level hcd)) c d hcd
 lookup h := T.lookup h
 attempt h hok herror := T.attempt h hok fun _ => herror _ _

lemma specifiers : T.steps.Specifiers where
 newRecord kind tag := T.newRecord kind tag
 newTaggedRecord kind tag := T.newTaggedRecord kind tag
 declareEnum tag _ _ hcd := T.declareTag hcd tag _
 look _ _ h c d hcd := h c d ⟨T.tag? hcd,T.tagLocal? hcd,T.records hcd⟩ c d hcd
 definedRecord span := .read fun _ _ h => T.definedRecord h span
 markRecord span id _ := .modify fun _ _ h => T.addDefinedRecord h span id
 completeRecord id members span _ := T.completeRecord id members span
 isEnumDefined span := .read fun _ _ h => T.definedEnum h span
 markEnum span := .modify fun _ _ h => T.addDefinedEnum h span

lemma names : T.steps.Names where
 misread _ span := T.fail rfl span
 markUsed h := .modify fun _ _ hcd => T.markUsed hcd h
 recordCall _ span := .modify fun _ _ hcd => T.addCall hcd ⟨_,_,span⟩

def logic : TermLogic ρ where
 __ := T.steps
 Admits := Piece.Allowed M
 child h := h.children _
 known h := (allows_cons.mp h).1
 identType h := T.names.identType (κ := []) (μ := []) (allows_cons.mp h).1
 ident h := T.names.ident (κ := []) (μ := []) (allows_cons.mp h).1
 calleeType h hx span := T.names.calleeType (κ := []) (μ := []) (fun i hi => by
  cases hi
  exact (allows_cons.mp h).1) (hx (κ := [])) span
 namedType h span := T.namedType (allows_cons.mp h).1 span
 referRecord _ := T.specifiers.referRecord (κ := []) (μ := []) _ _
 defineRecord _ h := T.specifiers.defineRecord (κ := []) (μ := []) (h (κ := []))
 referEnum _ := T.specifiers.referEnum (κ := []) (μ := []) _
 defineEnum _ h := T.specifiers.defineEnum (κ := []) (μ := []) (h (κ := []))
 declareConstant h v _ _ hcd := T.declareConstant hcd (Piece.Allowed.constant h) v

section Identity

variable {M:String → NameUse → Prop} (T:Coupling .identity M) {e:Expr}

lemma keeps_checkExpr (h:Allows M e.mentions) : T.Keeps (checkExpr e) := by
 have hrun:T.Lockstep (checkExpr e) (checkExpr (e.mapSpans id)):=T.logic.checkExpr (κ := []) h
 rwa [Expr.mapSpans_id] at hrun

lemma keeps_evalConst (h:Allows M e.mentions) : T.Keeps (evalConst e) := by
 have hrun:T.Lockstep (evalConst e) (evalConst (e.mapSpans id)):=T.logic.evalConst (κ := []) h
 rwa [Expr.mapSpans_id] at hrun

lemma keeps_isNull (e:Expr) (t:CType) {x:Check Int64} (h:T.Keeps x) : T.Keeps (isNull e t x) := by
 have hrun:T.Lockstep (isNull e t x) (isNull (e.mapSpans id) t x):=
  StepLogic.Holds.isNull (L := T.steps) (κ := []) (μ := []) e t h
 rwa [Expr.mapSpans_id] at hrun

lemma keeps_rvalue (h:Allows M e.mentions) : T.Keeps (rvalue e) :=
 (T.keeps_checkExpr h).bind fun _ => .pure _

lemma keeps_checkInitializer (t:CType) {i:Initializer} (h:Allows M i.mentions) :
  T.Keeps (checkInitializer t i) := by
 have hrun:T.Lockstep (checkInitializer t i) (checkInitializer t (i.mapSpans id)):=
  T.logic.checkInitializer (κ := []) h False.elim
 rwa [Initializer.mapSpans_id] at hrun

end Identity

end Coupling

/-! ### Assertions -/

structure Assertion (M:String → NameUse → Prop) where
 holds : Checker → Prop
 failed : Fault → Checker → Prop
 recover : ∀ {f c}, failed f c → holds c
 refuse : ∀ {c}, holds c → ∀ {cause:Cause}, cause.isUnknownType = false → ∀ span,
  failed ⟨cause,span⟩ c
 unknown : ∀ {c}, holds c → ∀ {name}, M name .type →
  ((c.symbols.lookup? name).any (·.kind == .type)) = false → ∀ span,
  failed ⟨.unknownTypeName name,span⟩ c
 markUsed : ∀ {c}, holds c → ∀ name, holds { c with symbols := c.symbols.markUsed name }
 declareConstant : ∀ {c}, holds c → ∀ {name:Ident}, M name.name .constant → ∀ {v t},
  c.symbols.declare (.fresh name (.constant v) .int none true) = .ok t →
  holds { c with symbols := t }
 declareTag : ∀ {c}, holds c → ∀ {name tag span t},
  c.symbols.declareTag name tag span = .ok t → holds { c with symbols := t }
 setRecords : ∀ {c}, holds c → ∀ r, holds { c with records := r }
 addCall : ∀ {c}, holds c → ∀ x, holds { c with calls := c.calls ++ [x] }
 addDefinedRecord : ∀ {c}, holds c → ∀ o : Nat × Nat,
  holds { c with definedRecords := o :: c.definedRecords }
 addDefinedEnum : ∀ {c}, holds c → ∀ o : Nat, holds { c with definedEnums := o :: c.definedEnums }

namespace Assertion

variable {M:String → NameUse → Prop} (A:Assertion M)

def ofSymbols (P:SymbolTable → Prop)
  (markUsed:∀ {t}, P t → ∀ name, P (t.markUsed name))
  (declare:∀ {t t'} {name:Ident} {v}, P t → M name.name .constant →
   t.declare (.fresh name (.constant v) .int none true) = .ok t' → P t')
  (declareTag:∀ {t t' name tag span}, P t → t.declareTag name tag span = .ok t' → P t') :
  Assertion M where
 holds c := P c.symbols
 failed _ c := P c.symbols
 recover := id
 refuse h _ _ _ := h
 unknown h _ _ _ _ := h
 markUsed h name := markUsed h name
 declareConstant h _ hname _ _ ht := declare h hname ht
 declareTag h _ _ _ _ ht := declareTag h ht
 setRecords h _ := h
 addCall h _ := h
 addDefinedRecord h _ := h
 addDefinedEnum h _ := h

inductive Leaves : EStateM.Result Fault Checker α → Prop
 | ok {a:α} {c:Checker} (state:A.holds c) : Leaves (.ok a c)
 | error {f:Fault} {c:Checker} (state:A.failed f c) : Leaves (.error f c)

def Kept (x:Check α) : Prop := ∀ c, A.holds c → A.Leaves (x c)

variable {A} {x:Check α} {k:α → Check β}

namespace Kept

lemma of_ok (h:A.Kept x) {c d:Checker} {a:α} (hc:A.holds c) (hx:x c = .ok a d) : A.holds d := by
 have hd:=h c hc
 rw [hx] at hd
 cases hd with
 | ok state => exact state

lemma of_error (h:A.Kept x) {c d:Checker} {f:Fault} (hc:A.holds c) (hx:x c = .error f d) :
  A.failed f d := by
 have hd:=h c hc
 rw [hx] at hd
 cases hd with
 | error state => exact state

lemma pure (a:α) : A.Kept (pure a) := fun _ h => .ok h

lemma fail {cause:Cause} (h:cause.isUnknownType = false) (span:Span) :
  A.Kept (Check.fail cause span:Check α) := fun _ hc => .error (A.refuse hc h span)

lemma andThen (h:A.Kept x) (hk:∀ a, x.Returns a → A.Kept (k a)) : A.Kept (x >>= k) := by
 intro c hc
 simp only [Bind.bind,EStateM.bind]
 cases hx : x c with
 | ok a d => exact hk a ⟨c,d,hx⟩ d (h.of_ok hc hx)
 | error f d => exact .error (h.of_error hc hx)

lemma bind (h:A.Kept x) (hk:∀ a, A.Kept (k a)) : A.Kept (x >>= k) := h.andThen fun a _ => hk a

lemma attempt {k:Except Fault α → Check β} (h:A.Kept x) (hk:∀ a, A.Kept (k a)) :
  A.Kept (attempt x >>= k) := by
 intro c hc
 have hx:=h c hc
 simp only [Bind.bind,EStateM.bind,Check.attempt]
 generalize x c = r at hx
 cases hx with
 | ok state => exact hk _ _ state
 | error state => exact hk _ _ (A.recover state)

lemma lookup {name:String} {k:Option Symbol → Check β} (h:∀ x, A.Kept (k x)) :
  A.Kept (lookup? name >>= k) := fun c => h _ c

lemma modify {f:Checker → Checker} (h:∀ {c}, A.holds c → A.holds (f c)) :
  A.Kept (modify f) := fun _ hc => .ok (h hc)

lemma updateSymbols {f:SymbolTable → Except Fault SymbolTable}
  (hok:∀ {c t}, A.holds c → f c.symbols = .ok t → A.holds { c with symbols := t })
  (herror:∀ {t e}, f t = .error e → e.cause.isUnknownType = false) :
  A.Kept (updateSymbols f) := by
 intro c hc
 unfold Check.updateSymbols
 cases hf : f c.symbols with
 | ok t => exact .ok (hok hc hf)
 | error e => exact .error (A.refuse hc (herror hf) e.span)

lemma declareTag (tag:Ident) (t:Tag) : A.Kept (Check.declareTag tag t) := by
 refine updateSymbols (f := (·.declareTag tag.name t tag.span)) (fun hc h => A.declareTag hc h)
  fun {t e} h => ?_
 rw [SymbolTable.declareTag] at h
 split at h
 · cases h
   rfl
 · cases h

lemma declareConstant {name:Ident} (h:M name.name .constant) (v:Int64) :
  A.Kept (Check.declareConstant name v) := by
 refine updateSymbols (f := (·.declare (.fresh name (.constant v) .int none true)))
  (fun hc ht => A.declareConstant hc h ht) fun {t e} he => ?_
 rw [SymbolTable.declare] at he
 split at he
 · cases he
   rfl
 · cases he

lemma completeRecord (id:Nat) (members:List (String × CType)) (span:Span) :
  A.Kept (completeRecord id members span) := by
 intro c hc
 unfold Check.completeRecord
 cases h : c.records.complete id members with
 | ok r =>
  rw [Registry.completeInPlace_ok h]
  exact .ok (A.setRecords hc r)
 | error flaw =>
  rw [Registry.completeInPlace_error h]
  exact .error (A.refuse hc rfl span)

lemma namedType {name:String} (h:M name .type) (span:Span) : A.Kept (namedType name span) := by
 intro c hc
 have hfound:Check.lookup? name c = .ok (c.symbols.lookup? name) c:=rfl
 simp only [Check.namedType,Bind.bind,EStateM.bind,hfound]
 cases hx : c.symbols.lookup? name with
 | none => exact .error (A.unknown hc h (by rw [hx]; rfl) span)
 | some x =>
  dsimp only
  split
  · exact .ok hc
  · rename_i hkind
    refine .error (A.unknown hc h ?_ span)
    rw [hx]
    exact (Bool.not_eq_true _).mp hkind

lemma typeName (t:CType) : A.Kept (typeName t) := fun _ hc => .ok hc

end Kept

variable (A)

def steps : StepLogic .identity where
 Holds _ _ x _ _ := A.Kept x
 tracks := False
 Known _ := True
 pure _ := .pure _
 fail h := .fail (Cause.isUnknownType_of_isPlain h)
 failNaming _ _ h span c := Kept.fail (Cause.isUnknownType_of_isPlain (h _)) span c
 failNamingBoth _ _ _ h span c := Kept.fail (Cause.isUnknownType_of_isPlain (h _ _)) span c
 bind h hk := h.andThen hk
 weaken h _ _ := h
 look _ _ h c := h c c (.refl c) c
 lookup _ hnone hsome := .lookup fun x => by
  cases x with
  | none => exact hnone
  | some x => exact hsome x x rfl rfl
 attempt h hok herror := h.attempt fun x => by
  cases x with
  | ok a => exact hok a
  | error e => exact herror e e

lemma specifiers : A.steps.Specifiers where
 newRecord _ _ _ hc := .ok (A.setRecords hc _)
 newTaggedRecord _ tag := Kept.bind (fun _ hc => .ok (A.setRecords hc _)) fun _ =>
  (Kept.declareTag tag _).bind fun _ => .pure _
 declareEnum tag := Kept.declareTag tag .enum
 look _ _ h c := h c c (.refl c) c
 definedRecord _ _ hc := .ok hc
 markRecord _ _ _ := .modify fun hc => A.addDefinedRecord hc _
 completeRecord id members span _ := .completeRecord id members span
 isEnumDefined _ _ hc := .ok hc
 markEnum _ := .modify fun hc => A.addDefinedEnum hc _

lemma names : A.steps.Names where
 misread _ span := Kept.fail rfl span
 markUsed _ := .modify fun hc => A.markUsed hc _
 recordCall _ _ := .modify fun hc => A.addCall hc _

def logic : TermLogic .identity where
 __ := A.steps
 Admits := Piece.Allowed M
 child h := h.children _
 known _ := trivial
 identType _ := A.names.identType (κ := []) (μ := []) trivial
 ident _ := A.names.ident (κ := []) (μ := []) trivial
 calleeType {_ _ _ y} _ hx span :=
  A.names.calleeType (κ := []) (μ := []) (y := y) (fun _ _ => trivial) (hx (κ := [])) span
 namedType h span := .namedType (allows_cons.mp h).1 span
 referRecord _ := A.specifiers.referRecord (κ := []) (μ := []) _ _
 defineRecord _ h := A.specifiers.defineRecord (κ := []) (μ := []) (h (κ := []))
 referEnum _ := A.specifiers.referEnum (κ := []) (μ := []) _
 defineEnum _ h := A.specifiers.defineEnum (κ := []) (μ := []) (h (κ := []))
 declareConstant h v := Kept.declareConstant (Piece.Allowed.constant h) v

namespace Kept

variable {A} {x:Check CType} {u:Check Int64} {e:Expr}

lemma of {y:Check α} {x:Check α} {f:α → List Nat} (h:A.steps.Holds [] [] x y f) : A.Kept x := h

lemma value (h:A.Kept x) : A.Kept (value x) := h.bind fun _ => .pure _

lemma isNull (e:Expr) (t:CType) (h:A.Kept u) : A.Kept (isNull e t u) :=
 StepLogic.Holds.isNull (L := A.steps) (κ := []) (μ := []) (y := u) e t h

lemma convert (target:CType) (e:Expr) (hx:A.Kept x) (hu:A.Kept u) :
  A.Kept (convert target e x u) :=
 StepLogic.Holds.convert (L := A.steps) (κ := []) (μ := []) (ν := []) (y := x) (v := u) target e
  hx hu

lemma condition (e:Expr) (h:A.Kept x) : A.Kept (condition e x) :=
 StepLogic.Holds.condition (L := A.steps) (κ := []) (μ := []) (y := x) e h

lemma argument (name:String) (index:Nat) (param:Option CType) (e:Expr) (hx:A.Kept x)
  (hu:A.Kept u) : A.Kept (argument name index param e x u) :=
 StepLogic.Holds.argument (L := A.steps) (κ := []) (μ := []) (ν := []) (y := x) (v := u) name
  index param e hx hu

lemma modifiable (e:Expr) (h:A.Kept x) : A.Kept (modifiable e x) :=
 StepLogic.Holds.modifiable (L := A.steps) (κ := []) (μ := []) (y := x) (fun _ _ => trivial) h

lemma arrayLength (size:Expr) (vla:Bool) (hu:A.Kept u) (hx:A.Kept x) :
  A.Kept (arrayLength size vla u x) :=
 StepLogic.Holds.arrayLength (L := A.steps) (κ := []) (μ := []) (ν := []) (v := u) (y := x) size
  vla hu hx

lemma checkExpr (h:Allows M e.mentions) : A.Kept (checkExpr e) :=
 A.logic.checkExpr (κ := []) h

lemma evalConst (h:Allows M e.mentions) : A.Kept (evalConst e) :=
 A.logic.evalConst (κ := []) h

lemma rvalue (h:Allows M e.mentions) : A.Kept (rvalue e) := (checkExpr h).value

lemma conversion (t:CType) (h:Allows M e.mentions) : A.Kept (conversion t e) :=
 A.logic.conversion (κ := []) t h

lemma test (h:Allows M e.mentions) : A.Kept (test e) := A.logic.test (κ := []) h

lemma storeType (h:Allows M e.mentions) : A.Kept (storeType e (CCheck.checkExpr e)) :=
 A.logic.storeType (κ := []) h (A.logic.checkExpr h)

lemma calleeType (h:Allows M e.mentions) (span:Span) :
  A.Kept (calleeType e (CCheck.checkExpr e) span) :=
 A.logic.calleeType (κ := []) h (A.logic.checkExpr h) span

lemma checkArgs (name:String) (index:Nat) (params:List CType) {es:List Expr}
  (h:Allows M (Expr.mentionsAll es)) : A.Kept (checkArgs name index params es) :=
 A.logic.checkArgs (κ := []) name index params fun e he =>
  allows_flatMap.mp (Expr.mentionsAll_eq es ▸ h) e he

lemma resolveType {t:TypeExpr} (h:Allows M t.mentions) : A.Kept (resolveType t) :=
 A.logic.resolveType (κ := []) (by rwa [TypeExpr.mentions_eq] at h)

lemma resolveParams {ps:List Param} (h:Allows M (Param.mentionsAll ps)) :
  A.Kept (resolveParams ps) :=
 A.logic.resolveParams (κ := []) (allows_params.mp h)

lemma resolveRecord {spec:RecordSpec} (h:Allows M spec.mentions) : A.Kept (resolveRecord spec) :=
 A.logic.resolveRecord (κ := []) h

lemma resolveEnum {spec:EnumSpec} (h:Allows M spec.mentions) : A.Kept (resolveEnum spec) :=
 A.logic.resolveEnum (κ := []) h

lemma checkInitializer (t:CType) {i:Initializer} (h:Allows M i.mentions) :
  A.Kept (checkInitializer t i) :=
 A.logic.checkInitializer (κ := []) h False.elim

lemma checkItems (t:CType) {is:List Initializer} (h:Allows M (Initializer.mentionsAll is)) :
  A.Kept (checkItems t is) :=
 A.logic.checkItems (κ := []) (allows_flatMap.mp (Initializer.mentionsAll_eq is ▸ h)) False.elim

lemma checkFields (ts:List CType) {is:List Initializer}
  (h:Allows M (Initializer.mentionsAll is)) : A.Kept (checkFields ts is) :=
 A.logic.checkFields (κ := []) (allows_flatMap.mp (Initializer.mentionsAll_eq is ▸ h)) False.elim

end Kept

end Assertion

end CCheck
