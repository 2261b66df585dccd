import CCheck.Verdict
import CCheck.Proofs.Checking.ProgramLogic
import CCheck.Proofs.Checking.Reading

/-! # The point of declaration

The name of a variable is entered after its initializer has been checked. Entering it before makes a
difference exactly if the initializer reads the name. -/

set_option autoImplicit false

namespace CCheck

open Check

variable {α β:Type}

variable {c:Checker}

/-! ### One symbol more -/

structure Scope.Extends (y:Symbol) (s s':Scope) : Prop where
 tags : s'.tags = s.tags
 symbols : ∃ before after, s.symbols = before ++ after ∧ s'.symbols = before ++ y :: after

namespace Scope.Extends

variable {y:Symbol} {s s':Scope} {name:String}

lemma find? (h:s.Extends y s') (hname:name ≠ y.name) : s'.find? name = s.find? name := by
 obtain ⟨before,after,hs,hs'⟩:=h.symbols
 unfold Scope.find?
 rw [hs,hs',List.find?_append,List.find?_append,List.find?_cons,
  beq_false_of_ne (Ne.symm hname)]

lemma update (h:s.Extends y s') (hname:name ≠ y.name) (g:Symbol → Symbol) :
  (s.update name g).Extends y (s'.update name g) where
 tags := h.tags
 symbols := by
  obtain ⟨before,after,hs,hs'⟩:=h.symbols
  unfold Scope.update
  rw [hs,hs',List.map_append,List.map_append,List.map_cons,
   beq_false_of_ne (Ne.symm hname)]
  exact ⟨_,_,rfl,rfl⟩

lemma add (h:s.Extends y s') (x:Symbol) :
  Extends y { s with symbols := s.symbols ++ [x] } { s' with symbols := s'.symbols ++ [x] } where
 tags := h.tags
 symbols := by
  obtain ⟨before,after,hs,hs'⟩:=h.symbols
  refine ⟨before,after ++ [x],?_,?_⟩
  · rw [hs,List.append_assoc]
  · rw [hs',List.append_assoc,List.cons_append]

lemma addTag (h:s.Extends y s') (tag:String × Tag) :
  Extends y { s with tags := tag :: s.tags } { s' with tags := tag :: s'.tags } where
 tags := congrArg (tag :: ·) h.tags
 symbols := h.symbols

lemma tag? (h:s.Extends y s') (name:String) : s'.tag? name = s.tag? name :=
 congrArg (List.lookup name) h.tags

end Scope.Extends

inductive Inserted (y:Symbol) (c:Checker) : Checker → Prop
 | intro {s:Scope} (h:c.symbols.current.Extends y s) :
    Inserted y c { c with symbols := { c.symbols with current := s } }

lemma Inserted.declareConstant {y:Symbol} {d:Checker} (h:Inserted y c d) {name:Ident}
  (hname:name.name ≠ y.name) (v:Int64) :
  Tracks .identity (Inserted y) (fun _ => Inserted y) (declareConstant name v c)
   (declareConstant name v d) := by
 obtain @⟨s,h⟩:=h
 have hfind:s.find? name.name = c.symbols.current.find? name.name:=h.find? hname
 unfold Check.declareConstant Check.declare
 by_cases hlocal : (c.symbols.current.find? name.name).isSome = true
 · have hlocal':(s.find? name.name).isSome = true:=hfind ▸ hlocal
   exact tracks_error ((SymbolTable.declare_eq _ _).trans (if_pos hlocal))
    ((SymbolTable.declare_eq _ _).trans (if_pos hlocal')) ⟨h⟩
 · have hlocal':¬(s.find? name.name).isSome = true:=hfind ▸ hlocal
   exact tracks_ok ((SymbolTable.declare_eq _ _).trans (if_neg hlocal))
    ((SymbolTable.declare_eq _ _).trans (if_neg hlocal')) ⟨h.add _⟩

lemma Inserted.declareTag {y:Symbol} {d:Checker} (h:Inserted y c d) (tag:Ident)
  (t:Tag) :
  Tracks .identity (Inserted y) (fun _ => Inserted y) (declareTag tag t c)
   (declareTag tag t d) := by
 obtain @⟨s,h⟩:=h
 have hfind:s.tag? tag.name = c.symbols.current.tag? tag.name:=h.tag? tag.name
 by_cases hlocal : (c.symbols.current.tag? tag.name).isSome = true
 · exact tracks_error ((SymbolTable.declareTag_eq _ _ _ _).trans (if_pos hlocal))
    ((SymbolTable.declareTag_eq _ _ _ _).trans (if_pos (hfind ▸ hlocal))) ⟨h⟩
 · exact tracks_ok ((SymbolTable.declareTag_eq _ _ _ _).trans (if_neg hlocal))
    ((SymbolTable.declareTag_eq _ _ _ _).trans (if_neg (hfind ▸ hlocal))) ⟨h.addTag _⟩

def insertion (y:Symbol) : Coupling .identity fun name _ => name ≠ y.name where
 rel := Inserted y
 failed _ := Inserted y
 recover := id
 refuse h _ _ _ := h
 unknown h _ _ _ _ := h
 lookup? h name _ hname := by
  obtain ⟨h⟩:=h
  unfold SymbolTable.lookup? SymbolTable.scopes
  rw [List.findSome?_cons,List.findSome?_cons,h.find? hname]
 level h := by
  obtain ⟨_⟩:=h
  rfl
 tag? h name := by
  obtain ⟨h⟩:=h
  unfold SymbolTable.tag? SymbolTable.scopes
  rw [List.findSome?_cons,List.findSome?_cons,h.tag?]
 tagLocal? h name := by
  obtain ⟨h⟩:=h
  exact h.tag? name
 records h := by
  obtain ⟨_⟩:=h
  rfl
 definedRecord h _ := by
  obtain ⟨_⟩:=h
  rfl
 definedEnum h _ := by
  obtain ⟨_⟩:=h
  rfl
 markUsed h name hname := by
  obtain ⟨h⟩:=h
  unfold SymbolTable.markUsed SymbolTable.update SymbolTable.lookupLocal?
  rw [h.find? hname]
  split
  · exact ⟨h.update hname _⟩
  · exact ⟨h⟩
 declareConstant h _ hname v := h.declareConstant hname v
 declareTag h tag t := h.declareTag tag t
 setRecords h r := by
  obtain ⟨h⟩:=h
  exact ⟨h⟩
 addCall h x := by
  obtain ⟨h⟩:=h
  exact ⟨h⟩
 addDefinedRecord h s id := by
  obtain ⟨h⟩:=h
  exact ⟨h⟩
 addDefinedEnum h o := by
  obtain ⟨h⟩:=h
  exact ⟨h⟩

/-! ### Declarations -/

lemma length_of_sized {t elem:CType} {length:Option Nat} {vla:Bool}
  (hkind:t.kind = .array elem length vla) (hsized:t.isUnsizedArray = false)
  (hfixed:¬isRunTimeArray t = true) : ∃ n, length = some n := by
 unfold CType.isUnsizedArray at hsized
 unfold isRunTimeArray at hfixed
 rw [hkind] at hsized hfixed
 cases length with
 | some n => exact ⟨n,rfl⟩
 | none =>
  cases vla with
  | true => exact absurd rfl hfixed
  | false => cases hsized

lemma ensures_stringInitializer (t elem:CType) (n:Nat) (text:String) (span:Span)
  (c:Checker) : Ensures (stringInitializer t elem (some n) text span) c fun u _ => u = t := by
 unfold stringInitializer
 split
 · exact ensures_fail _ _
 · exact ensures_pure rfl

/-- The answer to an initializer is the type that it is checked against, unless that is an array
whose length is left out. -/
lemma checkInitializer_type {t:CType} (ht:t.isUnsizedArray = false) :
  ∀ (i:Initializer) (c:Checker), Ensures (checkInitializer t i) c fun u _ => u = t
 | .expr e, c => by
  rw [checkInitializer]
  split
  · exact ensures_fail _ _
  · rename_i hfixed
    unfold plainInitializer
    split
    · rename_i elem length vla hkind
      obtain ⟨n,rfl⟩:=length_of_sized hkind ht hfixed
      split
      · split
        · exact ensures_stringInitializer _ _ _ _ _ _
        · exact ensures_fail _ _
      · exact ensures_fail _ _
    · exact ensures_bind fun _ _ _ => ensures_pure rfl
 | .list items span, c => by
  unfold checkInitializer
  split
  · exact ensures_fail _ _
  · rename_i hfixed
    split
    · rename_i elem length vla hkind
      obtain ⟨n,rfl⟩:=length_of_sized hkind ht hfixed
      split
      · exact ensures_stringInitializer _ _ _ _ _ _
      · exact ensures_bind fun _ _ _ => ensures_bind fun _ _ _ => ensures_pure rfl
    · exact ensures_bind fun _ _ _ => ensures_bind fun _ _ _ => ensures_bind fun _ _ _ =>
       ensures_pure rfl
    · cases items with
      | nil => exact ensures_fail _ _
      | cons item rest =>
       cases rest with
       | nil => exact checkInitializer_type ht item c
       | cons _ _ => exact ensures_fail _ _

def checkedInitializer (d:VarDecl) (t:CType) (i:Initializer) : Check CType := do
 let u ← checkInitializer t i
 definable d u
 return u

section CheckedInitializer

variable {M:String → NameUse → Prop} {d:VarDecl} {t:CType} {i:Initializer}

lemma keeps_checkedInitializer (T:Coupling .identity M) (h:Allows M i.mentions) (d:VarDecl)
  (t:CType) : T.Keeps (checkedInitializer d t i) := by
 refine (T.keeps_checkInitializer t h).bind fun u => Coupling.Lockstep.bind ?_ fun _ => .pure _
 exact StepLogic.Holds.definable (L := T.steps) (κ := []) (μ := []) d u

lemma kept_definable {A:Assertion M} (d:VarDecl) (t:CType) : A.Kept (definable d t) :=
 .of (.definable d t)

lemma checkedInitializer_type (ht:t.isUnsizedArray = false) (c:Checker) :
  Ensures (checkedInitializer d t i) c fun u _ => u = t :=
 ensures_bind fun u c' hrun => ensures_bind fun _ _ _ =>
  ensures_pure (checkInitializer_type ht i c u c' hrun)

lemma turns_checkedInitializer {P Q:Assertion M} {x:String} (hmet:Met P Q x)
  (hreads:i.Reads x) (h:Allows M i.mentions) (d:VarDecl) (t:CType) :
  Turns P Q (checkedInitializer d t i) :=
 (hmet.turns_initializer hreads h t).bind fun u =>
  (kept_definable d u).bind fun _ => .pure _

end CheckedInitializer

/-- A variable that is declared with its name in scope from the initializer on. -/
def declareEarly (d:VarDecl) (t:CType) : Check Unit := do
 fileScopeStorage d
 enterVariable d t
 definable d (← initializedType d t)

/-- The declaration of a variable in a block, with an initializer. Its type has been resolved to
that of a complete object, and the scope has no such name yet. -/
structure BlockVariable (s₀:Checker) (d:VarDecl) (i:Initializer) (t:CType) (s:Checker) :
  Prop where
 resolves : resolveType d.type s₀ = .ok t s
 block : s.symbols.level ≠ 0
 init : d.init = some i
 storage : d.storage ≠ some .external
 complete : s.records.isComplete t = true
 sized : t.isUnsizedArray = false
 fresh : s.symbols.lookupLocal? d.name.name = none

def VarDecl.symbol (d:VarDecl) (t:CType) (level:Nat) : Symbol :=
 { Symbol.fresh d.name .var t d.storage true with level }

def Checker.add (c:Checker) (y:Symbol) : Checker :=
 { c with
   symbols := { c.symbols with
    current := { c.symbols.current with symbols := c.symbols.current.symbols ++ [y] } } }

lemma atFileScope_block (h:c.symbols.level ≠ 0) :
  atFileScope c = .ok false c := by
 have hrun:atFileScope c = .ok (c.symbols.level == 0) c:=rfl
 rw [hrun,beq_false_of_ne h]

lemma inserted_add (c:Checker) (y:Symbol) : Inserted y c (c.add y) :=
 ⟨⟨rfl,_,[],(List.append_nil _).symm,rfl⟩⟩

lemma fileScopeStorage_block (h:c.symbols.level ≠ 0) (d:VarDecl) :
  fileScopeStorage d c = .ok () c := by
 unfold fileScopeStorage
 rw [bind_ok (atFileScope_block h)]
 rfl

lemma enterVariable_block {d:VarDecl} (h:c.symbols.level ≠ 0)
  (hinit:d.init.isSome = true) (hfresh:c.symbols.lookupLocal? d.name.name = none)
  (t:CType) : enterVariable d t c = .ok () (c.add (d.symbol t c.symbols.level)) := by
 have hdeclare:c.symbols.declare (.fresh d.name .var t d.storage true) =
   .ok (c.add (d.symbol t c.symbols.level)).symbols := by
  unfold SymbolTable.declare
  rw [show c.symbols.lookupLocal? (Symbol.fresh d.name .var t d.storage true).name = none
   from hfresh]
  rfl
 unfold enterVariable
 rw [bind_ok (atFileScope_block h),hinit]
 change updateSymbols (·.declare (.fresh d.name .var t d.storage true)) c = _
 unfold updateSymbols
 dsimp only
 rw [hdeclare]
 rfl

lemma bind_congr_at {x y:Check α} {k:α → Check β} (h:x c = y c) :
  (x >>= k) c = (y >>= k) c := by
 simp only [Bind.bind,EStateM.bind,h]

namespace BlockVariable

variable {s₀ s:Checker} {d:VarDecl} {i:Initializer} {t:CType} (h:BlockVariable s₀ d i t s)
include h

lemma object : t.isVoid = false ∧ t.isFunction = false := by
 obtain ⟨kind,quals⟩:=t
 have hcomplete:s.records.kindIsComplete kind = true:=h.complete
 cases kind <;> first | exact ⟨rfl,rfl⟩ | cases hcomplete

lemma initializedType_eq (hlevel:c.symbols.level ≠ 0) :
  initializedType d t c = checkInitializer t i c := by
 unfold initializedType
 rw [h.init]
 dsimp only
 rw [bind_ok (atFileScope_block hlevel),decide_eq_false h.storage]
 rfl

lemma checkDeclaration_eq :
  checkDeclaration (.var d) s₀ = (checkedInitializer d t i >>= enterVariable d) s := by
 have hdeclare:checkDeclaration (.var d) s₀ = declareObject d t s := by
  change declareVariable d s₀ = _
  unfold declareVariable
  rw [bind_ok h.resolves,h.object.2]
  rfl
 rw [hdeclare]
 unfold declareObject checkedInitializer
 rw [h.object.1,bind_assoc]
 simp only [Bool.false_eq_true,if_false,bind_assoc,pure_bind]
 rw [bind_ok (fileScopeStorage_block h.block d)]
 exact bind_congr_at (h.initializedType_eq h.block)

lemma isSome_init : d.init.isSome = true := by
 rw [h.init]
 rfl

lemma declareEarly_eq :
  declareEarly d t s = (checkedInitializer d t i >>= fun _ => pure ())
   (s.add (d.symbol t s.symbols.level)) := by
 unfold declareEarly checkedInitializer
 rw [bind_ok (fileScopeStorage_block h.block d),
  bind_ok (enterVariable_block h.block h.isSome_init h.fresh t)]
 simp only [bind_assoc,pure_bind]
 refine (bind_congr_at (h.initializedType_eq ?_)).trans ?_
 · exact h.block
 · exact congrFun (congrArg _ (funext fun u => (bind_pure_unit).symm)) _

/-- A declaration that succeeds adds the variable to the state after its initializer, as a symbol
that is not used. -/
lemma checkDeclaration_ok (hspares:Allows (Spares d.name.name) i.mentions) {u:CType}
  (hrun:checkedInitializer d t i s = .ok u c) :
  checkDeclaration (.var d) s₀ = .ok () (c.add (d.symbol t s.symbols.level)) := by
 have hkept:(undeclared d.name.name s.symbols.level).Kept (checkedInitializer d t i):=
  (Assertion.Kept.checkInitializer t hspares).bind fun u =>
   (kept_definable d u).bind fun _ => .pure _
 obtain ⟨hfresh,hlevel⟩:=hkept.of_ok ⟨h.fresh,rfl⟩ hrun
 rw [h.checkDeclaration_eq,bind_ok hrun,checkedInitializer_type h.sized s u c hrun,
  enterVariable_block (hlevel ▸ h.block) h.isSome_init hfresh t,hlevel]

end BlockVariable

inductive Reordered (c:Checker) : Checker → Prop
 | intro {xs:List Symbol} (h:c.symbols.current.symbols.Perm xs) :
    Reordered c { c with
     symbols := { c.symbols with current := { c.symbols.current with symbols := xs } } }

abbrev Agreeing (y:Symbol) :
  EStateM.Result Fault Checker Unit → EStateM.Result Fault Checker Unit → Prop :=
 Paired Reordered fun _ => Inserted y

lemma Inserted.reordered {y:Symbol} {c':Checker} (h:Inserted y c c') :
  Reordered (c.add y) c' := by
 obtain @⟨⟨xs,tags⟩,htags,before,after,hsymbols,hxs⟩:=h
 cases htags
 refine .intro ?_
 change (c.symbols.current.symbols ++ [y]).Perm xs
 rw [show xs = before ++ y :: after from hxs,hsymbols,List.append_assoc]
 exact (List.perm_append_singleton y after).append_left before

section

variable {s₀ s:Checker} {d:VarDecl} {i:Initializer} {t:CType}

lemma BlockVariable.agreeing (h:BlockVariable s₀ d i t s)
  (hunmentioned:∀ m ∈ i.mentions, m.name ≠ d.name.name) :
  Agreeing (d.symbol t s.symbols.level) (checkDeclaration (.var d) s₀) (declareEarly d t s) := by
 have hpair:=keeps_checkedInitializer (insertion (d.symbol t s.symbols.level)) hunmentioned d t
  s _ (inserted_add s _)
 have hspares:Allows (Spares d.name.name) i.mentions:=fun m hm _ => hunmentioned m hm
 rw [h.declareEarly_eq]
 generalize hfirst : checkedInitializer d t i s = p at hpair
 generalize hsecond : checkedInitializer d t i (s.add _) = q at hpair
 cases hpair with
 | ok hcd =>
  rw [h.checkDeclaration_ok hspares hfirst,bind_ok hsecond]
  exact .ok hcd.reordered
 | error hcd =>
  rw [h.checkDeclaration_eq]
  simp only [Bind.bind,EStateM.bind,hfirst,hsecond]
  exact .error hcd

lemma BlockVariable.used_early (h:BlockVariable s₀ d i t s)
  (hreads:i.Reads d.name.name) (hspares:Allows (Spares d.name.name) i.mentions)
  (hrun:declareEarly d t s = .ok () c) : c.symbols.Uses d.name.name := by
 have hturns:=turns_checkedInitializer (met_declared d.name.name) hreads hspares d t
 have hdeclared:(declared d.name.name).holds (s.add (d.symbol t s.symbols.level)):=
  List.find?_isSome.mpr ⟨_,List.mem_append_right _ (List.mem_singleton_self _),
   beq_self_eq_true d.name.name⟩
 rw [h.declareEarly_eq] at hrun
 exact hturns.bind (fun _ => .pure ()) _ hdeclared () c hrun

lemma BlockVariable.unused (h:BlockVariable s₀ d i t s)
  (hspares:Allows (Spares d.name.name) i.mentions)
  (hrun:checkDeclaration (.var d) s₀ = .ok () c) :
  d.symbol t s.symbols.level ∈ c.symbols.current.symbols := by
 cases hchecked : checkedInitializer d t i s with
 | ok u c' =>
  rw [h.checkDeclaration_ok hspares hchecked] at hrun
  cases hrun
  exact List.mem_append_right _ (List.mem_singleton_self _)
 | error f c' =>
  rw [h.checkDeclaration_eq] at hrun
  simp only [Bind.bind,EStateM.bind,hchecked,reduceCtorEq] at hrun

lemma BlockVariable.fails (h:BlockVariable s₀ d i t s)
  (hreads:i.Reads d.name.name) (hspares:Allows (Spares d.name.name) i.mentions)
  (hinvisible:s.symbols.lookup? d.name.name = none)
  (hlibrary:LibraryFunction.find? d.name.name = none) :
  Fails (checkDeclaration (.var d)) s₀ := by
 have hturns:=turns_checkedInitializer (met_invisible hlibrary) hreads hspares d t
 have hnone:Ensures (checkedInitializer d t i >>= enterVariable d) s fun _ _ => False:=
  ensures_bind fun u c hrun => (hturns s hinvisible u c hrun).elim
 obtain ⟨f,c,hf⟩:=hnone.fails
 exact ⟨f,c,h.checkDeclaration_eq.trans hf⟩

/-- Whether the name of a variable is entered before or after its initializer makes no difference
if the initializer does not mention it. If it reads the name, a declaration that enters it before
leaves it used, one that enters it after leaves it unused or fails, so the two never agree; and
where the name denotes nothing outside, the second fails. -/
theorem point_of_declaration (h:BlockVariable s₀ d i t s) :
  ((∀ m ∈ i.mentions, m.name ≠ d.name.name) →
   Agreeing (d.symbol t s.symbols.level) (checkDeclaration (.var d) s₀)
    (declareEarly d t s)) ∧
  (i.Reads d.name.name → (∀ m ∈ i.mentions, m.use = .constant → m.name ≠ d.name.name) →
   (∀ c, declareEarly d t s = .ok () c → c.symbols.Uses d.name.name ∧
    ¬Agreeing (d.symbol t s.symbols.level) (checkDeclaration (.var d) s₀)
     (declareEarly d t s)) ∧
   (∀ c, checkDeclaration (.var d) s₀ = .ok () c → ¬c.symbols.Uses d.name.name) ∧
   (s.symbols.lookup? d.name.name = none → LibraryFunction.find? d.name.name = none →
    Fails (checkDeclaration (.var d)) s₀)) := by
 refine ⟨h.agreeing,fun hreads hspares => ⟨fun c hearly => ⟨h.used_early hreads hspares hearly,
  fun hagree => ?_⟩,fun c hlate huses => ?_,h.fails hreads hspares⟩⟩
 · have huses:=h.used_early hreads hspares hearly
   rw [hearly] at hagree
   generalize hlate : checkDeclaration (.var d) s₀ = p at hagree
   cases hagree with
   | ok hreordered =>
    obtain ⟨hperm⟩:=hreordered
    have hmem:=hperm.mem_iff.mp (h.unused hspares hlate)
    exact nomatch huses.2 _ hmem rfl
 · exact nomatch huses.2 _ (h.unused hspares hlate) rfl

end

def selfSized : VarDecl :=
 ⟨⟨"x",.nowhere⟩,⟨.base .ulong,.none,.nowhere⟩,none,
  some (.expr (.sizeofExpr (.ident ⟨"x",.nowhere⟩) .nowhere)),.nowhere⟩

/-- The declaration succeeds if the name is entered before, and fails as it is. -/
theorem point_of_declaration_sizeof :
  ∃ i, BlockVariable (Checker.start true).enterScope selfSized i .ulong
    (Checker.start true).enterScope ∧ i.Reads "x" ∧
   (∃ c, declareEarly selfSized .ulong (Checker.start true).enterScope = .ok () c ∧
    c.symbols.Uses "x") ∧
   Fails (checkDeclaration (.var selfSized)) (Checker.start true).enterScope := by
 have h:BlockVariable (Checker.start true).enterScope selfSized
   (.expr (.sizeofExpr (.ident ⟨"x",.nowhere⟩) .nowhere)) .ulong
   (Checker.start true).enterScope :=
  ⟨rfl,nofun,rfl,nofun,rfl,rfl,rfl⟩
 have hreads : Initializer.Reads "x" (.expr (.sizeofExpr (.ident ⟨"x",.nowhere⟩) .nowhere)) :=
  .expr (.sizeof (.ident rfl))
 obtain ⟨hearly,-,hfails⟩:=(point_of_declaration h).2 hreads (by decide)
 exact ⟨_,h,hreads,⟨_,rfl,(hearly _ rfl).1⟩,hfails rfl (by decide +kernel)⟩

/-- In a function body this is an error. -/
theorem own_initializer_undefined :
  (check "void f(void) { unsigned long x = sizeof x; }" "" true).report.diagnostics.map
   (·.message) = [(Cause.undefinedIdent "x").message] := by
 decide +kernel

end CCheck
