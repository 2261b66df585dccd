import CCheck.Proofs.Checking.Locals

/-! # One definition

A function has one body, and a variable of the file scope has one initializer: another one is
rejected, in whatever unit it stands. -/

set_option autoImplicit false

namespace CCheck

open Check

variable {c d e:Checker}

variable {warnUnused:Bool} {x y:Symbol}

/-! ### What a scope says of its names -/

structure Standing where
 name : String
 kind : SymbolKind
 isDefined : Bool

def Symbol.standing (x:Symbol) : Standing := ⟨x.name,x.kind,x.isDefined⟩

def SymbolTable.standings (t:SymbolTable) : List Standing := t.current.symbols.map Symbol.standing

def Standing.define (name:String) (hasBody:Bool) (p:Standing) : Standing :=
 if p.name == name then { p with isDefined := p.isDefined || hasBody } else p

namespace Standing

variable (name:String) (hasBody:Bool) (p:Standing)

lemma name_define : (p.define name hasBody).name = p.name := by
 rw [define,apply_ite Standing.name,ite_self]

lemma kind_define : (p.define name hasBody).kind = p.kind := by
 rw [define,apply_ite Standing.kind,ite_self]

lemma define_false : p.define name false = p := by
 rw [define,Bool.or_false]
 exact ite_self p

lemma define_of_ne {name:String} {p:Standing} (h:p.name ≠ name) :
  p.define name hasBody = p := by
 rw [define,beq_false_of_ne h]
 rfl

end Standing

namespace SymbolTable

variable {t u:SymbolTable} {name:String}

lemma standings_declare (h:t.declare x = .ok u) :
  u.standings = t.standings ++ [x.standing] ∧ ∀ p ∈ t.standings, p.name ≠ x.name := by
 rw [declare_eq] at h
 split at h
 · cases h
 · rename_i hnew
   cases h
   refine ⟨List.map_append,fun p hp hname => hnew (Scope.find?_isSome.mpr ?_)⟩
   obtain ⟨y,hy,rfl⟩:=List.mem_map.mp hp
   exact List.mem_map.mpr ⟨y,hy,hname⟩

lemma standings_updateLocal (hasBody:Bool) {g:Symbol → Symbol}
  (hg:∀ x, (g x).standing = ⟨x.name,x.kind,x.isDefined || hasBody⟩) :
  (t.updateLocal name g).standings = t.standings.map (.define name hasBody) := by
 unfold standings updateLocal Scope.update
 rw [List.map_map,List.map_map]
 refine List.map_congr_left fun x _ => ?_
 rw [Function.comp_apply,Function.comp_apply,Standing.define,apply_ite Symbol.standing,hg]
 rfl

lemma mem_standings_of_lookupLocal? (h:t.lookupLocal? name = some x) :
  x.standing ∈ t.standings ∧ x.standing.name = name :=
 ⟨List.mem_map_of_mem (List.mem_of_find?_eq_some h),Scope.name_of_find? h⟩

lemma Unique.kind_eq (ht:t.Unique) (h:t.lookupLocal? name = some x)
  {p:Standing} (hp:p ∈ t.standings) (hname:p.name = name) : p.kind = x.kind := by
 obtain ⟨y,hy,rfl⟩:=List.mem_map.mp hp
 rw [← Scope.eq_of_find? (ht _ List.mem_cons_self) h hy hname]
 rfl

lemma Gains.standings {R:Symbol → Symbol → Prop} {own:List Symbol} (h:t.Gains R own u)
  (hR:∀ x y, R x y → y.standing = x.standing) :
  u.standings = t.standings ++ own.map Symbol.standing :=
 (h.map_current hR).trans List.map_append

end SymbolTable

lemma Symbol.KeptAs.standing (h:x.KeptAs y) : y.standing = x.standing := by
 rcases h with rfl | rfl <;> rfl

lemma Symbol.Renewed.standing (h:x.Renewed y) : y.standing = x.standing := by
 rw [h.same]
 rfl

/-! ### Names, recorded functions and initialized variables -/

/-- The functions that are defined are those that have been recorded, each one once, and a variable
that has been initialized, once, is known. -/
structure Consistent (ps:List Standing) (functions initialized:List String) : Prop where
 functionsOnce : functions.Nodup
 initializedOnce : initialized.Nodup
 defined : ∀ p ∈ ps, p.kind = .func → (p.isDefined = true ↔ p.name ∈ functions)
 recorded : ∀ name ∈ functions, ∃ p ∈ ps, p.name = name ∧ p.kind = .func
 held : ∀ name ∈ initialized, ∃ p ∈ ps, p.name = name

namespace Consistent

variable {ps:List Standing} {functions initialized:List String} {name:String}
 {hasBody:Bool} (h:Consistent ps functions initialized)
include h

lemma append (qs:List Standing)
  (hqs:∀ q ∈ qs, q.kind = .func → q.isDefined = false ∧ q.name ∉ functions) :
  Consistent (ps ++ qs) functions initialized where
 functionsOnce := h.functionsOnce
 initializedOnce := h.initializedOnce
 defined p hp hkind := by
  rcases List.mem_append.mp hp with hp | hp
  · exact h.defined p hp hkind
  · obtain ⟨hdefined,hnew⟩:=hqs p hp hkind
    rw [hdefined]
    exact iff_of_false Bool.false_ne_true hnew
 recorded name hname := by
  obtain ⟨p,hp,hfunction⟩:=h.recorded name hname
  exact ⟨p,List.mem_append_left _ hp,hfunction⟩
 held name hname := by
  obtain ⟨p,hp,heq⟩:=h.held name hname
  exact ⟨p,List.mem_append_left _ hp,heq⟩

lemma addInitialized (hname:∃ p ∈ ps, p.name = name) (hnew:name ∉ initialized) :
  Consistent ps functions (name :: initialized) where
 __ := h
 initializedOnce := List.nodup_cons.mpr ⟨hnew,h.initializedOnce⟩
 held := List.forall_mem_cons.mpr ⟨hname,h.held⟩

lemma record {qs:List Standing} (hnew:name ∉ functions)
  (hqs:∀ q ∈ qs, q.kind = .func → q.name ≠ name → q ∈ ps)
  (hname:∀ q ∈ qs, q.kind = .func → q.name = name → q.isDefined = true)
  (hps:∀ p ∈ ps, ∃ q ∈ qs, q.name = p.name ∧ q.kind = p.kind)
  (hself:∃ q ∈ qs, q.name = name ∧ q.kind = .func) :
  Consistent qs (functions ++ [name]) initialized where
 functionsOnce := by
  refine h.functionsOnce.append (List.nodup_singleton _) fun x hx hlast => hnew ?_
  exact List.mem_singleton.mp hlast ▸ hx
 initializedOnce := h.initializedOnce
 defined q hq hkind := by
  rw [List.mem_append,List.mem_singleton]
  by_cases heq : q.name = name
  · exact iff_of_true (hname q hq hkind heq) (.inr heq)
  · rw [h.defined q (hqs q hq hkind heq) hkind,or_iff_left heq]
 recorded := by
  refine List.forall_mem_append.mpr ⟨fun x hx => ?_,List.forall_mem_singleton.mpr hself⟩
  obtain ⟨p,hp,rfl,hkind⟩:=h.recorded x hx
  obtain ⟨q,hq,hqname,hqkind⟩:=hps p hp
  exact ⟨q,hq,hqname,hqkind.trans hkind⟩
 held x hx := by
  obtain ⟨p,hp,rfl⟩:=h.held x hx
  obtain ⟨q,hq,hqname,-⟩:=hps p hp
  exact ⟨q,hq,hqname⟩

lemma redefine (hname:∀ p ∈ ps, p.name = name → p.kind ≠ .func) :
  Consistent (ps.map (.define name hasBody)) functions initialized where
 functionsOnce := h.functionsOnce
 initializedOnce := h.initializedOnce
 defined q hq hkind := by
  obtain ⟨p,hp,rfl⟩:=List.mem_map.mp hq
  rw [Standing.kind_define] at hkind
  rw [Standing.define_of_ne _ fun heq => hname p hp heq hkind]
  exact h.defined p hp hkind
 recorded x hx := by
  obtain ⟨p,hp,rfl,hkind⟩:=h.recorded x hx
  exact ⟨_,List.mem_map_of_mem hp,p.name_define name hasBody,
   (p.kind_define name hasBody).trans hkind⟩
 held x hx := by
  obtain ⟨p,hp,rfl⟩:=h.held x hx
  exact ⟨_,List.mem_map_of_mem hp,p.name_define name hasBody⟩

lemma declareFunction (hfresh:∀ p ∈ ps, p.name ≠ name) :
  Consistent (ps ++ [⟨name,.func,hasBody⟩])
   (functions ++ if hasBody then [name] else []) initialized := by
 have hnew:name ∉ functions:=fun hname => by
  obtain ⟨p,hp,heq,-⟩:=h.recorded name hname
  exact hfresh p hp heq
 cases hasBody with
 | false =>
  rw [if_neg Bool.false_ne_true,List.append_nil]
  exact h.append [_] (List.forall_mem_singleton.mpr fun _ => ⟨rfl,hnew⟩)
 | true =>
  refine h.record hnew (fun q hq _ hne => ?_) (fun q hq _ heq => ?_)
   (fun p hp => ⟨p,List.mem_append_left _ hp,rfl,rfl⟩)
   ⟨_,List.mem_append_right _ List.mem_cons_self,rfl,rfl⟩
  · rcases List.mem_append.mp hq with hq | hq
    · exact hq
    · exact absurd (congrArg Standing.name (List.mem_singleton.mp hq)) hne
  · rcases List.mem_append.mp hq with hq | hq
    · exact absurd heq (hfresh q hq)
    · rw [List.mem_singleton.mp hq]

lemma redeclareFunction {p:Standing} (hp:p ∈ ps)
  (hkind:p.kind = .func) (honce:(p.isDefined && hasBody) = false) :
  Consistent (ps.map (.define p.name hasBody))
   (functions ++ if hasBody then [p.name] else []) initialized := by
 cases hasBody with
 | false =>
  have hsame:ps.map (.define p.name false) = ps:=
   (List.map_congr_left fun q _ => q.define_false p.name).trans (List.map_id ps)
  rw [hsame,if_neg Bool.false_ne_true,List.append_nil]
  exact h
 | true =>
  rw [Bool.and_true] at honce
  have hnew:p.name ∉ functions:=fun hname =>
   Bool.false_ne_true (honce.symm.trans ((h.defined p hp hkind).mpr hname))
  refine h.record hnew (fun q hq _ hne => ?_) (fun q hq _ heq => ?_)
   (fun q hq => ⟨_,List.mem_map_of_mem hq,q.name_define _ _,q.kind_define _ _⟩)
   ⟨_,List.mem_map_of_mem hp,p.name_define _ _,(p.kind_define _ _).trans hkind⟩
  · obtain ⟨r,hr,rfl⟩:=List.mem_map.mp hq
    rw [Standing.name_define] at hne
    rw [Standing.define_of_ne _ hne]
    exact hr
  · obtain ⟨r,hr,rfl⟩:=List.mem_map.mp hq
    rw [Standing.name_define] at heq
    rw [Standing.define,heq,beq_self_eq_true,if_pos rfl]
    exact Bool.or_true _

end Consistent

/-! ### Steps -/

def Checker.IsConsistent (c:Checker) : Prop :=
 Consistent c.symbols.standings (c.functions.map (·.name)) c.initialized

lemma Checker.Undisturbed.consistent (h:c.Undisturbed d) (hc:c.IsConsistent) :
  d.IsConsistent := by
 obtain ⟨own,hown,hgains⟩:=h.symbols
 unfold Checker.IsConsistent
 rw [hgains.standings fun _ _ hxy => hxy.standing,h.context]
 refine hc.append _ fun q hq hkind => ?_
 obtain ⟨x,hx,rfl⟩:=List.mem_map.mp hq
 obtain ⟨-,v,hv⟩:=hown x hx
 cases hv.symm.trans hkind

lemma SymbolTable.EntersFunction.consistent {t s:SymbolTable} {name:Ident} {hasBody:Bool}
  {functions initialized:List String} (h:t.EntersFunction name hasBody s)
  (ht:Consistent t.standings functions initialized) :
  Consistent s.standings (functions ++ if hasBody then [name.name] else []) initialized := by
 cases h with
 | fresh declared =>
  obtain ⟨heq,hfresh⟩:=standings_declare declared
  rw [heq]
  exact ht.declareFunction hfresh
 | again type known kind once =>
  obtain ⟨hmem,hname⟩:=mem_standings_of_lookupLocal? known
  rw [standings_updateLocal hasBody fun _ => rfl,← hname]
  exact ht.redeclareFunction hmem kind once

lemma Checker.initializedWith_eq (hc:c.symbols.level = 0) (v:VarDecl) :
  c.initializedWith v = (Declaration.initialized? (.var v)).toList ++ c.initialized := by
 rw [initializedWith,hc,Declaration.initialized?]
 cases v.init.isSome <;> rfl

lemma Consistent.initializes {ps:List Standing} {functions initialized:List String}
  (h:Consistent ps functions initialized) {v:VarDecl} (hname:∃ p ∈ ps, p.name = v.name.name)
  (hnew:v.init.isSome = true → v.name.name ∉ initialized) :
  Consistent ps functions ((Declaration.initialized? (.var v)).toList ++ initialized) := by
 rw [Declaration.initialized?]
 cases hinit : v.init.isSome with
 | false => exact h
 | true => exact h.addInitialized hname (hnew hinit)

lemma Checker.Admits.consistent {dcl:Declaration} (h:c.Admits dcl d)
  (hfile:c.AtFileScope warnUnused) (hc:c.IsConsistent) :
  d.IsConsistent ∧ d.functions = c.functions ∧
   d.initialized = dcl.initialized?.toList ++ c.initialized := by
 cases h with
 | tags _ init =>
  rw [init]
  exact ⟨hc,rfl,rfl⟩
 | function _ init entered =>
  have hentered:=entered.consistent hc
  rw [if_neg Bool.false_ne_true,List.append_nil] at hentered
  rw [init]
  exact ⟨hentered,rfl,rfl⟩
 | typedef declared =>
  obtain ⟨heq,-⟩:=SymbolTable.standings_declare declared
  refine ⟨?_,rfl,rfl⟩
  unfold IsConsistent
  rw [heq]
  exact hc.append [_] (List.forall_mem_singleton.mpr fun hkind => by cases hkind)
 | @object v type s declared =>
  obtain ⟨heq,hfresh⟩:=SymbolTable.standings_declare declared
  rw [initializedWith_eq hfile.level]
  refine ⟨?_,rfl,rfl⟩
  unfold IsConsistent
  rw [heq]
  have happend:=hc.append [(Symbol.fresh v.name .var type v.storage v.isDefinition).standing]
   (List.forall_mem_singleton.mpr fun hkind => by cases hkind)
  refine happend.initializes
   ⟨_,List.mem_append_right _ List.mem_cons_self,rfl⟩ fun _ hname => ?_
  -- An initialized variable is known, so that it is not declared for the first time.
  obtain ⟨p,hp,hp'⟩:=hc.held _ hname
  exact hfresh p hp hp'
 | @objectAgain v type old g level known kind completes once =>
  have hstandings:(c.symbols.updateLocal v.name.name g).standings =
    c.symbols.standings.map (.define v.name.name v.isDefinition) :=
   SymbolTable.standings_updateLocal v.isDefinition fun x => by rw [(completes x).eq]; rfl
  obtain ⟨hmem,hname⟩:=SymbolTable.mem_standings_of_lookupLocal? known
  rw [initializedWith_eq hfile.level]
  refine ⟨?_,rfl,rfl⟩
  unfold IsConsistent
  rw [hstandings]
  refine (hc.redefine fun p hp hp' hfunc => ?_).initializes
   ⟨_,List.mem_map_of_mem hmem,(Standing.name_define _ _ _).trans hname⟩ once
  cases (hfile.unique.kind_eq known hp hp').symm.trans hfunc ▸ kind

def External.defined? : External → Option String
 | .definition head _ => some head.name.name
 | .declaration _ => none

def External.initialized? : External → Option String
 | .definition _ _ => none
 | .declaration dcl => dcl.initialized?

lemma Checker.Processes.consistent {x:External} (h:c.Processes x d)
  (hfile:c.AtFileScope warnUnused) (hc:c.IsConsistent) :
  d.IsConsistent ∧
   d.functions.map (·.name) = c.functions.map (·.name) ++ x.defined?.toList ∧
   d.initialized = x.initialized?.toList ++ c.initialized := by
 cases h with
 | declaration declares =>
  obtain ⟨c₁,hc₁,hadmits⟩:=declares
  obtain ⟨hd,hfunctions,hinitialized⟩:=
   hadmits.consistent (hfile.undisturbed hc₁) (hc₁.consistent hc)
  refine ⟨hd,?_,?_⟩
  · rw [hfunctions,hc₁.context]
    exact (List.append_nil _).symm
  · rw [hinitialized,hc₁.context]
    rfl
 | @definition head body c₁ _ s info undisturbed entered name defines =>
  have hfunctions:d.functions.map (·.name) = c₁.functions.map (·.name) ++ [head.name.name] := by
   rw [defines.functions,List.map_append,List.map_singleton,name]
  have hentered:=entered.consistent (undisturbed.consistent hc)
  refine ⟨?_,?_,?_⟩
  · unfold IsConsistent
    rw [defines.symbols.standings fun _ _ hxy => hxy.standing,hfunctions,defines.initialized,
     List.map_nil,List.append_nil]
    exact hentered
  · rw [hfunctions,undisturbed.context]
    rfl
  · rw [defines.initialized,undisturbed.context]
    rfl

/-! ### Runs -/

def Checker.accepted (c:Checker) : List External → List External
 | [] => []
 | x :: xs =>
  (((checkExternal x).success? c).map fun _ => x).toList ++
   accepted ((reporting (checkExternal x)).after c) xs

structure Checker.KeepsCount (xs:List External) (c d:Checker) : Prop where
 consistent : d.IsConsistent
 functions : d.functions.map (·.name) = c.functions.map (·.name) ++ xs.filterMap External.defined?
 initialized : d.initialized = (xs.filterMap External.initialized?).reverse ++ c.initialized

lemma keepsCount_reporting (x:External) (hfile:c.AtFileScope warnUnused)
  (hc:c.IsConsistent) :
  c.KeepsCount (((checkExternal x).success? c).map fun _ => x).toList
   ((reporting (checkExternal x)).after c) := by
 have hends:=ends_processes x hfile.unique
 unfold Check.success? Check.after Check.reporting
 generalize checkExternal x c = r at hends
 cases hends with
 | ok processed =>
  obtain ⟨hd,hfunctions,hinitialized⟩:=processed.consistent hfile hc
  refine ⟨hd,hfunctions.trans ?_,hinitialized.trans ?_⟩
  · rw [Option.map_some,Option.toList_some,List.filterMap_cons]
    cases x.defined? <;> rfl
  · rw [Option.map_some,Option.toList_some,List.filterMap_cons]
    cases x.initialized? <;> rfl
 | error undisturbed =>
  refine ⟨undisturbed.consistent hc,?_,?_⟩
  · rw [undisturbed.context]
    exact (List.append_nil _).symm
  · rw [undisturbed.context]
    rfl

lemma Checker.KeepsCount.trans {xs ys:List External} (h:c.KeepsCount xs d)
  (h':d.KeepsCount ys e) : c.KeepsCount (xs ++ ys) e where
 consistent := h'.consistent
 functions := by
  rw [h'.functions,h.functions,List.filterMap_append,List.append_assoc]
 initialized := by
  rw [h'.initialized,h.initialized,List.filterMap_append,List.reverse_append,
   List.append_assoc]

lemma keepsCount_checkExternals (xs:List External)
  (hfile:c.AtFileScope warnUnused) (hc:c.IsConsistent) :
  c.KeepsCount (c.accepted xs) ((checkExternals xs).after c) := by
 induction xs generalizing c with
 | nil => exact ⟨hc,(List.append_nil _).symm,rfl⟩
 | cons x xs ih =>
  have hstep:=keepsCount_reporting x hfile hc
  rw [after_checkExternals_cons]
  exact hstep.trans (ih (hfile.reporting x) hstep.consistent)

lemma SymbolTable.globals_of_level {t:SymbolTable} (h:t.level = 0) :
  t.globals = t.current.symbols := by
 rw [globals,globalScope,List.eq_nil_of_length_eq_zero h]
 rfl

/-- However many units are analyzed, the recorded functions are the definitions that have been
accepted, and no two have the same name. A function of the file scope is defined exactly if it has
been recorded, and the file scope has all functions that have been recorded. No two initializers of
one variable are accepted. -/
theorem one_definition (warnUnused:Bool) (us:List ProgramUnit) :
  let c:=us.foldl Checker.analyze (.start warnUnused)
  let accepted:=(Checker.start warnUnused).accepted (us.flatMap (·.externals))
  (c.functions.map (·.name) = accepted.filterMap External.defined? ∧
    (c.functions.map (·.name)).Nodup) ∧
   (∀ x ∈ c.symbols.globals, x.kind = .func →
    (x.isDefined = true ↔ ∃ f ∈ c.functions, f.name = x.name)) ∧
   (∀ f ∈ c.functions, ∃ x ∈ c.symbols.globals, x.name = f.name ∧ x.kind = .func) ∧
   (accepted.filterMap External.initialized?).Nodup := by
 intro c accepted
 have hstart:(Checker.start warnUnused).IsConsistent:=
  ⟨List.Pairwise.nil,List.Pairwise.nil,List.forall_mem_nil _,List.forall_mem_nil _,
   List.forall_mem_nil _⟩
 have hcount:(Checker.start warnUnused).KeepsCount accepted c := by
  have hrun:=keepsCount_checkExternals (us.flatMap (·.externals)) (.start warnUnused) hstart
  rwa [← foldl_analyze] at hrun
 have hglobals:c.symbols.globals = c.symbols.current.symbols:=
  SymbolTable.globals_of_level (Checker.AtFileScope.reached warnUnused us []).level
 have hc:=hcount.consistent
 refine ⟨⟨hcount.functions,hc.functionsOnce⟩,fun x hx hkind => ?_,fun f hf => ?_,?_⟩
 · rw [hglobals] at hx
   rw [← List.mem_map]
   exact hc.defined x.standing (List.mem_map_of_mem hx) hkind
 · obtain ⟨p,hp,hname,hkind⟩:=hc.recorded f.name (List.mem_map_of_mem hf)
   obtain ⟨x,hx,rfl⟩:=List.mem_map.mp hp
   exact ⟨x,hglobals ▸ hx,hname,hkind⟩
 · have honce:=hc.initializedOnce
   rw [hcount.initialized] at honce
   exact List.nodup_reverse.mp honce.of_append_left

/-- A body and an initializer in a second unit, after the first one has defined the function and
initialized the variable. -/
theorem one_definition_twoUnits :
  ∃ u v c, parse "int f(void); int x = 1; int f(void) { return x; }" = .ok u ∧
   parse "int f(void) { return 2; } int x; int x = 3;" = .ok v ∧
   c = [u,v].foldl Checker.analyze (.start false) ∧ c.errorCount = 2 ∧
   c.symbols.globals.map (fun y => (y.name,y.kind,y.isDefined)) =
    [("f",.func,true),("x",.var,true)] ∧
   c.functions.map (·.name) = ["f"] ∧
   ((Checker.start false).accepted (u.externals ++ v.externals)).filterMap
    External.initialized? = ["x"] ∧
   ∀ y ∈ c.symbols.globals, y.kind = .func →
    (y.isDefined = true ↔ ∃ f ∈ c.functions, f.name = y.name) := by
 have hstate : (parse "int f(void); int x = 1; int f(void) { return x; }").toOption.bind (fun u =>
   (parse "int f(void) { return 2; } int x; int x = 3;").toOption.bind fun v =>
    let c:=[u,v].foldl Checker.analyze (.start false)
    some (c.errorCount,c.symbols.globals.map fun y => (y.name,y.kind,y.isDefined))) =
   some (2,[("f",.func,true),("x",.var,true)]) := by decide +kernel
 have hnames : (parse "int f(void); int x = 1; int f(void) { return x; }").toOption.bind (fun u =>
   (parse "int f(void) { return 2; } int x; int x = 3;").toOption.bind fun v =>
    some (([u,v].foldl Checker.analyze (.start false)).functions.map (·.name),
     ((Checker.start false).accepted (u.externals ++ v.externals)).filterMap
      External.initialized?)) =
   some (["f"],["x"]) := by decide +kernel
 obtain ⟨u,hu,hv⟩:=exists_unit hstate
 obtain ⟨v,hv,hstate⟩:=exists_unit hv
 rw [hu,hv] at hnames
 have hstate:=Option.some.inj hstate
 have hnames:=Option.some.inj hnames
 exact ⟨u,v,_,hu,hv,rfl,congrArg (·.1) hstate,congrArg (·.2) hstate,
  congrArg (·.1) hnames,congrArg (·.2) hnames,(one_definition false [u,v]).2.1⟩

end CCheck
