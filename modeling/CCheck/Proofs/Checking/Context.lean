import CCheck.Proofs.Checking.ProgramAccounts
import CCheck.Proofs.Checking.Reading

/-! # The context of a statement

Whatever becomes of a statement, the checker comes back to the context it had; only the innermost
`switch` may have got new labels. -/

set_option autoImplicit false

namespace CCheck

open Check

variable {α β:Type}

/-! ### Contexts -/

inductive InnermostGrows : List SwitchFrame → List SwitchFrame → Prop
 | none : InnermostGrows [] []
 | some {f g:SwitchFrame} {fs:List SwitchFrame} (h:f.Grows g) :
   InnermostGrows (f :: fs) (g :: fs)

lemma SwitchFrame.Grows.refl (f:SwitchFrame) : f.Grows f := ⟨rfl,id,List.suffix_refl _⟩

lemma SwitchFrame.Grows.trans {f g h:SwitchFrame} (hfg:f.Grows g) (hgh:g.Grows h) :
  f.Grows h :=
 ⟨hgh.type.trans hfg.type,hgh.hasDefault ∘ hfg.hasDefault,hfg.values.trans hgh.values⟩

lemma InnermostGrows.refl (fs:List SwitchFrame) : InnermostGrows fs fs := by
 cases fs with
 | nil => exact .none
 | cons f fs => exact .some (.refl f)

lemma InnermostGrows.trans {fs gs hs:List SwitchFrame} (hfg:InnermostGrows fs gs)
  (hgh:InnermostGrows gs hs) : InnermostGrows fs hs := by
 cases hfg with
 | none => exact hgh
 | some hf =>
  cases hgh with
  | some hg => exact .some (hf.trans hg)

lemma InnermostGrows.tail {f:SwitchFrame} {fs gs:List SwitchFrame}
  (h:InnermostGrows (f :: fs) gs) : InnermostGrows fs gs.tail := by
 cases h with
 | some _ => exact .refl _

lemma InnermostGrows.modifyHead {change:SwitchFrame → SwitchFrame}
  (h:∀ f : SwitchFrame, f.Grows (change f)) (fs:List SwitchFrame) :
  InnermostGrows fs (fs.modifyHead change) := by
 cases fs with
 | nil => exact .none
 | cons f fs => exact .some (h f)

structure Checker.Restored (c d:Checker) : Prop where
 level : d.symbols.level = c.symbols.level
 flow : d.flow = c.flow
 switches : InnermostGrows c.switches d.switches
 function : d.function.map (·.head) = c.function.map (·.head)

namespace Checker.Restored

variable {a b c d:Checker}

lemma refl (c:Checker) : c.Restored c := ⟨rfl,rfl,.refl _,rfl⟩

lemma trans (hab:a.Restored b) (hbc:b.Restored c) : a.Restored c where
 level := hbc.level.trans hab.level
 flow := hbc.flow.trans hab.flow
 switches := hab.switches.trans hbc.switches
 function := hbc.function.trans hab.function

lemma setSymbols (h:c.Restored d) {t:SymbolTable} (ht:t.level = d.symbols.level) :
  c.Restored { d with symbols := t } where
 __ := h
 level := ht.trans h.level

lemma declare {x:Symbol} {t:SymbolTable} (h:c.symbols.declare x = .ok t) :
  c.Restored { c with symbols := t } := by
 refine (refl c).setSymbols ?_
 rw [SymbolTable.declare_of_ok h]
 rfl

lemma warn (h:c.Restored d) (message:String) (span:Span) :
  c.Restored (d.warn message span) := { h with }

lemma warnAboutUnused (h:c.Restored d) (xs:List Symbol) :
  c.Restored (d.warnAboutUnused xs) := by
 unfold Checker.warnAboutUnused
 split
 · exact List.foldlRecOn _ _ h fun _ hd _ _ => hd.warn _ _
 · exact h

lemma updateFunction (h:c.Restored d) {f:FunctionContext → FunctionContext}
  (hf:∀ x, (f x).head = x.head) : c.Restored { d with function := d.function.map f } where
 __ := h
 function := by simp only [Option.map_map,Function.comp_def,hf,h.function]

lemma leaveScope (h:c.enterScope.Restored d) : c.Restored d.leaveScope := by
 obtain ⟨⟨current,outer⟩,hd⟩ : ∃ t, d.symbols = t:=⟨_,rfl⟩
 have hlevel:=h.level
 rw [hd] at hlevel
 cases outer with
 | nil => cases hlevel
 | cons s ss =>
  have hleft:c.Restored { d with symbols := ⟨s,ss⟩ }:=
   { h with level := Nat.succ.inj hlevel }
  rw [Checker.leaveScope,hd]
  exact (hleft.warnAboutUnused current.symbols).updateFunction fun _ => rfl

end Checker.Restored

/-! ### Steps that restore the context -/

def restored : Account where
 rel _ c _ d := c.Restored d
 refl := .refl
 trans h h' := h.trans h'
 mono h _ := h
 recover h := h
 refuse c _ _ := .refl c
 typeRead _ _ := .refl _
 use c i := (Checker.Restored.refl c).setSymbols (c.symbols.level_markUsed i.name)
 callee h _ := h
 call _ _ _ := { Checker.Restored.refl _ with }
 again h := h
 enumerator h := .declare h
 tag h := (Checker.Restored.refl _).setSymbols (by
  rw [SymbolTable.level,(SymbolTable.current_declareTag h).2]
  rfl)
 record _ _ _ := { Checker.Restored.refl _ with }
 complete _ := { Checker.Restored.refl _ with }
 defineRecord _ h := { h with }
 defineEnum _ h := { h with }

lemma enters_restored : restored.Enters where
 declare _ h := .declare h
 typedef h := .declare h
 redeclare c _ _ _ _ := (Checker.Restored.refl c).setSymbols rfl
 initialized _ _ := { Checker.Restored.refl _ with }

def restoredStatements : StatementAccount where
 toAccount := restored
 declaration := enters_restored.checkDeclaration
 jump c _ _ := .refl c
 flow _ h := { h with flow := rfl }
 switch _ h := { h with switches := h.switches.tail }
 label c _ h := { Checker.Restored.refl c with switches := .modifyHead h _ }
 note c _ h := (Checker.Restored.refl c).updateFunction fun f => (h f).head
 scope h := h.leaveScope
 report h := { h with }
 warn c message span := (Checker.Restored.refl c).warn message span

def Check.Restores (x:Check α) : Prop := Follows Checker.Restored x

namespace Check.Restores

variable {x:Check α} {ms:List Mark}

lemma of_meets (h:restored.Meets ms x) : Restores x := by
 intro c
 have hc:=h c
 unfold Check.after
 generalize x c = r at hc
 cases hc with
 | ok state => exact state
 | error state => exact state

lemma of_looks (h:restored.Looks [] x) : Restores x := of_meets h.meets

lemma bind {β:Type} {k:α → Check β} (hx:Restores x) (hk:∀ a, Restores (k a)) :
  Restores (x >>= k) :=
 Follows.bind .trans hx hk

end Check.Restores

/-! ### External declarations -/

/-- The checker stands outside of every function and every block. -/
structure Checker.Idle (c:Checker) : Prop where
 level : c.symbols.level = 0
 flow : c.flow = .outside
 switches : c.switches = []
 function : c.function = none

namespace Checker.Idle

variable {c d:Checker}

lemma start (warnUnused:Bool) : (start warnUnused).Idle := ⟨rfl,rfl,rfl,rfl⟩

lemma report (h:c.Idle) (f:Fault) : (c.report f).Idle := { h with }

lemma restored (h:c.Idle) (hcd:c.Restored d) : d.Idle where
 level := hcd.level.trans h.level
 flow := hcd.flow.trans h.flow
 switches := by
  have hswitches:=hcd.switches
  rw [h.switches] at hswitches
  generalize d.switches = gs at hswitches ⊢
  cases hswitches
  rfl
 function := by
  have hfunction:=hcd.function
  rw [h.function] at hfunction
  exact Option.map_eq_none_iff.mp hfunction

lemma leaveFunction (level:c.symbols.level = 0) (flow:c.flow = .outside)
  (switches:c.switches = []) (t:CType) : (c.leaveFunction t).Idle := by
 unfold Checker.leaveFunction
 split
 · rename_i hfunction
   exact ⟨level,flow,switches,hfunction⟩
 · rename_i f _
   have hleft:Idle { c with function := none }:=⟨level,flow,switches,rfl⟩
   have hreported:=List.foldlRecOn (motive := Idle) f.undefinedGotos
    (fun c g => c.report ⟨.undefinedLabel g.name,g.span⟩) hleft fun _ hd _ _ => hd.report _
   exact { hreported with }

end Checker.Idle

def Check.Settles (x:Check α) : Prop := Follows (fun c d => c.Idle → d.Idle) x

lemma Check.Restores.settles {x:Check α} (hx:Restores x) : Settles x :=
 fun c hc => hc.restored (hx c)

lemma Check.Settles.bind {x:Check α} {k:α → Check β} (hx:Settles x)
  (hk:∀ a, Settles (k a)) : Settles (x >>= k) :=
 Follows.bind (fun hab hbc h => hbc (hab h)) hx hk

lemma Check.Settles.reporting {x:Check Unit} (hx:Settles x) : Settles (reporting x) :=
 Follows.reporting (fun hcd f h => (hcd h).report f) hx

lemma settles_body (name:String) (ret t:CType) {ms:List Mark} {x:Check Unit}
  (hx:restored.Meets ms x) : Settles (do
   enterFunction name ret
   reporting (inScope x)
   modify (·.leaveFunction t)) := by
 intro c hc
 let entered : Checker:=
  { c with function := some (.start name ret),flow := .outside,switches := [] }
 obtain ⟨d,hd⟩ : ∃ d, reporting (inScope x) entered = .ok () d := by
  unfold Check.reporting
  cases inScope x entered <;> exact ⟨_,rfl⟩
 have hbody:entered.Restored d := by
  have hinner:restored.Meets ms (reporting (inScope x)):=
   StatementAccount.meets_reporting (A := restoredStatements)
    (StatementAccount.meets_inScope hx)
  exact hinner.rel_of_ok hd
 have hend:(do
   enterFunction name ret
   reporting (inScope x)
   modify (·.leaveFunction t) : Check Unit).after c = d.leaveFunction t := by
  have hentered:enterFunction name ret c = .ok () entered:=rfl
  rw [Check.after,bind_ok hentered,bind_ok hd]
  rfl
 have hswitches:=hbody.switches
 rw [hend]
 refine .leaveFunction (hbody.level.trans hc.level) hbody.flow ?_ t
 generalize d.switches = gs at hswitches ⊢
 cases hswitches
 rfl

lemma settles_checkExternal (e:External) : Settles (checkExternal e) := by
 cases e with
 | declaration d => exact (Restores.of_meets (enters_restored.checkDeclaration d)).settles
 | definition head body =>
  refine (Restores.of_meets (restored.resolveType head.type)).settles.bind fun t => ?_
  refine (Restores.of_looks (.of (.definedSignature head t False.elim))).settles.bind fun f => ?_
  refine (Restores.of_looks (.of (.paramsNamed _ _))).settles.bind fun _ => ?_
  refine (Restores.of_looks (.of (.returnsComplete _ _))).settles.bind fun _ => ?_
  refine (Restores.of_meets (enters_restored.declareFunction _ _ _ _)).settles.bind fun _ => ?_
  have hparams:restored.Meets [] (declareParams head.type.params f.params):=
   Account.declareParams (P := fun _ => True) (fun _ h => Checker.Restored.declare h) _
    fun _ _ => trivial
  exact settles_body _ _ _ (hparams.first fun _ =>
   StatementAccount.meets_inScope (restoredStatements.checkStmts body.stmts))

lemma settles_checkExternals (es:List External) : Settles (checkExternals es) := by
 induction es with
 | nil => exact fun _ h => h
 | cons e es ih => exact (settles_checkExternal e).reporting.bind fun _ => ih

lemma Checker.Idle.analyze {c:Checker} (h:c.Idle) (u:ProgramUnit) : (c.analyze u).Idle := by
 have hc:=settles_checkExternals u.externals c h
 unfold Check.after at hc
 unfold Checker.analyze
 cases hu : checkExternals u.externals c with
 | ok _ d =>
  rw [hu] at hc
  exact hc
 | error f d =>
  rw [hu] at hc
  exact hc.report f

lemma Checker.Idle.analyzeAll {c:Checker} (h:c.Idle) (us:List ProgramUnit) :
  (us.foldl Checker.analyze c).Idle := by
 induction us generalizing c with
 | nil => exact h
 | cons u us ih => exact ih (h.analyze u)

/-- Checking a statement, in whatever state and with whatever outcome, restores the context.
After whole external declarations of a unit, and also right after the next one, before its fault
is reported, the checker stands outside of every function and every block. -/
theorem context_restored :
  (∀ (s:Stmt) (c:Checker), c.Restored ((checkStmt s).after c)) ∧
   ∀ (warnUnused:Bool) (us:List ProgramUnit) (es:List External),
    let c:=(checkExternals es).after (us.foldl Checker.analyze (.start warnUnused))
    c.Idle ∧ ∀ e, ((checkExternal e).after c).Idle := by
 refine ⟨fun s => Restores.of_meets (restoredStatements.checkStmt s),fun warnUnused us es => ?_⟩
 have hc:=settles_checkExternals es _ ((Checker.Idle.start warnUnused).analyzeAll us)
 exact ⟨hc,fun e => settles_checkExternal e _ hc⟩

end CCheck
