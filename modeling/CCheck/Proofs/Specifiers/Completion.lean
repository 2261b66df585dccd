import CCheck.Proofs.Specifiers.Retention

/-! # Definitions that are completed

A run notes no specifiers but those of its sites. A run that succeeds has met all specifiers of
given sites and has completed all that it has noted, apart from those that may be lost. -/

set_option autoImplicit false

namespace CCheck

open Check
open Site (nodesAll topsAll sureAll lostAll)

variable {α β:Type}

variable {id start:Nat} {key:SpecifierKey} {size:Expr} {t:Check CType} {u:Check Int64}

/-! ### Specifiers that are done with -/

/-- The record has the kind and the tag of the specifier, and its members by their names, no two of
which are equal. -/
structure RecordDef.CompletedBy (d:RecordDef) (spec:RecordSpec) : Prop where
 kind : d.kind = spec.kind
 tag : d.tag = spec.tag.map (·.name)
 fields : ∃ fields, d.fields = some fields ∧
  fields.map (·.name) = (spec.members.getD []).map (·.name.name)
 distinct : ((spec.members.getD []).map (·.name.name)).Nodup

lemma RecordDef.CompletedBy.isComplete {d:RecordDef} {spec:RecordSpec}
  (h:d.CompletedBy spec) : d.isComplete = true := by
 obtain ⟨fields,hfields,-⟩:=h.fields
 exact Option.isSome_iff_exists.mpr ⟨fields,hfields⟩

/-- The specifier has completed its record, or declared all its enumerators. One that stands outside
functions has done so in the global scope. -/
def Checker.Fulfils (c:Checker) (inBlock:Bool) : Specifier → Prop
 | .record spec => ∃ id d, c.definedRecords.lookup spec.span.start = some id ∧
   c.records.get? id = some d ∧ d.CompletedBy spec ∧
   (inBlock = false → ∀ tag, spec.tag = some tag →
    c.symbols.globalScope.tag? tag.name = some (.record id))
 | .enum spec => ∀ e ∈ spec.enumerators.getD [], c.Enumerates e.name ∧
   (inBlock = false → c.symbols.globalScope.Enumerates e.name)

def Checker.Covers (c:Checker) (lost:List SpecifierKey) (ns:List Node) : Prop :=
 ∀ n ∈ ns, c.defines n.key = true ∨ n.keys ⊆ lost

namespace Checker.Retains

variable {c d:Checker} {lost:List SpecifierKey} {ns:List Node}

lemma undefined (h:c.Retains d) (hkey:d.defines key = false) :
  c.defines key = false := by
 cases hc : c.defines key with
 | false => rfl
 | true => exact (h.defines hc).symm.trans hkey

lemma incomplete (h:c.Retains d)
  (hid:∀ r, d.records.get? id = some r → r.isComplete = false) :
  ∀ r, c.records.get? id = some r → r.isComplete = false := by
 intro r hr
 obtain ⟨r',hr',-,-,hsame⟩:=h.records.records id r hr
 cases hcomplete : r.isComplete with
 | false => rfl
 | true =>
  cases hsame hcomplete
  exact hcomplete.symm.trans (hid r hr')

lemma covers (h:c.Retains d) (hns:c.Covers lost ns) : d.Covers lost ns :=
 fun n hn => (hns n hn).imp_left h.defines

lemma fulfils (h:c.Retains d) {inBlock:Bool} {s:Specifier} (hs:c.Fulfils inBlock s) :
  d.Fulfils inBlock s := by
 cases s with
 | record spec =>
  obtain ⟨id,def',hid,hdef,hcompleted,htag⟩:=hs
  obtain ⟨def'',hdef',-,-,hsame⟩:=h.records.records id def' hdef
  cases hsame hcompleted.isComplete
  exact ⟨id,def',h.specifiers _ _ hid,hdef',hcompleted,
   fun hfile tag ht => h.global.tags _ _ (htag hfile tag ht)⟩
 | enum spec =>
  intro e he
  obtain ⟨hsomewhere,hglobal⟩:=hs e he
  exact ⟨h.enumerators _ hsomewhere,fun hfile => h.global.enumerators _ (hglobal hfile)⟩

end Checker.Retains

/-! ### Runs that succeed -/

structure OpensRecord (lost:List SpecifierKey) (c d:Checker) (start id:Nat) : Prop where
 new : c.definedRecords.lookup start = none
 noted : d.definedRecords.lookup start = some id
 kept : .record start ∉ lost

/-- What holds of a run from `c` to `d` that has succeeded. It may come upon the specifiers `ns`,
each given with whether it stands in a function body, and has met `ts`. -/
structure Completes (lost:List SpecifierKey) (ns:List (Bool × Node)) (ts:List Node)
  (c d:Checker) : Prop where
 covers : d.Covers lost ts
 fulfils : ∀ key, d.defines key = true → c.defines key = false → key ∉ lost →
  ∃ n ∈ ns, n.2.key = key ∧ d.Fulfils n.1 n.2.specifier ∧ d.Covers lost (sureAll n.2.body)
 incomplete : ∀ start id, OpensRecord lost c d start id →
  ∀ r, c.records.get? id = some r → r.isComplete = false
 distinct : ∀ start start' id,
  OpensRecord lost c d start id → OpensRecord lost c d start' id → start = start'

section Runs

variable {lost:List SpecifierKey} {ns ns':List (Bool × Node)} {ts ts':List Node}
 {c d e:Checker}

lemma Completes.complete (h:Completes lost ns ts c d)
  (ho:OpensRecord lost c d start id) :
  ∃ r, d.records.get? id = some r ∧ r.isComplete = true := by
 have hd:d.defines (.record start) = true:=Option.isSome_iff_exists.mpr ⟨id,ho.noted⟩
 have hc:c.defines (.record start) = false := by rw [Checker.defines,ho.new]; rfl
 obtain ⟨⟨b,s,body⟩,-,hkey,hfulfils,-⟩:=h.fulfils _ hd hc ho.kept
 cases s with
 | enum spec => cases hkey
 | record spec =>
  cases hkey
  obtain ⟨id',r,hid',hr,hcompleted,-⟩:=hfulfils
  cases ho.noted.symm.trans hid'
  exact ⟨r,hr,hcompleted.isComplete⟩

lemma OpensRecord.cases (h:d.Retains e) (ho:OpensRecord lost c e start id) :
  OpensRecord lost c d start id ∨ OpensRecord lost d e start id := by
 cases hd : d.definedRecords.lookup start with
 | none => exact .inr ⟨hd,ho.noted,ho.kept⟩
 | some id' =>
  cases (h.specifiers _ _ hd).symm.trans ho.noted
  exact .inl ⟨ho.new,hd,ho.kept⟩

lemma Completes.trans (h:Completes lost ns ts c d) (hcd:c.Retains d)
  (h':Completes lost ns' ts' d e) (hde:d.Retains e) :
  Completes lost (ns ++ ns') (ts ++ ts') c e := by
 -- A record that the first run has completed is none that the second one opens.
 have hapart:∀ {start start' id},
   OpensRecord lost c d start id → ¬ OpensRecord lost d e start' id := by
  intro start start' id ho ho'
  obtain ⟨r,hr,hcomplete⟩:=h.complete ho
  exact Bool.false_ne_true ((h'.incomplete _ _ ho' r hr).symm.trans hcomplete)
 refine ⟨fun n hn => ?_,fun key he hc hkey => ?_,fun start id ho r hr => ?_,
  fun start start' id ho ho' => ?_⟩
 · rcases List.mem_append.mp hn with hn | hn
   · exact hde.covers h.covers n hn
   · exact h'.covers n hn
 · cases hd : d.defines key with
   | true =>
    obtain ⟨n,hn,hnkey,hfulfils,hbody⟩:=h.fulfils key hd hc hkey
    exact ⟨n,List.mem_append_left _ hn,hnkey,hde.fulfils hfulfils,hde.covers hbody⟩
   | false =>
    obtain ⟨n,hn,hrest⟩:=h'.fulfils key he hd hkey
    exact ⟨n,List.mem_append_right _ hn,hrest⟩
 · rcases ho.cases hde with ho | ho
   · exact h.incomplete start id ho r hr
   · exact hcd.incomplete (h'.incomplete start id ho) r hr
 · rcases ho.cases hde with ho | ho <;> rcases ho'.cases hde with ho' | ho'
   · exact h.distinct _ _ _ ho ho'
   · exact absurd ho' (hapart ho)
   · exact absurd ho (hapart ho')
   · exact h'.distinct _ _ _ ho ho'

lemma Completes.mono (h:Completes lost ns ts c d) (hns:ns ⊆ ns') (hts:ts' ⊆ ts) :
  Completes lost ns' ts' c d := by
 refine ⟨fun n hn => h.covers n (hts hn),fun key hd hc hkey => ?_,h.incomplete,h.distinct⟩
 obtain ⟨n,hn,hrest⟩:=h.fulfils key hd hc hkey
 exact ⟨n,hns hn,hrest⟩

lemma Completes.of_lost (hcovers:d.Covers lost ts)
  (hlost:∀ key, d.defines key = true → c.defines key = false → key ∈ lost) :
  Completes lost ns ts c d := by
 have hopens:∀ {start id}, ¬ OpensRecord lost c d start id := by
  intro start id ho
  refine ho.kept (hlost _ (Option.isSome_iff_exists.mpr ⟨id,ho.noted⟩) ?_)
  rw [Checker.defines,ho.new]
  rfl
 exact ⟨hcovers,fun key hd hc hkey => absurd (hlost key hd hc) hkey,
  fun _ _ ho => absurd ho hopens,fun _ _ _ ho => absurd ho hopens⟩

structure Checker.Quiet (c d:Checker) : Prop where
 retains : c.Retains d
 records : d.definedRecords = c.definedRecords
 enums : d.definedEnums = c.definedEnums

namespace Checker.Quiet

lemma refl (c:Checker) : c.Quiet c := ⟨.refl c,rfl,rfl⟩

lemma trans (h:c.Quiet d) (h':d.Quiet e) : c.Quiet e :=
 ⟨h.retains.trans h'.retains,h'.records.trans h.records,h'.enums.trans h.enums⟩

lemma defines (h:c.Quiet d) : d.defines = c.defines := by
 funext key
 cases key with
 | record start => rw [Checker.defines,Checker.defines,h.records]
 | enum start => rw [Checker.defines,Checker.defines,h.enums]

lemma not_new (h:c.Quiet d) (hd:d.defines key = true) :
  c.defines key ≠ false := by
 rw [h.defines] at hd
 exact fun hc => Bool.false_ne_true (hc.symm.trans hd)

lemma completes (h:c.Quiet d) (hts:d.Covers lost ts) : Completes lost ns ts c d :=
 .of_lost hts fun _ hd hc => absurd hc (h.not_new hd)

lemma completes_nil (h:c.Quiet d) : Completes lost [] [] c d :=
 h.completes fun _ hn => nomatch hn

lemma last (h:d.Quiet e) (hcd:c.Retains d) (hdone:Completes lost ns ts c d) :
  Completes lost ns ts c e := by
 have hboth:=hdone.trans hcd h.completes_nil h.retains
 rwa [List.append_nil,List.append_nil] at hboth

lemma first (h:c.Quiet d) (hde:d.Retains e) (hdone:Completes lost ns ts d e) :
  Completes lost ns ts c e :=
 h.completes_nil.trans h.retains hdone hde

end Checker.Quiet

lemma Completes.refl (hcovers:c.Covers lost ts) : Completes lost ns ts c c :=
 (Checker.Quiet.refl c).completes hcovers

end Runs

/-! ### Settings -/

/-- Where a run takes place: inside a function or not, and with specifiers that may be lost. -/
structure Setting where
 inBlock : Bool
 lost : List SpecifierKey

namespace Setting

def placed (Γ:Setting) (ss:List Site) : List (Bool × Node) := (nodesAll ss).map (Γ.inBlock,·)

structure Fits (Γ:Setting) (c:Checker) : Prop where
 tags : c.TagsNamed
 block : Γ.inBlock = true → c.function.isSome = true
 file : Γ.inBlock = false → c.symbols.level = 0

/-- What holds of a run from `c` to `d`, whatever its outcome. What it notes belongs to a specifier
that stands in no body and had not been met. -/
structure Reaches (Γ:Setting) (ss:List Site) (c d:Checker) : Prop where
 fits : Γ.Fits d
 retains : c.Retains d
 origin : ∀ key, d.defines key = true → c.defines key = false →
  ∃ n ∈ topsAll ss, c.defines n.key = false ∧ key ∈ n.keys

variable {Γ:Setting} {ss ss':List Site} {ns:List (Bool × Node)} {ts ts' pre:List Node}
 {c d e:Checker}

lemma placed_append (ss ss':List Site) :
  Γ.placed (ss ++ ss') = Γ.placed ss ++ Γ.placed ss' := by
 rw [placed,Site.nodesAll_append,List.map_append]
 rfl

lemma placed_subset (h:nodesAll ss ⊆ nodesAll ss') : Γ.placed ss ⊆ Γ.placed ss' :=
 List.map_subset _ h

lemma Reaches.refl (h:Γ.Fits c) : Γ.Reaches ss c c :=
 ⟨h,.refl c,fun _ hd hc => absurd (hd.symm.trans hc) (Ne.symm Bool.false_ne_true)⟩

lemma Reaches.trans (h:Γ.Reaches ss c d) (h':Γ.Reaches ss' d e) :
  Γ.Reaches (ss ++ ss') c e := by
 refine ⟨h'.fits,h.retains.trans h'.retains,fun key he hc => ?_⟩
 rw [Site.topsAll_append]
 cases hd : d.defines key with
 | true =>
  obtain ⟨n,hn,hnew,hkey⟩:=h.origin key hd hc
  exact ⟨n,List.mem_append_left _ hn,hnew,hkey⟩
 | false =>
  obtain ⟨n,hn,hnew,hkey⟩:=h'.origin key he hd
  exact ⟨n,List.mem_append_right _ hn,h.retains.undefined hnew,hkey⟩

lemma Reaches.mono (h:Γ.Reaches ss c d) (htops:topsAll ss ⊆ topsAll ss') :
  Γ.Reaches ss' c d := by
 refine ⟨h.fits,h.retains,fun key hd hc => ?_⟩
 obtain ⟨n,hn,hnew,hkey⟩:=h.origin key hd hc
 exact ⟨n,htops hn,hnew,hkey⟩

/-! ### The judgement -/

/-- How a run from `c` may end. Errors that have been reported excuse what is incomplete. -/
inductive Ends (Γ:Setting) (ss:List Site) (ts:List Node) (c:Checker) :
  EStateM.Result Fault Checker α → Prop
 | ok {a:α} {d:Checker} (reaches:Γ.Reaches ss c d)
   (completes:d.errorCount = 0 → Completes Γ.lost (Γ.placed ss) ts c d) :
   Ends Γ ss ts c (.ok a d)
 | error {f:Fault} {d:Checker} (reaches:Γ.Reaches ss c d) : Ends Γ ss ts c (.error f d)

/-- The step works on the sites `ss`, which may be evaluated in a size, and with success it meets
`ts`, if `pre` has been met before. -/
def Does (Γ:Setting) (inSize:Bool) (pre:List Node) (ss:List Site) (ts:List Node)
  (x:Check α) : Prop :=
 lostAll Γ.inBlock inSize ss ⊆ Γ.lost → ∀ c, Γ.Fits c →
  (c.errorCount = 0 → c.Covers Γ.lost pre) → Γ.Ends ss ts c (x c)

variable {inSize:Bool} {x:Check α} {k:α → Check β}

lemma Ends.mono {o:EStateM.Result Fault Checker α} (h:Γ.Ends ss ts c o)
  (htops:topsAll ss ⊆ topsAll ss') (hnodes:nodesAll ss ⊆ nodesAll ss') (hts:ts' ⊆ ts) :
  Γ.Ends ss' ts' c o := by
 cases h with
 | ok reaches completes =>
  refine .ok (reaches.mono htops) fun herrors => ?_
  exact (completes herrors).mono (placed_subset hnodes) hts
 | error reaches => exact .error (reaches.mono htops)

lemma Ends.after {o:EStateM.Result Fault Checker α} (hreaches:Γ.Reaches ss c d)
  (hcompletes:d.errorCount = 0 → Completes Γ.lost (Γ.placed ss) ts c d)
  (h:Γ.Ends ss' ts' d o) : Γ.Ends (ss ++ ss') (ts ++ ts') c o := by
 cases h with
 | ok reaches completes =>
  refine .ok (hreaches.trans reaches) fun herrors => ?_
  have hd:_ = 0:=Nat.le_zero.mp (herrors ▸ reaches.retains.errors)
  rw [placed_append]
  exact (hcompletes hd).trans hreaches.retains (completes herrors) reaches.retains
 | error reaches => exact .error (hreaches.trans reaches)

namespace Does

lemma bind (hx:Γ.Does inSize pre ss ts x) (hk:∀ a, Γ.Does inSize (pre ++ ts) ss' ts' (k a)) :
  Γ.Does inSize pre (ss ++ ss') (ts ++ ts') (x >>= k) := by
 intro hlost c hc hpre
 rw [Site.lostAll_append,List.append_subset] at hlost
 have hrun:=hx hlost.1 c hc hpre
 simp only [Bind.bind,EStateM.bind]
 generalize x c = o at hrun
 cases hrun with
 | ok reaches completes =>
  refine .after reaches completes (hk _ hlost.2 _ reaches.fits fun herrors => ?_)
  have hc:c.errorCount = 0:=Nat.le_zero.mp (herrors ▸ reaches.retains.errors)
  intro n hn
  rcases List.mem_append.mp hn with hn | hn
  · exact reaches.retains.covers (hpre hc) n hn
  · exact (completes herrors).covers n hn
 | error reaches => exact .error (reaches.mono (Site.topsAll_subset (List.subset_append_left _ _)))

lemma mono (hx:Γ.Does inSize pre ss ts x) (hss:ss ⊆ ss') (hts:ts' ⊆ ts) :
  Γ.Does inSize pre ss' ts' x :=
 fun hlost c hc hpre => (hx (List.Subset.trans (Site.lostAll_subset hss) hlost) c hc hpre).mono
  (Site.topsAll_subset hss) (Site.nodesAll_subset hss) hts

lemma last (hx:Γ.Does inSize pre ss ts x) (hk:∀ a, Γ.Does inSize (pre ++ ts) [] [] (k a)) :
  Γ.Does inSize pre ss ts (x >>= k) := by
 have h:=hx.bind hk
 rwa [List.append_nil,List.append_nil] at h

lemma first (hx:Γ.Does inSize pre [] [] x) (hk:∀ a, Γ.Does inSize pre ss ts (k a)) :
  Γ.Does inSize pre ss ts (x >>= k) :=
 hx.bind fun a => by rw [List.append_nil]; exact hk a

lemma look (hx:undisturbing.Looks [] x) : Γ.Does inSize pre ss [] x := by
 intro _ c hc _
 have hstays:=hx c
 generalize x c = o at hstays
 cases hstays with
 | ok a => exact .ok (.refl hc) fun _ => .refl fun _ hn => nomatch hn
 | error => exact .error (.refl hc)

lemma pure (a:α) : Γ.Does inSize pre ss [] (pure a) := look (.pure a)

lemma fail (cause:Cause) (span:Span) :
  Γ.Does inSize pre ss ts (Check.fail cause span:Check α) :=
 fun _ _ hc _ => .error (.refl hc)

lemma ite {p:Prop} [Decidable p] {y:Check α} (yes:Γ.Does inSize pre ss ts x)
  (no:Γ.Does inSize pre ss ts y) : Γ.Does inSize pre ss ts (if p then x else y) := by
 split
 · exact yes
 · exact no

lemma get {k:Checker → Check β} (h:∀ c, Γ.Does inSize pre ss ts (k c)) :
  Γ.Does inSize pre ss ts (MonadState.get >>= k) :=
 fun hlost c hc hpre => h c hlost c hc hpre

lemma value {x:Check CType} (hx:Γ.Does inSize pre ss ts x) :
  Γ.Does inSize pre ss ts (Check.value x) := hx.last fun _ => .pure _

lemma evaluated (hx:Γ.Does false pre ss ts x) : Γ.Does inSize pre ss ts x :=
 fun hlost => hx (List.Subset.trans (Site.lostAll_subset_inSize _ _ _) hlost)

lemma skippable (hx:Γ.Does inSize pre ss ts x) :
  Γ.Does inSize pre [.skippable ss] [] x := by
 intro hlost c hc hpre
 rw [Site.lostAll_singleton,Site.lost] at hlost
 refine (hx ?_ c hc hpre).mono ?_ ?_ (List.nil_subset _)
 · cases inSize with
   | true => exact List.Subset.trans (Site.lostAll_subset_keys _ _ ss) hlost
   | false => exact hlost
 · rw [Site.topsAll_singleton,Site.tops]
   exact List.Subset.refl _
 · rw [Site.nodesAll_singleton,Site.nodes]
   exact List.Subset.refl _

end Does

lemma Reaches.completes (h:Γ.Reaches ss c d)
  (hss:∀ n ∈ topsAll ss, c.defines n.key = true ∨ n.keys ⊆ Γ.lost) (hts:d.Covers Γ.lost ts) :
  Completes Γ.lost ns ts c d := by
 refine .of_lost hts fun key hd hc => ?_
 obtain ⟨n,hn,hnew,hkey⟩:=h.origin key hd hc
 rcases hss n hn with hmet | hlost
 · exact absurd (hmet.symm.trans hnew) (Ne.symm Bool.false_ne_true)
 · exact hlost hkey

lemma Does.attempt (hx:Γ.Does inSize pre ss ts x)
  (hpre:∀ n ∈ topsAll ss, n ∈ pre ∨ n.keys ⊆ Γ.lost) :
  Γ.Does inSize pre ss [] (attempt x) := by
 intro hlost c hc hcovers
 have hrun:=hx hlost c hc hcovers
 have hdone:∀ {d}, Γ.Reaches ss c d → d.errorCount = 0 →
   Completes Γ.lost (Γ.placed ss) [] c d := by
  intro d reaches herrors
  have hc:c.errorCount = 0:=Nat.le_zero.mp (herrors ▸ reaches.retains.errors)
  refine reaches.completes (fun n hn => ?_) fun _ hn => nomatch hn
  exact (hpre n hn).elim (hcovers hc n) .inr
 unfold Check.attempt
 generalize x c = o at hrun
 cases hrun with
 | ok reaches => exact .ok reaches (hdone reaches)
 | error reaches => exact .ok reaches (hdone reaches)

lemma Does.constants {e:Expr} (hx:Γ.Does false pre e.constants ts x) :
  Γ.Does false pre e.sites ts x := by
 intro hlost c hc hcovers
 rw [← Expr.lostAll_constants] at hlost
 refine (hx hlost c hc hcovers).mono ?_ ?_ (List.Subset.refl _)
 · rw [Expr.topsAll_constants]
   exact List.Subset.refl _
 · rw [Expr.nodesAll_constants]
   exact List.Subset.refl _

lemma Does.isNull {e:Expr} {t:CType}
  (hu:Γ.Does false pre e.constants ts u) (hpre:topsAll e.sites ⊆ pre) :
  Γ.Does false pre e.sites [] (isNull e t u) := by
 have hattempt:=hu.attempt fun n hn => .inl (hpre (Expr.topsAll_constants e ▸ hn))
 refine .ite (hattempt.constants.last fun v => ?_) (.pure _)
 cases v <;> exact .pure _

lemma Ends.lost {o:EStateM.Result Fault Checker α} (h:Γ.Ends ss' ts' c o)
  (htops:topsAll ss' ⊆ topsAll ss) (hlost:Site.keysAll ss ⊆ Γ.lost) :
  Γ.Ends ss (topsAll ss) c o := by
 have htop:∀ n ∈ topsAll ss, n.keys ⊆ Γ.lost:=
  fun n hn => List.Subset.trans (Site.keys_topsAll ss hn) hlost
 cases h with
 | error reaches => exact .error (reaches.mono htops)
 | ok reaches =>
  refine .ok (reaches.mono htops) fun _ => ?_
  exact (reaches.mono htops).completes (fun n hn => .inr (htop n hn)) fun n hn => .inr (htop n hn)

lemma Does.runtimeLength (vla:Bool)
  (hu:Γ.Does false pre size.constants ts u) (ht:∀ pre, Γ.Does false pre size.sites ts' t)
  (hlost:Site.keysAll size.constants ⊆ Γ.lost) :
  Γ.Does false pre (size.constants ++ size.sites) [] (arrayLength size vla u t) := by
 have hattempt:=hu.attempt fun n hn => .inr
  (List.Subset.trans (Site.keys_topsAll _ hn) hlost)
 refine hattempt.bind fun v => ?_
 cases v with
 | ok n => exact .ite (.fail _ _) (.pure _)
 | error f =>
  refine .ite (.look fun c => .error (.refl c)) (.get fun c => ?_)
  refine .ite (.fail _ _) ?_
  refine ((ht _).value.mono (List.Subset.refl _) (List.nil_subset _)).last fun n => ?_
  exact .ite (.pure _) (.look (.failNaming n (fun _ => rfl) _))

lemma Does.arrayLength {vla:Bool}
  (hu:∀ inSize pre, Γ.Does inSize pre size.constants (sureAll size.constants) u)
  (ht:∀ pre, Γ.Does false pre size.sites (topsAll size.sites) t) :
  Γ.Does inSize pre [.size vla size.constants] (topsAll size.constants)
   (arrayLength size vla u t) := by
 intro hlost c hc hpre
 have htops:topsAll [.size vla size.constants] = topsAll size.constants:=
  Site.topsAll_singleton _
 have hnodes:nodesAll [.size vla size.constants] = nodesAll size.constants:=
  Site.nodesAll_singleton _
 have hsize:∀ {d}, Γ.Reaches size.constants c d → Γ.Reaches [.size vla size.constants] c d:=
  fun h => h.mono (htops ▸ List.Subset.refl _)
 rw [Site.lostAll_singleton,Site.lost] at hlost
 cases hvla : vla && Γ.inBlock with
 | true =>
  rw [hvla,if_pos rfl] at hlost
  have hrun:=Does.runtimeLength vla (hu false pre) ht hlost ?_ c hc hpre
  · rw [← htops]
    refine hrun.lost ?_ (fun key hkey => hlost ?_)
    · rw [htops,Site.topsAll_append,Expr.topsAll_constants,List.append_subset]
      exact ⟨List.Subset.refl _,List.Subset.refl _⟩
    · rwa [Site.keysAll,hnodes] at hkey
  · rw [Site.lostAll_append,← Expr.lostAll_constants,List.append_subset,and_self]
    exact List.Subset.trans (Site.lostAll_subset_keys _ _ _) hlost
 | false =>
  rw [hvla,if_neg Bool.false_ne_true] at hlost
  have hrun:=hu true pre hlost c hc hpre
  unfold Check.arrayLength
  simp only [Bind.bind,EStateM.bind,Check.attempt]
  generalize u c = o at hrun
  cases hrun with
  | @error f d reaches =>
   dsimp only
   cases vla with
   | false => exact .error (hsize reaches)
   | true =>
    have hfile:atFileScope d = .ok true d:=
     congrArg (EStateM.Result.ok · d) (beq_iff_eq.mpr (reaches.fits.file hvla))
    simp only [Bool.not_true,Bool.false_eq_true,if_false,EStateM.bind,hfile]
    exact .error (hsize reaches)
  | ok reaches completes =>
   dsimp only
   split
   · exact .error (hsize reaches)
   · refine .ok (hsize reaches) fun herrors => ?_
     have hsure:=completes herrors
     refine { hsure.mono (placed_subset (hnodes ▸ List.Subset.refl _)) (List.Subset.refl _) with
      covers := fun n hn => ?_ }
     rcases Site.sure_or_lost Γ.inBlock _ hn with hn | hkeys
     · exact hsure.covers n hn
     · exact .inr (List.Subset.trans hkeys hlost)

structure Notes (Γ:Setting) (key:SpecifierKey) (c d:Checker) : Prop where
 fits : Γ.Fits d
 retains : c.Retains d
 noted : ∀ key', d.defines key' = true → c.defines key' = true ∨ key' = key

variable {n:Node} {c₁:Checker}

lemma Notes.reaches (hnotes:Γ.Notes n.key c c₁) (hnew:c.defines n.key = false)
  (h:Γ.Reaches n.body c₁ d) : Γ.Reaches [.definition n.specifier n.body] c d := by
 refine ⟨h.fits,hnotes.retains.trans h.retains,fun key hd hc => ⟨n,?_,hnew,?_⟩⟩
 · rw [Site.topsAll_singleton,Site.tops]
   exact List.mem_cons_self
 · cases hc₁ : c₁.defines key with
   | false =>
    obtain ⟨n',hn',-,hkey⟩:=h.origin key hd hc₁
    exact List.mem_cons_of_mem _ (Site.keys_topsAll _ hn' hkey)
   | true =>
    rcases hnotes.noted key hc₁ with hmet | rfl
    · exact absurd (hmet.symm.trans hc) (Ne.symm Bool.false_ne_true)
    · exact List.mem_cons_self

lemma Notes.completes (hnotes:Γ.Notes n.key c c₁) (hkey:d.defines n.key = true)
  (h:Completes Γ.lost (Γ.placed n.body) ts c₁ d) (hbody:sureAll n.body ⊆ ts)
  (hfulfils:d.Fulfils Γ.inBlock n.specifier)
  (hown:∀ start id, OpensRecord Γ.lost c d start id →
   OpensRecord Γ.lost c₁ d start id ∨ n.key = .record start ∧
    (∀ r, c.records.get? id = some r → r.isComplete = false) ∧
    ∀ start', ¬ OpensRecord Γ.lost c₁ d start' id) :
  Completes Γ.lost (Γ.placed [.definition n.specifier n.body]) [n] c d := by
 refine ⟨List.forall_mem_singleton.mpr (.inl hkey),fun key hd hc hlost => ?_,
  fun start id ho => ?_,fun start start' id ho ho' => ?_⟩
 · rw [placed,Site.nodesAll_singleton,Site.nodes,List.map_cons]
   cases hc₁ : c₁.defines key with
   | false =>
    obtain ⟨n',hn',hrest⟩:=h.fulfils key hd hc₁ hlost
    exact ⟨n',List.mem_cons_of_mem _ hn',hrest⟩
   | true =>
    rcases hnotes.noted key hc₁ with hmet | rfl
    · exact absurd (hmet.symm.trans hc) (Ne.symm Bool.false_ne_true)
    · exact ⟨_,List.mem_cons_self,rfl,hfulfils,fun n' hn' => h.covers n' (hbody hn')⟩
 · rcases hown start id ho with ho | ⟨-,hincomplete,-⟩
   · exact hnotes.retains.incomplete (h.incomplete start id ho)
   · exact hincomplete
 · rcases hown start id ho with ho | ⟨hstart,-,hapart⟩ <;>
    rcases hown start' id ho' with ho' | ⟨hstart',-,hapart'⟩
   · exact h.distinct _ _ _ ho ho'
   · exact absurd ho (hapart' _)
   · exact absurd ho' (hapart _)
   · cases hstart.symm.trans hstart'
     rfl

/-! ### Steps that define nothing -/

structure Calm (Γ:Setting) (c d:Checker) : Prop where
 fits : Γ.Fits d
 quiet : c.Quiet d

namespace Calm

lemma refl (h:Γ.Fits c) : Γ.Calm c c := ⟨h,.refl c⟩

lemma trans (h:Γ.Calm c d) (h':Γ.Calm d e) : Γ.Calm c e := ⟨h'.fits,h.quiet.trans h'.quiet⟩

lemma retains (h:Γ.Calm c d) : c.Retains d := h.quiet.retains

lemma reaches (h:Γ.Calm c d) : Γ.Reaches ss c d :=
 ⟨h.fits,h.retains,fun _ hd hc => absurd hc (h.quiet.not_new hd)⟩

lemma setSymbols {t:SymbolTable} (h:Γ.Fits c) (ht:c.symbols.Retains t)
  (htags:Checker.TagsNamed { c with symbols := t }) :
  Γ.Calm c { c with symbols := t } := by
 have hlevel:t.level = c.symbols.level := by
  have hlength:=ht.length_eq
  simp only [SymbolTable.scopes,List.length_cons] at hlength
  exact (Nat.succ.inj hlength).symm
 exact ⟨⟨htags,h.block,fun hfile => hlevel.trans (h.file hfile)⟩,.setSymbols ht,rfl,rfl⟩

lemma setRecords {r:Registry} (h:Γ.Fits c) (hr:c.records.Persists r) :
  Γ.Calm c { c with records := r } :=
 ⟨⟨h.tags.setRecords hr,h.block,h.file⟩,.setRecords hr,rfl,rfl⟩

end Calm

lemma Reaches.calm (h:Γ.Reaches ss c d) (hcalm:Γ.Calm d e) : Γ.Reaches ss c e := by
 have hnone:Γ.Reaches [] d e:=hcalm.reaches
 have hreaches:=h.trans hnone
 rwa [List.append_nil] at hreaches

def Calms (Γ:Setting) (x:Check α) : Prop :=
 Check.Follows (fun c d => Γ.Fits c → Γ.Calm c d) x

namespace Calms

lemma bind (hx:Γ.Calms x) (hk:∀ a, Γ.Calms (k a)) : Γ.Calms (x >>= k) :=
 Check.Follows.bind (fun h h' hc => (h hc).trans (h' (h hc).fits)) hx hk

lemma does (hx:Γ.Calms x) : Γ.Does inSize pre ss [] x := by
 intro _ c hc _
 have hcalm:=hx c hc
 unfold Check.after at hcalm
 cases hrun : x c with
 | ok a d =>
  rw [hrun] at hcalm
  exact .ok hcalm.reaches fun _ => hcalm.quiet.completes fun _ hn => nomatch hn
 | error f d =>
  rw [hrun] at hcalm
  exact .error hcalm.reaches

lemma look (hx:undisturbing.Looks [] x) : Γ.Calms x := by
 intro c hc
 have hstays:=hx c
 unfold Check.after
 generalize x c = o at hstays
 cases hstays with
 | ok a => exact .refl hc
 | error => exact .refl hc

lemma get {k:Checker → Check β} (h:∀ c, Γ.Calms (k c)) : Γ.Calms (MonadState.get >>= k) :=
 fun c => h c c

lemma markUsed (name:String) : Γ.Calms (markUsed name) :=
 fun c hc => .setSymbols hc (.markUsed c.symbols name) (hc.tags.markUsed name)

lemma recordCall (f:LibraryFunction) (span:Span) : Γ.Calms (recordCall f span) :=
 fun c hc => ⟨{ hc with },{ Checker.Retains.refl c with },rfl,rfl⟩

lemma updateSymbols {f:SymbolTable → Except Fault SymbolTable}
  (h:∀ {c t}, Γ.Fits c → f c.symbols = .ok t → Γ.Calm c { c with symbols := t }) :
  Γ.Calms (updateSymbols f) := by
 intro c hc
 unfold Check.after Check.updateSymbols
 cases hf : f c.symbols with
 | ok t => exact h hc hf
 | error e => exact .refl hc

lemma declare (s:Symbol) : Γ.Calms (declare s) :=
 updateSymbols fun hc hs => .setSymbols hc (.declare hs) (hc.tags.declare hs)

lemma declareEnumTag (tag:Ident) : Γ.Calms (declareTag tag .enum) :=
 updateSymbols fun hc hs =>
  .setSymbols hc (.declareTag hs) (hc.tags.declareTag hs fun _ hid => nomatch hid)

lemma openEnum (tag:Option Ident) : Γ.Calms (openEnum tag) := by
 cases tag with
 | none => exact look (.pure _)
 | some tag =>
  refine get fun c => ?_
  split
  · exact look (.fail rfl _)
  · exact declareEnumTag tag

end Calms

end Setting

end CCheck
