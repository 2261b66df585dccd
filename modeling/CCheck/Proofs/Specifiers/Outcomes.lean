import CCheck.Proofs.Specifiers.Units
import CCheck.Proofs.Parsing.SpecifierPlaces

/-! # What becomes of specifiers

In a program without errors, what a specifier defines is there in the end, unless the specifier
stands where its faults may be lost. -/

set_option autoImplicit false

namespace CCheck

open Check
open Site (nodesAll sureAll)

variable {source:String} {u:ProgramUnit} {c d:Checker}

lemma Specifier.start_eq_of_key_eq {s s':Specifier} (h:s.key = s'.key) :
  s.start = s'.start := by
 cases s with
 | record spec =>
  cases s' with
  | record spec' => exact SpecifierKey.record.inj h
  | enum spec' => cases h
 | enum spec =>
  cases s' with
  | record spec' => cases h
  | enum spec' => exact SpecifierKey.enum.inj h

lemma eq_of_key_eq (hparse:parse source = .ok u) {x y:Bool × Node} (hx:x ∈ u.nodes)
  (hy:y ∈ u.nodes) (hkey:x.2.key = y.2.key) : x = y :=
 eq_of_start_eq hparse hx hy (Specifier.start_eq_of_key_eq hkey)

lemma ProgramUnit.mem_nodes_of_key {key:SpecifierKey}
  (h:key ∈ Site.keysAll (u.fileSites ++ u.blockSites)) : ∃ n ∈ u.nodes, n.2.key = key := by
 obtain ⟨n,hn,rfl⟩:=List.mem_map.mp h
 rw [Site.nodesAll_append] at hn
 rcases List.mem_append.mp hn with hn | hn
 · exact ⟨(false,n),List.mem_append_left _ (List.mem_map_of_mem hn),rfl⟩
 · exact ⟨(true,n),List.mem_append_right _ (List.mem_map_of_mem hn),rfl⟩

lemma Passes.mem_nodes (h:Passes u.lost u.fileSites u.blockSites c d) {key:SpecifierKey}
  (hd:d.defines key = true) (hc:c.defines key = false) : ∃ n ∈ u.nodes, n.2.key = key := by
 obtain ⟨n,hn,-,hkey⟩:=h.reaches.origin key hd hc
 exact ProgramUnit.mem_nodes_of_key (Site.keys_topsAll _ hn hkey)

/-- A specifier that is noted in a run without errors has done its work, and all specifiers in its
body that are met for sure have been met. -/
lemma Passes.fulfils (h:Passes u.lost u.fileSites u.blockSites c d)
  (hparse:parse source = .ok u) (herrors:d.errorCount = 0) {n:Bool × Node}
  (hn:n ∈ u.nodes) (hd:d.defines n.2.key = true) (hc:c.defines n.2.key = false)
  (hlost:n.2.key ∉ u.lost) :
  d.Fulfils n.1 n.2.specifier ∧ d.Covers u.lost (sureAll n.2.body) := by
 obtain ⟨n',hn',hkey,hrest⟩:=(h.completes herrors).fulfils _ hd hc hlost
 rwa [← eq_of_key_eq hparse hn' hn hkey]

lemma passes_start (u:ProgramUnit) (warnUnused:Bool) :
  Passes u.lost u.fileSites u.blockSites (.start warnUnused)
   ((Checker.start warnUnused).analyze u) :=
 passes_analyze u (.start warnUnused) (.start warnUnused)

/-- The specifier has a record, which is complete and has its members, or its enumerators are all
constants of the program. -/
def Checker.Finished (c:Checker) : Specifier → Prop
 | .record spec => ∃ id d, c.definedRecords.lookup spec.span.start = some id ∧
   c.records.get? id = some d ∧ d.CompletedBy spec
 | .enum spec => ∀ e ∈ spec.enumerators.getD [],
   ∃ x ∈ c.symbols.globals ++ c.functions.flatMap (·.locals), x.IsEnumerator e.name

lemma Checker.Fulfils.finished {inBlock:Bool} {s:Specifier} (h:c.Fulfils inBlock s)
  (hc:c.Idle) : c.Finished s := by
 cases s with
 | record spec =>
  obtain ⟨id,d,hid,hd,hcompleted,-⟩:=h
  exact ⟨id,d,hid,hd,hcompleted⟩
 | enum spec =>
  intro e he
  obtain ⟨⟨s,hs,x,hx,hname⟩ | ⟨f,hf,-⟩ | ⟨f,hf,x,hx,hname⟩,-⟩:=h e he
  · have hscopes:c.symbols.scopes = [c.symbols.current] := by
     rw [SymbolTable.scopes,List.eq_nil_of_length_eq_zero hc.level]
    rw [hscopes,List.mem_singleton] at hs
    refine ⟨x,List.mem_append_left _ ?_,hname⟩
    rw [SymbolTable.globals,SymbolTable.globalScope_of_level hc.level,← hs]
    exact hx
  · cases hc.function.symm.trans hf
  · exact ⟨x,List.mem_append_right _ (List.mem_flatMap.mpr ⟨f,hf,hx⟩),hname⟩

/-- In a program without errors, all that is noted as defined belongs to specifiers of the program.
Those whose faults cannot be lost have completed their records with their members, or declared all
their enumerators. -/
theorem started_definitions_finished (hparse:parse source = .ok u) (warnUnused:Bool)
  (herrors:((Checker.start warnUnused).analyze u).errorCount = 0) :
  let c:=(Checker.start warnUnused).analyze u
  (∀ key, c.defines key = true → ∃ s ∈ u.specifiers, s.key = key) ∧
   ∀ s ∈ u.specifiers, c.defines s.key = true → s.key ∉ u.lost → c.Finished s := by
 intro c
 have hpasses:=passes_start u warnUnused
 have hnone:∀ key, (Checker.start warnUnused).defines key = false := by
  intro key
  cases key <;> rfl
 refine ⟨fun key hkey => ?_,fun s hs hdefined hlost => ?_⟩
 · obtain ⟨n,hn,hnkey⟩:=hpasses.mem_nodes hkey (hnone key)
   exact ⟨n.2.specifier,List.mem_map_of_mem hn,hnkey⟩
 · obtain ⟨n,hn,rfl⟩:=List.mem_map.mp hs
   exact (hpasses.fulfils hparse herrors hn hdefined (hnone _) hlost).1.finished hpasses.idle

/-- A record, an enumeration among its members and a record in the size of an array. -/
theorem started_definitions_finished_nested :
  ∃ u, parse "struct S { enum { A } e; } s; void f(void) { int a[sizeof(struct { int x; })]; }" =
    .ok u ∧
   ((Checker.start true).analyze u).errorCount = 0 ∧
   u.specifiers.map Specifier.key = [.record 0,.enum 11,.record 58] ∧
   ∀ s ∈ u.specifiers, ((Checker.start true).analyze u).Finished s := by
 have h : (parse "struct S { enum { A } e; } s; void f(void) { int a[sizeof(struct { int x; })]; }"
   ).toOption.bind (fun u => some (((Checker.start true).analyze u).errorCount,
    u.specifiers.map Specifier.key,u.lost,
    u.specifiers.all fun s => ((Checker.start true).analyze u).defines s.key)) =
   some (0,[.record 0,.enum 11,.record 58],[],true) := by
  decide +kernel
 obtain ⟨u,hu,hall⟩:=exists_unit h
 simp only [Option.some.injEq,Prod.mk.injEq] at hall
 obtain ⟨herrors,hkeys,hlost,hdefined⟩:=hall
 refine ⟨u,hu,herrors,hkeys,fun s hs => ?_⟩
 refine (started_definitions_finished hu true herrors).2 s hs
  (List.all_eq_true.mp hdefined s hs) ?_
 rw [hlost]
 exact List.not_mem_nil

/-- The size of an array is evaluated in vain and then checked, when the record has been noted: that
a member occurs twice comes to light nowhere. -/
theorem duplicate_member_lost :
  ∃ u, parse "void f(int n) { int a[sizeof(struct {int x; int x;} *) + n]; }" = .ok u ∧
   ((Checker.start true).analyze u).errorCount = 0 ∧
   ∃ s ∈ u.specifiers, ((Checker.start true).analyze u).defines s.key = true ∧
    ¬ ((Checker.start true).analyze u).Finished s := by
 have h : (parse "void f(int n) { int a[sizeof(struct {int x; int x;} *) + n]; }"
   ).toOption.bind (fun u => some (((Checker.start true).analyze u).errorCount,
    u.specifiers.map Specifier.key,((Checker.start true).analyze u).definedRecords,
    ((Checker.start true).analyze u).records.records.map RecordDef.isComplete)) =
   some (0,[.record 29],[(29,0)],[false]) := by
  decide +kernel
 obtain ⟨u,hu,hall⟩:=exists_unit h
 simp only [Option.some.injEq,Prod.mk.injEq] at hall
 obtain ⟨herrors,hkeys,hnoted,hrecords⟩:=hall
 obtain ⟨s,hspecifiers,hkey⟩:=List.map_eq_singleton_iff.mp hkeys
 refine ⟨u,hu,herrors,s,hspecifiers ▸ List.mem_singleton_self s,?_,?_⟩
 · rw [hkey,Checker.defines,hnoted]
   rfl
 · intro hfinished
   cases s with
   | enum spec => cases hkey
   | record spec =>
    obtain ⟨id,r,-,hr,hcompleted⟩:=hfinished
    have hmem:=List.mem_map_of_mem (f := RecordDef.isComplete) (List.mem_of_getElem? hr)
    rw [hrecords,List.mem_singleton] at hmem
    exact Bool.false_ne_true (hmem.symm.trans hcompleted.isComplete)

/-! ### Definitions of a later program -/

mutual

/-- The specifiers of a site that are met for sure, where some are hidden: none that is hidden or
stands in the body of one, and none that evaluation may skip. -/
def Site.reached (hidden:SpecifierKey → Bool) : Site → List Node
 | .definition s body => if hidden s.key then [] else ⟨s,body⟩ :: Site.reachedAll hidden body
 | .size _ inner => Site.reachedAll hidden inner
 | .skippable _ => []
termination_by structural s => s

def Site.reachedAll (hidden:SpecifierKey → Bool) : List Site → List Node
 | [] => []
 | s :: ss => s.reached hidden ++ Site.reachedAll hidden ss

end

/-- The specifiers at file scope that are met after what was analyzed before. Left out are a specifier
at whose offset one of its kind was noted before and what stands in the body of such a one, what
stands in an operand that evaluation may skip, and what is among the keys whose faults may be lost. -/
def ProgramUnit.metAfter (u:ProgramUnit) (before:Checker) : List Specifier :=
 (Site.reachedAll (fun key => before.defines key || u.lost.contains key) u.fileSites).map
  Node.specifier

/-- The tag of the specifier stands for a complete record with its members in the global scope, or
its enumerators are global constants. -/
def Checker.Binds (c:Checker) : Specifier → Prop
 | .record spec => ∀ tag, spec.tag = some tag → ∃ id d,
   c.symbols.globalScope.tag? tag.name = some (.record id) ∧ c.records.get? id = some d ∧
    d.CompletedBy spec
 | .enum spec => ∀ e ∈ spec.enumerators.getD [], ∃ x ∈ c.symbols.globals, x.IsEnumerator e.name

lemma Checker.Fulfils.binds {s:Specifier} (h:c.Fulfils false s) : c.Binds s := by
 cases s with
 | record spec =>
  obtain ⟨id,d,-,hd,hcompleted,htag⟩:=h
  exact fun tag ht => ⟨id,d,htag rfl tag ht,hd,hcompleted⟩
 | enum spec => exact fun e he => (h e he).2 rfl

namespace Passes

variable {hidden:SpecifierKey → Bool}

mutual

lemma fulfils_reached (h:Passes u.lost u.fileSites u.blockSites c d)
  (hparse:parse source = .ok u) (herrors:d.errorCount = 0)
  (hhidden:∀ key, hidden key = false → c.defines key = false ∧ key ∉ u.lost) :
  ∀ s : Site, d.Covers u.lost s.sure → s.nodes.map (false,·) ⊆ u.nodes →
   ∀ n ∈ s.reached hidden, d.Fulfils false n.specifier
 | .definition s body, hcovers, hnodes, n, hn => by
  rw [Site.reached] at hn
  split at hn
  · cases hn
  · rename_i hkey
    obtain ⟨hnew,hlost⟩:=hhidden _ ((Bool.not_eq_true _).mp hkey)
    have hmet:d.defines s.key = true := by
     refine (hcovers _ List.mem_cons_self).resolve_right fun hkeys => hlost ?_
     exact hkeys List.mem_cons_self
    obtain ⟨hself,hbody⟩:=h.fulfils hparse herrors (n := (false,⟨s,body⟩))
     (hnodes List.mem_cons_self) hmet hnew hlost
    rcases List.mem_cons.mp hn with rfl | hn
    · exact hself
    · exact fulfils_reachedAll h hparse herrors hhidden body hbody
       (fun _ hm => hnodes (List.mem_cons_of_mem _ hm)) n hn
 | .size vla inner, hcovers, hnodes, n, hn =>
  fulfils_reachedAll h hparse herrors hhidden inner
   (fun m hm => hcovers m (Site.sureAll_subset_topsAll inner hm)) hnodes n hn
 | .skippable inner, _, _, n, hn => nomatch hn
termination_by structural s => s

lemma fulfils_reachedAll (h:Passes u.lost u.fileSites u.blockSites c d)
  (hparse:parse source = .ok u) (herrors:d.errorCount = 0)
  (hhidden:∀ key, hidden key = false → c.defines key = false ∧ key ∉ u.lost) :
  ∀ ss : List Site, d.Covers u.lost (sureAll ss) → (nodesAll ss).map (false,·) ⊆ u.nodes →
   ∀ n ∈ Site.reachedAll hidden ss, d.Fulfils false n.specifier
 | [], _, _, n, hn => nomatch hn
 | s :: ss, hcovers, hnodes, n, hn => by
  rw [Site.nodesAll,List.map_append,List.append_subset] at hnodes
  rcases List.mem_append.mp hn with hn | hn
  · exact fulfils_reached h hparse herrors hhidden s
     (fun m hm => hcovers m (List.mem_append_left _ hm)) hnodes.1 n hn
  · exact fulfils_reachedAll h hparse herrors hhidden ss
     (fun m hm => hcovers m (List.mem_append_right _ hm)) hnodes.2 n hn

end

end Passes

lemma Checker.TagsNamed.analyzeAll (us:List ProgramUnit) (hc:c.Idle) (h:c.TagsNamed) :
  (us.foldl Checker.analyze c).TagsNamed := by
 induction us generalizing c with
 | nil => exact h
 | cons u us ih => exact ih (hc.analyze u) (passes_analyze u hc h).reaches.fits.tags

/-- Programs are analyzed one after the other without errors. Then the tags of the specifiers at
file scope of the last one stand for complete records with their members, and its enumerators are
global constants, as far as the specifiers are met at all. For those that `metAfter` leaves out this
holds too if the last program is the first to note them and their faults cannot be lost. It need not
hold for the others: for a specifier that was noted before at the same offset, for one that stands in
the body of such a one or in an operand that is skipped, and for one in the size of an array where it
may be skipped or its faults are lost. -/
theorem later_definitions_bound (us:List ProgramUnit) (hparse:parse source = .ok u)
  (warnUnused:Bool)
  (herrors:((us.foldl Checker.analyze (.start warnUnused)).analyze u).errorCount = 0) :
  (∀ s ∈ u.metAfter (us.foldl Checker.analyze (.start warnUnused)),
   ((us.foldl Checker.analyze (.start warnUnused)).analyze u).Binds s) ∧
  ∀ n ∈ nodesAll u.fileSites, n.key ∉ u.lost →
   (us.foldl Checker.analyze (.start warnUnused)).defines n.key = false →
   ((us.foldl Checker.analyze (.start warnUnused)).analyze u).defines n.key = true →
   ((us.foldl Checker.analyze (.start warnUnused)).analyze u).Binds n.specifier := by
 have hpasses:=passes_analyze u ((Checker.Idle.start warnUnused).analyzeAll us)
  ((Checker.TagsNamed.start warnUnused).analyzeAll us (.start warnUnused))
 refine ⟨fun s hs => ?_,fun n hn hlost hnew hnoted => ?_⟩
 · obtain ⟨n,hn,rfl⟩:=List.mem_map.mp hs
   refine (hpasses.fulfils_reachedAll hparse herrors (fun key hkey => ?_) u.fileSites ?_ ?_ n
    hn).binds
   · rw [Bool.or_eq_false_iff] at hkey
     refine ⟨hkey.1,fun hmem => ?_⟩
     exact Bool.false_ne_true (hkey.2.symm.trans (List.contains_iff_mem.mpr hmem))
   · intro m hm
     exact (hpasses.completes herrors).covers m (Site.sureAll_subset_topsAll _ hm)
   · exact List.subset_append_left _ _
 · have hnode:(false,n) ∈ u.nodes:=List.mem_append_left _ (List.mem_map_of_mem hn)
   exact (hpasses.fulfils hparse herrors hnode hnoted hnew hlost).1.binds

/-- The first program defines a record at offset 0, the second one an enumeration there and records
at other offsets. -/
theorem later_definitions_bound_apart :
  ∃ u₁ u₂, parse "struct A {int x;};" = .ok u₁ ∧
   parse "enum {P, Q}; struct B {struct C {int z;} y;};" = .ok u₂ ∧
   (([u₁].foldl Checker.analyze (.start true)).analyze u₂).errorCount = 0 ∧
   (u₂.metAfter ([u₁].foldl Checker.analyze (.start true))).map Specifier.key =
    [.enum 0,.record 13,.record 23] ∧
   ∀ s ∈ u₂.metAfter ([u₁].foldl Checker.analyze (.start true)),
    (([u₁].foldl Checker.analyze (.start true)).analyze u₂).Binds s := by
 have h : (parse "struct A {int x;};").toOption.bind (fun u₁ =>
   (parse "enum {P, Q}; struct B {struct C {int z;} y;};").toOption.bind fun u₂ =>
    some ((([u₁].foldl Checker.analyze (.start true)).analyze u₂).errorCount,
     (u₂.metAfter ([u₁].foldl Checker.analyze (.start true))).map Specifier.key)) =
   some (0,[.enum 0,.record 13,.record 23]) := by
  decide +kernel
 obtain ⟨u₁,hu₁,h⟩:=exists_unit h
 obtain ⟨u₂,hu₂,h⟩:=exists_unit h
 obtain ⟨herrors,hkeys⟩:=Prod.mk.inj (Option.some.inj h)
 exact ⟨u₁,u₂,hu₁,hu₂,herrors,hkeys,(later_definitions_bound [u₁] hu₂ true herrors).1⟩

/-- The second program is accepted after the first, but a specifier at its file scope is not bound. -/
def LeavesUnbound (first second:String) : Prop :=
 ∃ u₁ u₂, parse first = .ok u₁ ∧ parse second = .ok u₂ ∧
  (([u₁].foldl Checker.analyze (.start true)).analyze u₂).errorCount = 0 ∧
  ∃ n ∈ nodesAll u₂.fileSites,
   ¬ (([u₁].foldl Checker.analyze (.start true)).analyze u₂).Binds n.specifier

lemma leavesUnbound {first second:String} (tag:String) (offset:Nat)
  (h:(parse first).toOption.bind (fun u₁ => (parse second).toOption.bind fun u₂ =>
   some ((([u₁].foldl Checker.analyze (.start true)).analyze u₂).errorCount,
    (nodesAll u₂.fileSites).map fun n => (n.key,n.specifier.tag.map (·.name)),
    (([u₁].foldl Checker.analyze (.start true)).analyze u₂).symbols.globalScope.tag? tag)) =
   some (0,[(.record offset,some tag)],none)) : LeavesUnbound first second := by
 obtain ⟨u₁,hu₁,h⟩:=exists_unit h
 obtain ⟨u₂,hu₂,h⟩:=exists_unit h
 simp only [Option.some.injEq,Prod.mk.injEq] at h
 obtain ⟨herrors,hnodes,hnone⟩:=h
 obtain ⟨⟨s,body⟩,hn,hkey⟩:=List.map_eq_singleton_iff.mp hnodes
 refine ⟨u₁,u₂,hu₁,hu₂,herrors,⟨s,body⟩,hn ▸ List.mem_singleton_self _,fun hbinds => ?_⟩
 obtain ⟨hkey,htag⟩:=Prod.mk.inj hkey
 cases s with
 | enum spec => cases hkey
 | record spec =>
  obtain ⟨tag',ht,hname⟩:=Option.map_eq_some_iff.mp htag
  obtain ⟨id,d,hid,-⟩:=hbinds tag' ht
  rw [hname,hnone] at hid
  cases hid

/-- A record at the offset of one in the program before is not defined, and neither is one in an
operand that is skipped. -/
theorem definitions_left_unbound :
  LeavesUnbound "struct A {int x;};" "struct B {int y;};" ∧
  LeavesUnbound "struct A {int q;};" "int a[1 || sizeof(struct S {int x;})];" :=
 ⟨leavesUnbound "B" 0 (by decide +kernel),leavesUnbound "S" 18 (by decide +kernel)⟩

end CCheck
