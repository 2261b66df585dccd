import CCheck.Proofs.Checking.Context
import CCheck.Proofs.Checking.LibraryCalls
import CCheck.Proofs.Checking.Rejections
import CCheck.Proofs.Records.Growth
import CCheck.Proofs.Specifiers.Sites

/-! # What is known of specifiers is retained

A specifier that has been met stays known, and so do the record that it completes, the tag that it
binds at file scope and the constants that its enumerators declare, which end up among the symbols
of a function when their scope does. -/

set_option autoImplicit false

namespace CCheck

open Check

variable {g:Symbol → Symbol} {name:String} {r:Registry} {span:Span} {tag:Tag} {x:Symbol}

/-! ### Scopes -/

def Symbol.IsEnumerator (x:Symbol) (i:Ident) : Prop :=
 x.name = i.name ∧ x.span = i.span ∧ ∃ v, x.kind = .constant v

def Scope.Enumerates (s:Scope) (i:Ident) : Prop := ∃ x ∈ s.symbols, x.IsEnumerator i

structure Scope.Retains (s s':Scope) : Prop where
 tags : ∀ name t, s.tag? name = some t → s'.tag? name = some t
 enumerators : ∀ i, s.Enumerates i → s'.Enumerates i

namespace Scope.Retains

variable {s s' s'':Scope}

lemma refl (s:Scope) : s.Retains s := ⟨fun _ _ h => h,fun _ h => h⟩

lemma trans (h:s.Retains s') (h':s'.Retains s'') : s.Retains s'' :=
 ⟨fun name t ht => h'.tags name t (h.tags name t ht),
  fun i hi => h'.enumerators i (h.enumerators i hi)⟩

lemma update (s:Scope) (name:String) (hname:∀ x, (g x).name = x.name)
  (hkind:∀ x, (g x).kind = x.kind) (hspan:∀ x, (g x).span = x.span) :
  s.Retains (s.update name g) := by
 refine ⟨fun _ _ h => h,fun i ⟨x,hx,hi,hs,v,hv⟩ => ⟨_,List.mem_map_of_mem hx,?_⟩⟩
 split
 · exact ⟨(hname x).trans hi,(hspan x).trans hs,v,(hkind x).trans hv⟩
 · exact ⟨hi,hs,v,hv⟩

lemma declare (s:Scope) (x:Symbol) : s.Retains { s with symbols := s.symbols ++ [x] } :=
 ⟨fun _ _ h => h,fun _ ⟨y,hy,hi⟩ => ⟨y,List.mem_append_left _ hy,hi⟩⟩

lemma declareTag (h:s.tag? name = none) (tag:Tag) :
  s.Retains { s with tags := (name,tag) :: s.tags } := by
 refine ⟨fun other t ht => ?_,fun _ hi => hi⟩
 have hother:(other == name) = false := by
  rw [beq_eq_false_iff_ne]
  rintro rfl
  cases h.symm.trans ht
 unfold Scope.tag?
 rw [List.lookup_cons,hother]
 exact ht

end Scope.Retains

/-! ### Tables -/

def SymbolTable.Retains (t u:SymbolTable) : Prop :=
 List.Forall₂ Scope.Retains t.scopes u.scopes

namespace SymbolTable

variable {t u:SymbolTable}

lemma Retains.current {s:Scope} (h:t.current.Retains s) : t.Retains { t with current := s } :=
 List.Forall₂.cons h (List.forall₂_same.mpr fun s _ => .refl s)

lemma Retains.updateIn (hg:∀ s : Scope,
  s.Retains (s.update name g)) (ss:List Scope) :
  List.Forall₂ Scope.Retains ss (SymbolTable.updateIn name g ss) := by
 induction ss with
 | nil => exact .nil
 | cons s ss ih =>
  rw [SymbolTable.updateIn]
  split
  · exact .cons (hg s) (List.forall₂_same.mpr fun s _ => .refl s)
  · exact .cons (.refl s) ih

lemma Retains.markUsed (t:SymbolTable) (name:String) : t.Retains (t.markUsed name) := by
 unfold Retains SymbolTable.markUsed
 rw [scopes_update]
 exact Retains.updateIn (g := Symbol.used)
  (fun s => .update s name (fun _ => rfl) (fun _ => rfl) fun _ => rfl) _

lemma Retains.declare (h:t.declare x = .ok u) : t.Retains u := by
 rw [declare_eq] at h
 split at h
 · cases h
 · cases h
   exact .current (.declare _ _)

lemma Retains.declareTag
  (h:t.declareTag name tag span = .ok u) : t.Retains u := by
 rw [declareTag_eq] at h
 split at h
 · cases h
 · rename_i hnone
   cases h
   exact .current (.declareTag (Option.not_isSome_iff_eq_none.mp hnone) tag)

lemma getLast_scopes (t:SymbolTable) : t.scopes.getLast? = some t.globalScope := by
 unfold scopes globalScope
 rw [List.getLast?_cons]

lemma Retains.globalScope (h:t.Retains u) : t.globalScope.Retains u.globalScope := by
 have hlast:∀ {ss ss':List Scope} {s s':Scope}, List.Forall₂ Scope.Retains ss ss' →
   ss.getLast? = some s → ss'.getLast? = some s' → s.Retains s' := by
  intro ss ss' s s' h hs hs'
  induction h with
  | nil => cases hs
  | cons hfirst hrest ih =>
   cases hrest with
   | nil =>
    cases hs
    cases hs'
    exact hfirst
   | cons _ _ =>
    rw [List.getLast?_cons_cons] at hs hs'
    exact ih hs hs'
 exact hlast h t.getLast_scopes u.getLast_scopes

def Enumerates (t:SymbolTable) (i:Ident) : Prop := ∃ s ∈ t.scopes, s.Enumerates i

lemma Retains.enumerates (h:t.Retains u) {i:Ident} (hi:t.Enumerates i) :
  u.Enumerates i := by
 obtain ⟨s,hs,hi⟩:=hi
 obtain ⟨s',hs',hretains⟩:=exists_left_of_forall₂ h.flip hs
 exact ⟨s',hs',hretains.enumerators i hi⟩

end SymbolTable

/-! ### States -/

def Checker.Enumerates (c:Checker) (i:Ident) : Prop :=
 c.symbols.Enumerates i ∨ (∃ f, c.function = some f ∧ ∃ x ∈ f.locals, x.IsEnumerator i) ∨
  ∃ f ∈ c.functions, ∃ x ∈ f.locals, x.IsEnumerator i

structure Checker.Retains (c d:Checker) : Prop where
 specifiers : ∀ start id, c.definedRecords.lookup start = some id →
  d.definedRecords.lookup start = some id
 enums : c.definedEnums ⊆ d.definedEnums
 records : c.records.Persists d.records
 enumerators : ∀ i, c.Enumerates i → d.Enumerates i
 global : c.symbols.globalScope.Retains d.symbols.globalScope
 errors : c.errorCount ≤ d.errorCount

lemma leaveScope_of_global {c:Checker} (h:c.symbols.outer = []) : c.leaveScope = c := by
 unfold Checker.leaveScope SymbolTable.exit?
 rw [h]

namespace Checker.Retains

variable {c d e:Checker}

lemma refl (c:Checker) : c.Retains c :=
 ⟨fun _ _ h => h,List.Subset.refl _,.refl _,fun _ h => h,.refl _,Nat.le_refl _⟩

lemma trans (h:c.Retains d) (h':d.Retains e) : c.Retains e where
 specifiers start id hid := h'.specifiers start id (h.specifiers start id hid)
 enums := List.Subset.trans h.enums h'.enums
 records := h.records.trans h'.records
 enumerators i hi := h'.enumerators i (h.enumerators i hi)
 global := h.global.trans h'.global
 errors := Nat.le_trans h.errors h'.errors

lemma defines (h:c.Retains d) {key:SpecifierKey} (hkey:c.defines key = true) :
  d.defines key = true := by
 cases key with
 | record start =>
  obtain ⟨id,hid⟩:=Option.isSome_iff_exists.mp hkey
  exact Option.isSome_iff_exists.mpr ⟨id,h.specifiers start id hid⟩
 | enum start =>
  rw [Checker.defines,List.contains_iff_mem] at hkey ⊢
  exact h.enums hkey

lemma setSymbols {t:SymbolTable} (h:c.symbols.Retains t) :
  c.Retains { c with symbols := t } :=
 { refl c with
   enumerators := fun _ hi => hi.imp_left h.enumerates
   global := h.globalScope }

lemma setRecords (h:c.records.Persists r) : c.Retains { c with records := r } :=
 { refl c with records := h }

lemma setFunction {g:FunctionContext → FunctionContext}
  (h:∀ f : FunctionContext, f.locals ⊆ (g f).locals) :
  c.Retains { c with function := c.function.map g } := by
 refine { refl c with enumerators := fun i hi => ?_ }
 rcases hi with hi | ⟨f,hf,x,hx,hi⟩ | hi
 · exact Or.inl hi
 · exact Or.inr (.inl ⟨g f,Option.map_eq_some_iff.mpr ⟨f,hf,rfl⟩,x,h f hx,hi⟩)
 · exact Or.inr (.inr hi)

lemma report (c:Checker) (f:Fault) : c.Retains (c.report f) :=
 { refl c with errors := Nat.le_succ _ }

lemma warn (c:Checker) (message:String) (span:Span) : c.Retains (c.warn message span) :=
 { refl c with }

lemma noteRecord {start:Nat} (h:c.definedRecords.lookup start = none) (id:Nat) :
  c.Retains { c with definedRecords := (start,id) :: c.definedRecords } := by
 refine { refl c with specifiers := fun other id' hid' => ?_ }
 have hother:(other == start) = false := by
  rw [beq_eq_false_iff_ne]
  rintro rfl
  cases h.symm.trans hid'
 rw [List.lookup_cons,hother]
 exact hid'

lemma noteEnum (c:Checker) (start:Nat) :
  c.Retains { c with definedEnums := start :: c.definedEnums } :=
 { refl c with enums := List.subset_cons_self _ _ }

lemma enterScope (c:Checker) : c.Retains c.enterScope := by
 refine { refl c with enumerators := fun i hi => ?_,global := ?_ }
 · rcases hi with ⟨s,hs,hi⟩ | hi
   · exact Or.inl ⟨s,List.mem_cons_of_mem _ hs,hi⟩
   · exact Or.inr hi
 · have hglobal:c.enterScope.symbols.globalScope = c.symbols.globalScope := by
    have hlast:=c.enterScope.symbols.getLast_scopes
    change (.empty :: c.symbols.scopes : List Scope).getLast? = _ at hlast
    rw [SymbolTable.scopes,List.getLast?_cons_cons] at hlast
    exact Option.some.inj (hlast.symm.trans c.symbols.getLast_scopes)
   rw [hglobal]
   exact .refl _

lemma leaveScope {f:FunctionContext} (hf:c.function = some f) : c.Retains c.leaveScope := by
 cases houter : c.symbols.outer with
 | nil =>
  rw [leaveScope_of_global houter]
  exact refl c
 | cons s ss =>
  have hscopes:c.symbols.scopes = c.symbols.current :: s :: ss := by
   rw [SymbolTable.scopes,houter]
  rw [leaveScope_of_outer houter]
  refine warnAboutUnused_keeps (P := fun d => c.Retains (d.keepLocals c.symbols.current.symbols))
   (fun _ message span h => h.trans (warn _ message span)) _ ?_
  refine { refl c with enumerators := fun i hi => ?_,global := ?_ }
  · rcases hi with ⟨s',hs',x,hx,hi⟩ | ⟨f',hf',x,hx,hi⟩ | hi
    · rw [hscopes] at hs'
      rcases List.mem_cons.mp hs' with rfl | hs'
      · refine Or.inr (.inl ⟨_,Option.map_eq_some_iff.mpr ⟨f,hf,rfl⟩,x,?_,hi⟩)
        exact List.mem_append_right _ hx
      · exact Or.inl ⟨s',hs',x,hx,hi⟩
    · refine Or.inr (.inl ⟨_,Option.map_eq_some_iff.mpr ⟨f',hf',rfl⟩,x,?_,hi⟩)
      exact List.mem_append_left _ hx
    · exact Or.inr (.inr hi)
  · have hlast:=c.symbols.getLast_scopes
    rw [hscopes,List.getLast?_cons_cons] at hlast
    have hglobal:c.symbols.globalScope = SymbolTable.globalScope ⟨s,ss⟩:=
     Option.some.inj (hlast.symm.trans (SymbolTable.getLast_scopes ⟨s,ss⟩))
    change c.symbols.globalScope.Retains (SymbolTable.globalScope ⟨s,ss⟩)
    rw [hglobal]
    exact .refl _

lemma leaveFunction (c:Checker) (type:CType) : c.Retains (c.leaveFunction type) := by
 unfold Checker.leaveFunction
 cases hf : c.function with
 | none => exact refl c
 | some f =>
  refine List.foldlRecOn f.undefinedGotos _
   (motive := fun d : Checker => c.Retains { d with functions := d.functions ++ [f.info type] })
   ?_ fun d h g _ => h.trans (report _ ⟨.undefinedLabel g.name,g.span⟩)
  refine { refl c with enumerators := fun i hi => ?_ }
  rcases hi with hi | ⟨f',hf',x,hx,hi⟩ | ⟨f',hf',hi⟩
  · exact Or.inl hi
  · cases hf.symm.trans hf'
    refine Or.inr (.inr ⟨f.info type,List.mem_append_right _ List.mem_cons_self,x,?_,hi⟩)
    exact List.mem_append_left _ hx
  · exact Or.inr (.inr ⟨f',List.mem_append_left _ hf',hi⟩)

end Checker.Retains

def retaining : Account where
 rel _ c _ d := c.Retains d
 refl := .refl
 trans h h' := h.trans h'
 mono h _ := h
 recover h := h
 refuse c _ _ := .refl c
 typeRead _ _ := .refl _
 use c i := .setSymbols (.markUsed c.symbols i.name)
 callee h _ := h
 call _ _ _ := { Checker.Retains.refl _ with }
 again h := h
 enumerator h := .setSymbols (.declare h)
 tag h := .setSymbols (.declareTag h)
 record c kind tag := .setRecords (.declare c.records kind tag)
 complete h := .setRecords (.complete h)
 defineRecord hnew h := (Checker.Retains.noteRecord hnew _).trans h
 defineEnum _ h := (Checker.Retains.noteEnum _ _).trans h

/-! ### Tags -/

def Scope.TagsNamed (r:Registry) (s:Scope) : Prop :=
 ∀ name id, s.tag? name = some (.record id) → ∃ d, r.get? id = some d ∧ d.tag = some name

def Checker.TagsNamed (c:Checker) : Prop := ∀ s ∈ c.symbols.scopes, s.TagsNamed c.records

namespace Checker.TagsNamed

variable {c:Checker}

lemma start (warnUnused:Bool) : (Checker.start warnUnused).TagsNamed := by
 intro s hs name id htag
 cases List.mem_singleton.mp hs
 cases htag

lemma setRecords (h:c.TagsNamed) (hr:c.records.Persists r) :
  TagsNamed { c with records := r } := by
 intro s hs name id htag
 obtain ⟨d,hd,hname⟩:=h s hs name id htag
 obtain ⟨d',hd',-,htag',-⟩:=hr.records id d hd
 exact ⟨d',hd',htag'.trans hname⟩

lemma markUsed (h:c.TagsNamed) (name:String) :
  TagsNamed { c with symbols := c.symbols.markUsed name } :=
 SymbolTable.forall_scopes_markUsed (Q := Scope.TagsNamed c.records) (fun _ hs => hs) h

lemma declare {t:SymbolTable} (h:c.TagsNamed)
  (ht:c.symbols.declare x = .ok t) : TagsNamed { c with symbols := t } := by
 obtain ⟨hcurrent,houter⟩:=List.forall_mem_cons.mp h
 rw [SymbolTable.declare_eq] at ht
 split at ht
 · cases ht
 · cases ht
   exact List.forall_mem_cons.mpr ⟨hcurrent,houter⟩

lemma updateLocal (h:c.TagsNamed) (name:String) (g:Symbol → Symbol) :
  TagsNamed { c with symbols := c.symbols.updateLocal name g } := by
 obtain ⟨hcurrent,houter⟩:=List.forall_mem_cons.mp h
 exact List.forall_mem_cons.mpr ⟨hcurrent,houter⟩

lemma declareTag {t:SymbolTable} (h:c.TagsNamed)
  (ht:c.symbols.declareTag name tag span = .ok t)
  (htag:∀ id, tag = .record id → ∃ d, c.records.get? id = some d ∧ d.tag = some name) :
  TagsNamed { c with symbols := t } := by
 rw [SymbolTable.declareTag_eq] at ht
 split at ht
 · cases ht
 · cases ht
   obtain ⟨hcurrent,houter⟩:=List.forall_mem_cons.mp h
   refine List.forall_mem_cons.mpr ⟨fun other id hid => ?_,houter⟩
   unfold Scope.tag? at hid
   rw [List.lookup_cons] at hid
   cases hother : other == name with
   | true =>
    rw [hother] at hid
    obtain rfl : other = name:=beq_iff_eq.mp hother
    exact htag id (Option.some.inj hid)
   | false =>
    rw [hother] at hid
    exact hcurrent other id hid

lemma enterScope (h:c.TagsNamed) : c.enterScope.TagsNamed :=
 List.forall_mem_cons.mpr ⟨(fun _ _ htag => nomatch htag),h⟩

lemma leaveScope (h:c.TagsNamed) : c.leaveScope.TagsNamed := by
 have hrecords:c.leaveScope.records = c.records:=
  leaveScope_keeps (P := fun d => d.records = c.records) (fun _ _ _ hd => hd) (fun _ _ hd => hd)
   (fun _ _ hd => hd) rfl
 unfold TagsNamed
 rw [hrecords]
 cases houter : c.symbols.outer with
 | nil =>
  rw [leaveScope_of_global houter]
  exact h
 | cons s ss =>
  rw [symbols_leaveScope houter]
  exact SymbolTable.forall_scopes_exit h houter

end Checker.TagsNamed

end CCheck
