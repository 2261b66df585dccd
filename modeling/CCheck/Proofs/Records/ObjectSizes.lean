import CCheck.Proofs.Checking.ProgramAccounts
import CCheck.Proofs.Constants.Runs
import CCheck.Proofs.Parsing.Inventory
import CCheck.Proofs.Records.Growth
import CCheck.Proofs.Scoping.AllSymbols
import CCheck.Proofs.Types.Declared

/-! # Sizes of defined objects

A defined object has a size, but for three ways around: parameters, external objects with an
initializer, and lengths that are counted from an initializer. -/

set_option autoImplicit false

namespace CCheck

open Check

variable {ms:List Mark} {span:Span} {v:VarDecl} {y:Symbol}

namespace Registry

variable {r r':Registry} {t u:CType}

def SizesArrays (r:Registry) (t:CType) : Prop := t.isArray = true → ∃ n, r.sizeOf? t = some n

namespace SizesArrays

lemma later (h:r.SizesArrays t) (hr:r'.Extends r) : r'.SizesArrays t :=
 fun ht => (h ht).imp fun _ => hr.sizeOf?

lemma qualify (h:r.SizesArrays t) (q:Qualifiers) : r.SizesArrays (t.qualify q) := by
 obtain ⟨k,p⟩:=t
 exact h

lemma of_complete (h:r.SizesArrays t) (hcomplete:r.isComplete t = true) :
  ∃ n, r.sizeOf? t = some n := by
 obtain ⟨k,q⟩:=t
 cases k with
 | void => cases hcomplete
 | function f => cases hcomplete
 | array elem length vla => exact h rfl
 | record id =>
  obtain ⟨d,hd,hcomplete⟩:=isComplete_record_iff.mp hcomplete
  exact ⟨_,sizeOf?_record q hd hcomplete⟩
 | _ => exact ⟨_,rfl⟩

lemma array (h:∃ n, r.sizeOf? t = some n) (vla:Bool) :
  r.SizesArrays (.plain (.array t none vla)) := by
 obtain ⟨n,hn⟩:=h
 refine fun _ => ⟨0,?_⟩
 rw [CType.plain,sizeOf?_array,hn]
 rfl

end SizesArrays

lemma sizeOf?_of_object (harray:r.SizesArrays t) (hvoid:t.isVoid = false)
  (hfunction:t.isFunction = false) (hrecord:t.isRecord = false) :
  ∃ n, r.sizeOf? t = some n := by
 obtain ⟨k,q⟩:=t
 cases k with
 | void => cases hvoid
 | function f => cases hfunction
 | array elem length vla => exact harray rfl
 | record id => cases hrecord
 | _ => exact ⟨_,rfl⟩

end Registry

/-! ### Symbols with room for their objects -/

variable {r r':Registry} {D:VarDecl → Prop} {c d:Checker} {x:Symbol}

/-- The ways for a defined object to be without a size: it is a parameter, or an external object
with an initializer, and its type is a record; or the length of an array is counted from its
initializer, and comes out too large. -/
inductive Symbol.Excepted (r:Registry) (D:VarDecl → Prop) (x:Symbol) : Prop
 | param (hrecord:x.type.isRecord = true) (hparam:x.isParam = true)
 | external {d:VarDecl} (hrecord:x.type.isRecord = true) (hd:D d)
   (hname:d.name.name = x.name) (hstorage:d.storage = some .external)
   (hinit:d.init.isSome = true)
 | counted {d:VarDecl} {i:Initializer} {elem:CType} {n:Nat} (hd:D d)
   (hname:d.name.name = x.name) (hinit:d.init = some i)
   (hkind:x.type.kind = .array elem (some (i.extent elem)) false)
   (helem:r.sizeOf? elem = some n) (hlarge:maxObjectSize < n * i.extent elem)

/-- What is known of the type of an object. One that is only declared may be a record that is not
complete. -/
inductive Symbol.Housed (r:Registry) (D:VarDecl → Prop) (x:Symbol) : Prop
 | sized {n:Nat} (h:r.sizeOf? x.type = some n)
 | declared (hrecord:x.type.isRecord = true) (h:x.isDefined = false)
 | excepted (h:x.Excepted r D)

lemma Symbol.Excepted.later (h:x.Excepted r D) (hr:r'.Extends r) : x.Excepted r' D := by
 cases h with
 | param hrecord hparam => exact .param hrecord hparam
 | external hrecord hd hname hstorage hinit => exact .external hrecord hd hname hstorage hinit
 | counted hd hname hinit hkind helem hlarge =>
  exact .counted hd hname hinit hkind (hr.sizeOf? helem) hlarge

lemma Symbol.Housed.later (h:x.Housed r D) (hr:r'.Extends r) : x.Housed r' D := by
 cases h with
 | sized h => exact .sized (hr.sizeOf? h)
 | declared hrecord h => exact .declared hrecord h
 | excepted h => exact .excepted (h.later hr)

lemma Symbol.Excepted.same (h:x.Excepted r D) (hname:y.name = x.name)
  (htype:y.type = x.type) (hparam:y.isParam = x.isParam) : y.Excepted r D := by
 cases h with
 | param hrecord h => exact .param (htype ▸ hrecord) (hparam.trans h)
 | external hrecord hd h hstorage hinit =>
  exact .external (htype ▸ hrecord) hd (h.trans hname.symm) hstorage hinit
 | counted hd h hinit hkind helem hlarge =>
  exact .counted hd (h.trans hname.symm) hinit (htype ▸ hkind) helem hlarge

lemma Symbol.Housed.used (h:x.Housed r D) : x.used.Housed r D := by
 cases h with
 | sized h => exact .sized h
 | declared hrecord h => exact .declared hrecord h
 | excepted h => exact .excepted (h.same rfl rfl rfl)

structure Symbol.Fits (r:Registry) (D:VarDecl → Prop) (x:Symbol) : Prop where
 sizes : x.kind = .type → r.SizesArrays x.type
 housed : x.kind = .var → x.Housed r D

namespace Symbol.Fits

lemma later (h:x.Fits r D) (hr:r'.Extends r) : x.Fits r' D :=
 ⟨fun hx => (h.sizes hx).later hr,fun hx => (h.housed hx).later hr⟩

lemma used (h:x.Fits r D) : x.used.Fits r D := ⟨h.sizes,fun hx => (h.housed hx).used⟩

lemma object (hx:x.kind = .var) (h:x.Housed r D) : x.Fits r D :=
 ⟨(fun hx' => nomatch hx.symm.trans hx'),fun _ => h⟩

lemma type (hx:x.kind = .type) (h:r.SizesArrays x.type) : x.Fits r D :=
 ⟨fun _ => h,fun hx' => nomatch hx.symm.trans hx'⟩

lemma other (htype:x.kind ≠ .type) (hvar:x.kind ≠ .var) : x.Fits r D :=
 ⟨fun hx => absurd hx htype,fun hx => absurd hx hvar⟩

end Symbol.Fits

structure Checker.Houses (D:VarDecl → Prop) (c:Checker) : Prop where
 records : c.records.Reachable
 unique : c.symbols.Unique
 symbols : c.symbols.All (Symbol.Fits c.records D)
 locals : ∀ f, c.function = some f → ∀ x ∈ f.locals, x.Fits c.records D
 labels : ∀ f, c.function = some f → ∀ x ∈ f.labels, x.kind = .label
 functions : ∀ i ∈ c.functions, ∀ x ∈ i.locals, x.Fits c.records D

namespace Checker.Houses

lemma same (h:c.Houses D) (hrecords:d.records = c.records) (hsymbols:d.symbols = c.symbols)
  (hfunction:d.function = c.function) (hfunctions:d.functions = c.functions) :
  d.Houses D where
 records := hrecords ▸ h.records
 unique := hsymbols ▸ h.unique
 symbols := by
  rw [hrecords,hsymbols]
  exact h.symbols
 locals := by
  rw [hrecords,hfunction]
  exact h.locals
 labels := by
  rw [hfunction]
  exact h.labels
 functions := by
  rw [hrecords,hfunctions]
  exact h.functions

lemma grow (h:c.Houses D) (hr:r.Reachable) (hextends:r.Extends c.records) :
  Houses D { c with records := r } where
 records := hr
 unique := h.unique
 symbols s hs x hx := (h.symbols s hs x hx).later hextends
 locals f hf x hx := (h.locals f hf x hx).later hextends
 labels := h.labels
 functions i hi x hx := (h.functions i hi x hx).later hextends

lemma setSymbols (h:c.Houses D) {t:SymbolTable} (hunique:t.Unique)
  (ht:t.All (Symbol.Fits c.records D)) : Houses D { c with symbols := t } :=
 ⟨h.records,hunique,ht,h.locals,h.labels,h.functions⟩

lemma declare (h:c.Houses D) {t:SymbolTable}
  (hx:Symbol.Fits c.records D { x with level := c.symbols.level })
  (ht:c.symbols.declare x = .ok t) : Houses D { c with symbols := t } :=
 h.setSymbols (h.unique.declare ht) (h.symbols.declare hx ht)

lemma enterScope (h:c.Houses D) : c.enterScope.Houses D :=
 h.setSymbols h.unique.enter h.symbols.enter

lemma keepLocals (h:c.Houses D) {xs:List Symbol} (hxs:∀ x ∈ xs, x.Fits c.records D) :
  (c.keepLocals xs).Houses D := by
 refine ⟨h.records,h.unique,h.symbols,fun f hf => ?_,fun f hf => ?_,h.functions⟩
 · obtain ⟨g,hg,rfl⟩:=Option.map_eq_some_iff.mp hf
   exact List.forall_mem_append.mpr ⟨h.locals g hg,hxs⟩
 · obtain ⟨g,hg,rfl⟩:=Option.map_eq_some_iff.mp hf
   exact h.labels g hg

lemma leaveScope (h:c.Houses D) : c.leaveScope.Houses D := by
 cases houter : c.symbols.outer with
 | nil =>
  unfold Checker.leaveScope SymbolTable.exit?
  rw [houter]
  exact h
 | cons s ss =>
  have hinner:Houses D { c with symbols := ⟨s,ss⟩ }:=
   h.setSymbols (h.unique.exit houter) (h.symbols.exit houter)
  rw [leaveScope_of_outer houter]
  have hwarned:=warnAboutUnused_keeps (P := fun d => d.Houses D ∧ d.records = c.records)
   (fun d message span hd => ⟨hd.1.same rfl rfl rfl rfl,hd.2⟩) c.symbols.current.symbols
   ⟨hinner,rfl⟩
  refine hwarned.1.keepLocals ?_
  rw [hwarned.2]
  exact h.symbols _ List.mem_cons_self

lemma fits_info (h:c.Houses D) {f:FunctionContext} (hf:c.function = some f) (t:CType) :
  ∀ x ∈ (f.info t).locals, x.Fits c.records D := by
 refine List.forall_mem_append.mpr ⟨h.locals f hf,fun x hx => ?_⟩
 obtain ⟨y,hy,rfl⟩:=List.mem_map.mp (List.mem_mergeSort.mp hx)
 have hlabel:y.kind = .label:=h.labels f hf y hy
 exact .other (by rw [hlabel]; nofun) (by rw [hlabel]; nofun)

lemma leaveFunction (h:c.Houses D) (t:CType) : (c.leaveFunction t).Houses D := by
 unfold Checker.leaveFunction
 cases hf : c.function with
 | none => exact h
 | some f =>
  have hended:Houses D { c with function := none }:=
   ⟨h.records,h.unique,h.symbols,(fun _ hf => nomatch hf),(fun _ hf => nomatch hf),
    h.functions⟩
  have hreported:=List.foldlRecOn
   (motive := fun d : Checker => d.Houses D ∧ d.records = c.records)
   f.undefinedGotos (fun d g => d.report ⟨.undefinedLabel g.name,g.span⟩) ⟨hended,rfl⟩
   fun d hd g _ => ⟨hd.1.same rfl rfl rfl rfl,hd.2⟩
  obtain ⟨hall,hrecords⟩:=hreported
  refine ⟨hall.records,hall.unique,hall.symbols,hall.locals,hall.labels,
   List.forall_mem_append.mpr ⟨hall.functions,List.forall_mem_singleton.mpr fun x hx => ?_⟩⟩
  have hfits:=h.fits_info hf t x hx
  rw [← hrecords] at hfits
  exact hfits

end Checker.Houses

def Mark.Admitted (D:VarDecl → Prop) (ms:List Mark) : Prop :=
 ∀ d, .object d ∈ flatAll ms → D d

lemma Mark.admitted_append {ms':List Mark} :
  Admitted D (ms ++ ms') ↔ Admitted D ms ∧ Admitted D ms' := by
 simp only [Admitted,flatAll_append,List.mem_append,or_imp,forall_and]

def housing (D:VarDecl → Prop) : Account where
 rel ms c _ d := Mark.Admitted D ms → c.Houses D → d.Houses D ∧ d.records.Extends c.records
 refl c _ h := ⟨h,.refl _⟩
 trans h h' hms hc := by
  obtain ⟨hms,hms'⟩:=Mark.admitted_append.mp hms
  obtain ⟨hd,hextends⟩:=h hms hc
  obtain ⟨he,hextends'⟩:=h' hms' hd
  exact ⟨he,hextends'.trans hextends⟩
 mono h hsub hms := h fun d hd => hms d (Mark.flatAll_subset hsub hd)
 recover h := h
 refuse c _ _ _ h := ⟨h,.refl _⟩
 typeRead _ _ _ h := ⟨h,.refl _⟩
 use c i _ h := by
  exact ⟨h.setSymbols (h.unique.markUsed _) (h.symbols.markUsed (fun _ hx => hx.used) _),.refl _⟩
 callee h span _ := h fun d hd => nomatch List.mem_singleton.mp hd
 call _ _ _ _ h := ⟨h.same rfl rfl rfl rfl,.refl _⟩
 again h hms := h fun d hd => hms d (Mark.flatAll_again _ ▸ List.mem_cons_of_mem _ hd)
 enumerator h _ hc := by
  refine ⟨hc.declare ?_ h,.refl _⟩
  exact .other nofun nofun
 tag h _ hc := ⟨hc.setSymbols (hc.unique.declareTag h) (hc.symbols.declareTag h),.refl _⟩
 record c kind tag _ h :=
  ⟨h.grow (.declare kind tag h.records) (Registry.extends_declare _ _ _),
   Registry.extends_declare _ _ _⟩
 complete h _ hc :=
  ⟨hc.grow (.complete _ _ hc.records h) (Registry.extends_complete h),
   Registry.extends_complete h⟩
 defineRecord _ h hms hc :=
  h (fun d hd => hms d (Mark.flatAll_definition _ _ ▸ List.mem_cons_of_mem _ hd))
   (hc.same rfl rfl rfl rfl)
 defineEnum _ h hms hc :=
  h (fun d hd => hms d (Mark.flatAll_definition _ _ ▸ List.mem_cons_of_mem _ hd))
   (hc.same rfl rfl rfl rfl)

/-! ### Declared types -/

lemma arrayElement_eq_ok {t u:CType} (h:arrayElement t span c = .ok u d) :
  u = t ∧ d = c ∧ c.records.isComplete t = true := by
 obtain ⟨b,e,hb,hrest⟩:=bind_eq_ok h
 cases hb
 split at hrest
 · obtain ⟨_,_,_,hfail⟩:=bind_eq_ok hrest
   cases hfail
 · rename_i hcomplete
   cases hrest
   simp only [Bool.or_eq_true,Bool.not_eq_true',not_or,Bool.not_eq_false] at hcomplete
   exact ⟨rfl,rfl,hcomplete.2⟩

lemma sizesArrays_sizedArray {elem t:CType} {length:Option Nat}
  (helem:∃ n, c.records.sizeOf? elem = some n) (h:sizedArray elem length span c = .ok t d) :
  d.records.SizesArrays t := by
 obtain ⟨e,c',he,hrest⟩:=bind_eq_ok h
 cases he
 split at hrest
 · cases hrest
 · rename_i hsize
   cases hrest
   cases length with
   | none => exact .array helem true
   | some n =>
    intro _
    rw [Option.isSome_some,Bool.true_and,Option.isNone_iff_eq_none] at hsize
    exact Option.ne_none_iff_exists'.mp hsize

mutual

lemma sizesArrays_resolveType : ∀ (e:TypeExpr) {c d:Checker} {t:CType},
  Mark.Admitted D e.marks → c.Houses D → resolveType e c = .ok t d → d.records.SizesArrays t
 | ⟨form,quals,span⟩, c, d, t, hms, hc, h => by
  obtain ⟨u,e,hu,hpure⟩:=bind_eq_ok h
  cases hpure
  exact (sizesArrays_resolveForm span form hms hc hu).qualify quals
termination_by structural e => e

lemma sizesArrays_resolveForm (span:Span) : ∀ (form:TypeForm) {c d:Checker} {t:CType},
  Mark.Admitted D form.marks → c.Houses D → resolveForm span form c = .ok t d →
  d.records.SizesArrays t
 | .base b, c, d, t, _, _, h => by
  cases h
  cases b <;> exact fun h => nomatch h
 | .record spec, c, d, t, _, _, h => by
  obtain ⟨id,e,_,hpure⟩:=bind_eq_ok h
  cases hpure
  exact fun h => nomatch h
 | .enum spec, c, d, t, _, _, h => by
  obtain ⟨_,e,_,hpure⟩:=bind_eq_ok h
  cases hpure
  exact fun h => nomatch h
 | .named name, c, d, t, _, hc, h => by
  obtain ⟨x,hx,hentity⟩:=Option.map_eq_some_iff.mp (namedType_eq_ok h)
  obtain ⟨hkind,rfl⟩:=Prod.mk.inj hentity
  have hlooks:(housing D).Looks [] (namedType name span):=.namedType name span
  obtain rfl:=hlooks.eq_of_ok h
  exact (hc.symbols.of_lookup? hx).1.sizes hkind
 | .pointer target, c, d, t, _, _, h => by
  obtain ⟨u,e,_,hpure⟩:=bind_eq_ok h
  cases hpure
  exact fun h => nomatch h
 | .array elem none vla, c, d, t, hms, hc, h => by
  obtain ⟨u,e,hu,hrest⟩:=bind_eq_ok h
  obtain ⟨v,e',hv,hpure⟩:=bind_eq_ok hrest
  obtain ⟨rfl,rfl,hcomplete⟩:=arrayElement_eq_ok hv
  cases hpure
  exact .array ((sizesArrays_resolveType elem hms hc hu).of_complete hcomplete) vla
 | .array elem (some size) vla, c, d, t, hms, hc, h => by
  obtain ⟨helem,hsize⟩:=Mark.admitted_append.mp hms
  obtain ⟨u,e,hu,hrest⟩:=bind_eq_ok h
  obtain ⟨v,e',hv,hrest'⟩:=bind_eq_ok hrest
  obtain ⟨rfl,rfl,hcomplete⟩:=arrayElement_eq_ok hv
  obtain ⟨n,e'',hn,hsized⟩:=bind_eq_ok hrest'
  obtain ⟨he,_⟩:=((housing D).resolveType elem).rel_of_ok hu helem hc
  obtain ⟨_,hextends⟩:=((housing D).arrayLength size vla).rel_of_ok hn hsize he
  -- Checking the length may define records, which leaves sizes as they were.
  refine sizesArrays_sizedArray ?_ hsized
  have hsizes:=sizesArrays_resolveType elem helem hc hu
  exact (hsizes.of_complete hcomplete).imp fun _ => hextends.sizeOf?
 | .function ret params variadic prototyped, c, d, t, _, _, h => by
  obtain ⟨u,e,_,hrest⟩:=bind_eq_ok h
  obtain ⟨v,e',_,hrest'⟩:=bind_eq_ok hrest
  obtain ⟨ts,e'',_,hpure⟩:=bind_eq_ok hrest'
  cases hpure
  exact fun h => nomatch h

end

/-- What a declared object may have for a type: one with a size, a record, or an array whose length
was counted. -/
inductive VarDecl.Gives (r:Registry) (v:VarDecl) (t:CType) : Prop
 | sized {n:Nat} (h:r.sizeOf? t = some n)
 | record (h:t.isRecord = true)
 | counted {i:Initializer} {elem:CType} {n:Nat} (hinit:v.init = some i)
   (hkind:t.kind = .array elem (some (i.extent elem)) false) (helem:r.sizeOf? elem = some n)
   (hlarge:maxObjectSize < n * i.extent elem)

lemma gives_declared {t:CType} (harray:r.SizesArrays t)
  (hvoid:t.isVoid = false) (hfunction:t.isFunction = false) : v.Gives r t := by
 cases hrecord : t.isRecord with
 | true => exact .record hrecord
 | false =>
  obtain ⟨n,hn⟩:=Registry.sizeOf?_of_object harray hvoid hfunction hrecord
  exact .sized hn

lemma gives_initialized {t u:CType} (harray:r.SizesArrays t)
  (hvoid:t.isVoid = false) (hfunction:t.isFunction = false)
  (h:u = t ∨ ∃ i, v.init = some i ∧ InitializedAs t i u) : v.Gives r u := by
 obtain rfl | ⟨i,hinit,hinitialized⟩:=h
 · exact gives_declared harray hvoid hfunction
 · cases hinitialized with
   | same => exact gives_declared harray hvoid hfunction
   | @counted elem hkind =>
    obtain ⟨k,q⟩:=t
    obtain rfl : k = .array elem none false:=hkind
    obtain ⟨n,hn⟩:=harray rfl
    rw [Registry.sizeOf?_array] at hn
    obtain ⟨m,hm,-⟩:=Option.bind_eq_some_iff.mp hn
    by_cases hfits : m * i.extent elem ≤ maxObjectSize
    · refine .sized (n := m * i.extent elem) ?_
      rw [CType.qualify,CType.array,CType.plain,Registry.sizeOf?_array,hm]
      exact objectSize?_eq_some.mpr ⟨rfl,hfits⟩
    · exact .counted hinit rfl hm (Nat.lt_of_not_le hfits)

lemma definable_eq_ok {t:CType} (h:definable v t c = .ok () d) :
  v.storage = some .external ∨ c.records.isComplete t = true := by
 by_cases hstorage : v.storage = some .external
 · exact .inl hstorage
 · refine .inr ?_
   obtain ⟨b,e,hb,hrest⟩:=bind_eq_ok h
   cases hb
   obtain ⟨b,e,hb,hrest⟩:=bind_eq_ok hrest
   cases hb
   cases hcomplete : c.records.isComplete t with
   | true => rfl
   | false =>
    rw [if_pos (by simp [hstorage,hcomplete])] at hrest
    obtain ⟨_,_,_,hfail⟩:=bind_eq_ok hrest
    cases hfail

/-! ### Declared objects -/

lemma CType.isArray_of_isRecord {t:CType} (h:t.isRecord = true) : t.isArray = false := by
 obtain ⟨k,q⟩:=t
 cases k with
 | record id => rfl
 | _ => cases h

lemma housed_record (hrecord:x.type.isRecord = true) (hv:D v)
  (hname:x.name = v.name.name)
  (hdefinable:v.storage = some .external ∨ r.isComplete x.type = true)
  (hdefined:x.isDefined = true → v.isDefinition = true) : x.Housed r D := by
 cases hx : x.isDefined with
 | false => exact .declared hrecord hx
 | true =>
  have hdefinition:=hdefined hx
  obtain hexternal | hcomplete:=hdefinable
  · rw [VarDecl.isDefinition,hexternal] at hdefinition
    have hinit:v.init.isSome = true := by simpa using hdefinition
    exact .excepted (.external hrecord hv hname.symm hexternal hinit)
  · have harray:r.SizesArrays x.type:=fun harray =>
     absurd (CType.isArray_of_isRecord hrecord ▸ harray) Bool.false_ne_true
    obtain ⟨n,hn⟩:=harray.of_complete hcomplete
    exact .sized hn

lemma VarDecl.Gives.housed (h:v.Gives r x.type) (hv:D v)
  (hname:x.name = v.name.name)
  (hdefinable:v.storage = some .external ∨ r.isComplete x.type = true)
  (hdefined:x.isDefined = true → v.isDefinition = true) : x.Housed r D := by
 cases h with
 | sized h => exact .sized h
 | record hrecord => exact housed_record hrecord hv hname hdefinable hdefined
 | counted hinit hkind helem hlarge =>
  exact .excepted (.counted hv hname.symm hinit hkind helem hlarge)

lemma isComplete_of_compatible {t u:CType} (hrecord:t.isRecord = true)
  (h:t.compatible u = true) : r.isComplete t = r.isComplete u := by
 have hkind:=CType.kind_compatible h
 obtain ⟨k,q⟩:=t
 obtain ⟨j,p⟩:=u
 cases k with
 | record id =>
  rw [TypeKind.compatible_comm] at hkind
  obtain rfl : j = .record id:=TypeKind.eq_of_compatible rfl hkind
  rfl
 | _ => cases hrecord

lemma Symbol.Housed.completes {t:CType} (h:x.Housed r D)
  (hgives:v.Gives r t) (hv:D v) (hname:x.name = v.name.name)
  (hdefinable:v.storage = some .external ∨ r.isComplete t = true)
  (hcompatible:x.type.compatible t = true) (hy:x.Completes t v.isDefinition y) :
  y.Housed r D := by
 have hyname:y.name = x.name := by rw [hy.eq]
 have hyparam:y.isParam = x.isParam := by rw [hy.eq]
 have hydefined:y.isDefined = (x.isDefined || v.isDefinition) := by rw [hy.eq]
 obtain ⟨htype,_⟩ | ⟨rfl,harray,_⟩:=hy.type
 · cases h with
   | sized h => exact .sized (htype ▸ h)
   | excepted h => exact .excepted (h.same hyname htype hyparam)
   | declared hrecord hnot =>
    refine housed_record (htype ▸ hrecord) hv (hyname.trans hname) ?_ fun hdefined => ?_
    · rw [htype,isComplete_of_compatible hrecord hcompatible]
      exact hdefinable
    · rwa [hydefined,hnot,Bool.false_or] at hdefined
 -- An array whose length was left out is given the type of the other declaration.
 · cases hgives with
   | sized h => exact .sized h
   | counted hinit hkind helem hlarge =>
    exact .excepted (.counted hv (hname.symm.trans hyname.symm) hinit hkind helem hlarge)
   | record hrecord =>
    rw [CType.isArray_of_compatible hcompatible,CType.isArray_of_isRecord hrecord] at harray
    cases harray

lemma housing_assuming {α:Type} {o:EStateM.Result Fault Checker α}
  (h:Mark.Admitted D ms → c.Houses D → (housing D).Ends ms c o) : (housing D).Ends ms c o := by
 cases o with
 | ok a d =>
  refine .ok fun hms hc => ?_
  cases h hms hc with
  | ok state => exact state hms hc
 | error f d =>
  refine .error fun hms hc => ?_
  cases h hms hc with
  | error state => exact state hms hc

lemma housing_functions (D:VarDecl → Prop) : (housing D).EntersFunctions where
 function hx ht _ hc := by
  refine ⟨hc.declare (.other ?_ ?_) ht,.refl _⟩
  · rw [hx]
    nofun
  · rw [hx]
    nofun
 again hold hfunc hname hkind _ hc := by
  refine ⟨hc.setSymbols (hc.unique.updateLocal hname) (hc.symbols.updateFound hc.unique hold ?_),
   .refl _⟩
  refine fun _ => .other ?_ ?_
  · rw [hkind,hfunc]
    nofun
  · rw [hkind,hfunc]
    nofun

lemma housing_enterVariable {t:CType} (hgives:v.Gives c.records t)
  (hdefinable:v.storage = some .external ∨ c.records.isComplete t = true) :
  (housing D).Ends [.object v] c (enterVariable v t c) := by
 refine outcome_enterVariable .refused v t (fun hs => .ok fun hms hc => ?_)
  fun {old g} _ hold hkind hcompatible hg _ => .ok fun hms hc => ?_
 · have hv:D v:=hms v List.mem_cons_self
   refine ⟨(hc.declare (.object rfl ?_) hs).same rfl rfl rfl rfl,.refl _⟩
   exact VarDecl.Gives.housed hgives hv rfl hdefinable id
 · have hv:D v:=hms v List.mem_cons_self
   have hgname:∀ x, (g x).name = x.name:=fun x => by rw [(hg x).eq]
   have hgkind:(g old).kind = .var := by rw [(hg old).eq,hkind]
   have hupdated:=hc.setSymbols (hc.unique.updateLocal hgname)
    (hc.symbols.updateFound hc.unique hold fun hold' => .object hgkind
     ((hold'.housed hkind).completes hgives hv (Scope.name_of_find? hold) hdefinable hcompatible
      (hg old)))
   exact ⟨hupdated.same rfl rfl rfl rfl,.refl _⟩

lemma housing_declareObject {t:CType} (harray:c.records.SizesArrays t)
  (hfunction:t.isFunction = false) :
  (housing D).Ends (v.init.toList.flatMap Initializer.marks ++ [.object v]) c
   (declareObject v t c) := by
 refine housing_assuming fun hms hc => ?_
 obtain ⟨hinit,_⟩:=Mark.admitted_append.mp hms
 unfold declareObject
 by_cases hvoid : t.isVoid = true
 · rw [if_pos hvoid]
   exact (Account.Looks.fail rfl _).meets c
 · rw [if_neg hvoid]
   refine (Account.Looks.fileScopeStorage v).endsThen fun _ _ => ?_
   refine ((housing D).initializedType v t c).bind fun u e hu => ?_
   refine (Account.Looks.definable v u).endsThen fun _ hdefinable => ?_
   obtain ⟨_,hextends⟩:=((housing D).initializedType v t).rel_of_ok hu hinit hc
   have hgives:v.Gives e.records u:=
    gives_initialized (harray.later hextends) ((Bool.not_eq_true _).mp hvoid) hfunction
     (initializedAs_initializedType v t c u e hu)
   exact housing_enterVariable hgives (definable_eq_ok hdefinable)

lemma housing_declaration (D:VarDecl → Prop) (dcl:Declaration) :
  (housing D).Meets dcl.marks (checkDeclaration dcl) := by
 cases dcl with
 | var v =>
  intro c
  refine housing_assuming fun hms hc => ?_
  obtain ⟨htype,_⟩:=Mark.admitted_append.mp hms
  refine ((housing D).resolveType v.type c).bind fun t e ht => ?_
  by_cases hfunction : t.isFunction = true
  · rw [if_pos hfunction]
    refine Account.Meets.ite (Account.Looks.fail rfl _).meets ?_ e
    have hmeets:=(housing_functions D).declareFunction v.name t v.storage false
    exact hmeets.mono (List.nil_sublist _)
  · rw [if_neg hfunction]
    exact housing_declareObject (sizesArrays_resolveType v.type htype hc ht)
     ((Bool.not_eq_true _).mp hfunction)
 | func f =>
  exact ((housing D).resolveType f.type).last fun t =>
   (housing_functions D).declareFunction f.name t f.storage false
 | record spec => exact (housing D).declareRecord spec
 | enum spec => exact (housing D).resolveEnum spec
 | typedef v =>
  intro c
  refine housing_assuming fun hms hc => ?_
  obtain ⟨htype,_⟩:=Mark.admitted_append.mp hms
  refine ((housing D).resolveType v.type c).bind fun t e ht => ?_
  refine outcome_declare .refused fun hs =>
   .ok fun _ he => ⟨he.declare (.type rfl ?_) hs,.refl _⟩
  exact sizesArrays_resolveType v.type htype hc ht

/-! ### Programs -/

lemma housed_param {name:Ident} {t:CType} {level:Nat} (h:t.IsParameter) :
  Symbol.Housed r D { Symbol.param name t with level } := by
 cases hrecord : t.isRecord with
 | true => exact .excepted (.param hrecord rfl)
 | false =>
  have harray:r.SizesArrays t:=fun harray =>
   absurd (h.notArray ▸ harray) Bool.false_ne_true
  obtain ⟨n,hn⟩:=Registry.sizeOf?_of_object harray h.notVoid h.notFunction hrecord
  exact .sized hn

def programHousing (D:VarDecl → Prop) : ProgramAccount where
 toAccount := housing D
 declaration := housing_declaration D
 heading name t storage := (housing_functions D).declareFunction name t storage true
 param ht hs _ hc := ⟨hc.declare (.object rfl (housed_param ht)) hs,.refl _⟩
 jump _ _ _ _ h := ⟨h,.refl _⟩
 adjust h hadjusted hms hc := by
  obtain ⟨hd,hextends⟩:=h hms hc
  cases hadjusted with
  | flow flow switches => exact ⟨hd.same rfl rfl rfl rfl,hextends⟩
  | function hnotes =>
   refine ⟨⟨hd.records,hd.unique,hd.symbols,fun f hf => ?_,fun f hf x hx => ?_,
    hd.functions⟩,hextends⟩
   · obtain ⟨g,hg,rfl⟩:=Option.map_eq_some_iff.mp hf
     rw [(hnotes g).locals]
     exact hd.locals g hg
   · obtain ⟨g,hg,rfl⟩:=Option.map_eq_some_iff.mp hf
     exact ((hnotes g).labels x hx).elim (hd.labels g hg x) id
 scope h hms hc := by
  obtain ⟨hd,hextends⟩:=h hms hc.enterScope
  refine ⟨hd.leaveScope,?_⟩
  rw [Checker.records_leaveScope]
  exact hextends
 report h hms hc := by
  obtain ⟨hd,hextends⟩:=h hms hc
  exact ⟨hd.same rfl rfl rfl rfl,hextends⟩
 warn _ _ _ _ hc := ⟨hc.same rfl rfl rfl rfl,.refl _⟩
 enterFunction c name ret _ hc := by
  refine ⟨⟨hc.records,hc.unique,hc.symbols,fun f hf => ?_,fun f hf => ?_,hc.functions⟩,
   .refl _⟩
  · cases hf
    exact fun _ hx => nomatch hx
  · cases hf
    exact fun _ hx => nomatch hx
 leaveFunction c t _ hc := by
  refine ⟨hc.leaveFunction t,?_⟩
  rw [Checker.records_leaveFunction]
  exact .refl _

def ProgramUnit.Declares (u:ProgramUnit) (v:VarDecl) : Prop := .object v ∈ Mark.flatAll u.marks

lemma houses_start (D:VarDecl → Prop) (warnUnused:Bool) :
  (Checker.start warnUnused).Houses D where
 records := .empty
 unique := .start
 symbols s hs x hx := by
  cases List.mem_singleton.mp hs
  cases hx
 locals _ hf := nomatch hf
 labels _ hf := nomatch hf
 functions _ hi := nomatch hi

lemma houses_analyze (u:ProgramUnit) (warnUnused:Bool) :
  ((Checker.start warnUnused).analyze u).Houses u.Declares :=
 ((programHousing u.Declares).analyze _ u (fun _ h => h) (houses_start _ warnUnused)).1

/-- The symbols that an analysis knows of: those at file scope and those of functions. -/
def Analysis.Knows (a:Analysis) (x:Symbol) : Prop :=
 x ∈ a.globals ∨ ∃ f ∈ a.functions, x ∈ f.locals

lemma fits_of_knows {u:ProgramUnit} {warnUnused:Bool} {x:Symbol}
  (h:((Checker.start warnUnused).analyze u).analysis.Knows x) :
  x.Fits ((Checker.start warnUnused).analyze u).records u.Declares := by
 have hall:=houses_analyze u warnUnused
 rcases h with h | ⟨f,hf,hx⟩
 · exact hall.symbols _ (SymbolTable.globalScope_mem _) x h
 · exact hall.functions f hf x hx

/-- A defined object has a size that an object can have, but for parameters and external objects
with an initializer that are incomplete records, and for arrays that are too large by the length
that their initializer gives them. -/
theorem defined_objects_sized (u:ProgramUnit) (warnUnused:Bool) {a:Analysis} {x:Symbol}
  (ha:((Checker.start warnUnused).analyze u).analysis = a) (hx:a.Knows x)
  (hkind:x.kind = .var) (hdefined:x.isDefined = true) :
  (∃ n, a.records.sizeOf? x.type = some n ∧ n ≤ maxObjectSize) ∨
   a.records.sizeOf? x.type = none ∧ x.Excepted a.records u.Declares := by
 subst ha
 have hrecords:=(houses_analyze u warnUnused).records
 cases hsize : ((Checker.start warnUnused).analyze u).records.sizeOf? x.type with
 | some n => exact .inl ⟨n,hsize,hrecords.bounded.sizeOf?_le hsize⟩
 | none =>
  refine .inr ⟨hsize,?_⟩
  cases (fits_of_knows hx).housed hkind with
  | sized h => cases hsize.symm.trans h
  | declared _ h => cases h.symm.trans hdefined
  | excepted h => exact h

/-- The second declaration tells the length that the first one leaves out. -/
theorem defined_objects_sized_completed :
  ∃ u x, parse "extern int t[]; int t[] = {1, 2};" = .ok u ∧
   ((Checker.start true).analyze u).analysis.Knows x ∧ x.kind = .var ∧ x.isDefined = true ∧
   ∃ n, ((Checker.start true).analyze u).analysis.records.sizeOf? x.type = some n ∧
    n ≤ maxObjectSize := by
 have h : (parse "extern int t[]; int t[] = {1, 2};").toOption.bind (fun u =>
   (((Checker.start true).analyze u).analysis.globals.find? (·.name == "t")).map fun x =>
    (x.kind,x.isDefined,((Checker.start true).analyze u).analysis.records.sizeOf? x.type)) =
   some (.var,true,some 8) := by
  decide +kernel
 obtain ⟨u,hu,hfind⟩:=exists_unit h
 obtain ⟨x,hx,heq⟩:=Option.map_eq_some_iff.mp hfind
 obtain ⟨hkind,heq⟩:=Prod.mk.inj heq
 obtain ⟨hdefined,hsize⟩:=Prod.mk.inj heq
 have hknows:((Checker.start true).analyze u).analysis.Knows x:=
  Or.inl (List.mem_of_find?_eq_some hx)
 refine ⟨u,x,hu,hknows,hkind,hdefined,?_⟩
 refine (defined_objects_sized u true rfl hknows hkind hdefined).resolve_right fun hnone => ?_
 cases hsize.symm.trans hnone.1

def Analysis.unsized (a:Analysis) : List String :=
 ((a.globals ++ a.functions.flatMap (·.locals)).filter fun x =>
  x.kind == .var && x.isDefined && (a.records.sizeOf? x.type).isNone).map (·.name)

/-- A parameter, an external object and a counted array that are accepted without a size. -/
theorem unsized_objects_accepted :
  (check "struct S; void f(struct S s) { }" "" true).analysis.map
   (fun a => (a.errorCount,a.unsized)) = some (0,["s"]) ∧
  (check "struct S; extern struct S y; extern struct S x = y;" "" true).analysis.map
   (fun a => (a.errorCount,a.unsized)) = some (0,["x"]) ∧
  (check "char x[][4611686018427387904] = {{0}, {0}};" "" true).analysis.map
   (fun a => (a.errorCount,a.unsized)) = some (0,["x"]) := by
 decide +kernel

end CCheck
