import CCheck.Proofs.Naming.Resolution

/-! # Properties of all symbols

A property that all symbols of a table have is kept by what happens to tables, and what remains of
a state when a scope or a function ends. -/

set_option autoImplicit false

namespace CCheck

variable {g:Symbol → Symbol} {old x:Symbol} {s:Scope} {span:Span} {ss:List Scope} {tag:Tag}

namespace SymbolTable

variable {Q:Scope → Prop} {t t':SymbolTable} {name:String}

lemma forall_scopes_exit (h:∀ s ∈ t.scopes, Q s)
  (houter:t.outer = s :: ss) : ∀ s' ∈ SymbolTable.scopes ⟨s,ss⟩, Q s' := by
 intro s' hs'
 refine h s' (List.mem_cons_of_mem _ ?_)
 rw [houter]
 exact hs'

lemma forall_scopes_declareTag
  (hQ:∀ s tags, Q s → Q { s with tags }) (h:∀ s ∈ t.scopes, Q s)
  (ht:t.declareTag name tag span = .ok t') : ∀ s ∈ t'.scopes, Q s := by
 rw [declareTag_eq] at ht
 split at ht
 · cases ht
 · cases ht
   obtain ⟨hcurrent,houter⟩:=List.forall_mem_cons.mp h
   exact List.forall_mem_cons.mpr ⟨hQ _ _ hcurrent,houter⟩

lemma forall_scopes_updateIn (hQ:∀ s, Q s → Q (s.update name g))
  (h:∀ s ∈ ss, Q s) : ∀ s ∈ updateIn name g ss, Q s := by
 induction ss with
 | nil => exact h
 | cons s ss ih =>
  obtain ⟨hs,hss⟩:=List.forall_mem_cons.mp h
  rw [updateIn]
  split
  · exact List.forall_mem_cons.mpr ⟨hQ s hs,hss⟩
  · exact List.forall_mem_cons.mpr ⟨hs,ih hss⟩

lemma forall_scopes_markUsed (hQ:∀ s, Q s → Q (s.update name Symbol.used))
  (h:∀ s ∈ t.scopes, Q s) : ∀ s ∈ (t.markUsed name).scopes, Q s := by
 unfold markUsed
 rw [scopes_update]
 exact forall_scopes_updateIn hQ h

end SymbolTable

/-! ### Properties of all symbols -/

def SymbolTable.All (P:Symbol → Prop) (t:SymbolTable) : Prop :=
 ∀ s ∈ t.scopes, ∀ x ∈ s.symbols, P x

namespace SymbolTable.All

variable {P:Symbol → Prop} {t t':SymbolTable} {name:String}

lemma enter (h:t.All P) : t.enter.All P := by
 intro s hs
 cases hs with
 | head => exact fun _ hx => nomatch hx
 | tail _ hs => exact h s hs

lemma exit (h:t.All P) (houter:t.outer = s :: ss) :
  SymbolTable.All P ⟨s,ss⟩ :=
 forall_scopes_exit h houter

lemma declare (h:t.All P) (hx:P { x with level := t.level })
  (ht:t.declare x = .ok t') : t'.All P := by
 rw [declare_eq] at ht
 split at ht
 · cases ht
 · cases ht
   obtain ⟨hcurrent,houter⟩:=List.forall_mem_cons.mp h
   refine List.forall_mem_cons.mpr ⟨?_,houter⟩
   exact List.forall_mem_append.mpr ⟨hcurrent,List.forall_mem_singleton.mpr hx⟩

lemma declareTag (h:t.All P)
  (ht:t.declareTag name tag span = .ok t') : t'.All P :=
 forall_scopes_declareTag (fun _ _ hs => hs) h ht

lemma update_scope (h:∀ x ∈ s.symbols, P x)
  (hg:∀ x ∈ s.symbols, x.name = name → P x → P (g x)) :
  ∀ x ∈ (s.update name g).symbols, P x := by
 intro y hy
 obtain ⟨x,hx,rfl⟩:=List.mem_map.mp hy
 split
 · rename_i hname
   exact hg x hx (eq_of_beq hname) (h x hx)
 · exact h x hx

lemma updateLocal (h:t.All P)
  (hg:∀ x ∈ t.current.symbols, x.name = name → P x → P (g x)) :
  (t.updateLocal name g).All P := by
 obtain ⟨hcurrent,houter⟩:=List.forall_mem_cons.mp h
 exact List.forall_mem_cons.mpr ⟨update_scope hcurrent hg,houter⟩

lemma markUsed (h:t.All P) (hused:∀ x, P x → P x.used) (name:String) :
  (t.markUsed name).All P :=
 forall_scopes_markUsed (fun _ hs => update_scope hs fun x _ _ => hused x) h

lemma of_lookup? (h:t.All P) (hx:t.lookup? name = some x) :
  P x ∧ x.name = name := by
 obtain ⟨s,hs,hfind⟩:=List.exists_of_findSome?_eq_some hx
 exact ⟨h s hs x (List.mem_of_find?_eq_some hfind),Scope.name_of_find? hfind⟩

end SymbolTable.All

lemma SymbolTable.globalScope_mem (t:SymbolTable) : t.globalScope ∈ t.scopes :=
 List.mem_of_getLast? List.getLast?_cons

/-! ### Scopes without two symbols of one name -/

lemma Scope.names_update (s:Scope) (name:String)
  (hg:∀ x, (g x).name = x.name) : (s.update name g).names = s.names := by
 unfold update names
 rw [List.map_map]
 refine List.map_congr_left fun x _ => ?_
 rw [Function.comp_apply,apply_ite Symbol.name,hg,ite_self]

lemma Scope.eq_of_find? {name:String} {y:Symbol} (hs:s.names.Nodup)
  (hy:s.find? name = some y) (hx:x ∈ s.symbols) (hname:x.name = name) : x = y :=
 List.inj_on_of_nodup_map hs hx (List.mem_of_find?_eq_some hy)
  (hname.trans (name_of_find? hy).symm)

lemma SymbolTable.isSome_lookupLocal?_declare {t t':SymbolTable}
  (h:t.declare x = .ok t') : (t'.lookupLocal? x.name).isSome = true := by
 rw [declare_eq] at h
 split at h
 · cases h
 · cases h
   refine Scope.find?_isSome.mpr ?_
   rw [Scope.names_concat]
   exact List.mem_append_right _ List.mem_cons_self

lemma SymbolTable.isSome_lookupLocal?_updateLocal {t:SymbolTable} {name:String}
  (h:t.lookupLocal? name = some old) (hg:∀ x, (g x).name = x.name) :
  ((t.updateLocal name g).lookupLocal? name).isSome = true := by
 refine Scope.find?_isSome.mpr ?_
 rw [updateLocal,Scope.names_update _ _ hg]
 exact Scope.find?_isSome.mp (Option.isSome_iff_exists.mpr ⟨old,h⟩)

def SymbolTable.Unique (t:SymbolTable) : Prop := ∀ s ∈ t.scopes, s.names.Nodup

namespace SymbolTable.Unique

variable {t t':SymbolTable} {name:String}

lemma start : SymbolTable.start.Unique := fun _ hs => List.mem_singleton.mp hs ▸ List.Pairwise.nil

lemma enter (h:t.Unique) : t.enter.Unique := List.forall_mem_cons.mpr ⟨List.Pairwise.nil,h⟩

lemma exit (h:t.Unique) (houter:t.outer = s :: ss) :
  SymbolTable.Unique ⟨s,ss⟩ :=
 forall_scopes_exit h houter

lemma declare (h:t.Unique) (ht:t.declare x = .ok t') : t'.Unique := by
 rw [declare_eq] at ht
 split at ht
 · cases ht
 · rename_i hnew
   cases ht
   obtain ⟨hcurrent,houter⟩:=List.forall_mem_cons.mp h
   refine List.forall_mem_cons.mpr ⟨?_,houter⟩
   rw [Scope.find?_isSome] at hnew
   rw [Scope.names_concat]
   refine hcurrent.append (List.nodup_singleton _) fun y hy hlast => hnew ?_
   exact List.mem_singleton.mp hlast ▸ hy

lemma declareTag (h:t.Unique)
  (ht:t.declareTag name tag span = .ok t') : t'.Unique :=
 forall_scopes_declareTag (fun _ _ hs => hs) h ht

lemma updateLocal (h:t.Unique) (hg:∀ x, (g x).name = x.name) :
  (t.updateLocal name g).Unique := by
 obtain ⟨hcurrent,houter⟩:=List.forall_mem_cons.mp h
 exact List.forall_mem_cons.mpr ⟨(t.current.names_update name hg).symm ▸ hcurrent,houter⟩

lemma markUsed (h:t.Unique) (name:String) : (t.markUsed name).Unique :=
 forall_scopes_markUsed (fun s hs => (s.names_used name).symm ▸ hs) h

end SymbolTable.Unique

lemma SymbolTable.All.updateFound {P:Symbol → Prop} {t:SymbolTable} {name:String}
   (h:t.All P) (hunique:t.Unique)
  (hold:t.lookupLocal? name = some old) (hg:P old → P (g old)) :
  (t.updateLocal name g).All P := by
 refine h.updateLocal fun x hx hname => ?_
 rw [Scope.eq_of_find? (hunique _ List.mem_cons_self) hold hx hname]
 exact hg

variable {c:Checker}

lemma symbols_leaveScope (h:c.symbols.outer = s :: ss) :
  c.leaveScope.symbols = ⟨s,ss⟩ := by
 rw [leaveScope_of_outer h]
 exact warnAboutUnused_keeps (P := fun d => d.symbols = ⟨s,ss⟩) (fun _ _ _ h => h) _ rfl

lemma leaveFunction_keeps {P:Checker → Prop}
  (hreport:∀ c f, f.stage = .semantic → P c → P (c.report f))
  (hfunction:∀ c, P c → P { c with function := none })
  (hfunctions:∀ c functions, P c → P { c with functions }) (t:CType) (hc:P c) :
  P (c.leaveFunction t) := by
 unfold Checker.leaveFunction
 cases c.function with
 | none => exact hc
 | some f =>
  have hended:P { c with function := none }:=hfunction c hc
  refine hfunctions _ _ (List.foldlRecOn (motive := P) f.undefinedGotos _ hended ?_)
  exact fun d hd g _ => hreport d _ rfl hd

end CCheck
