import CCheck.Proofs.Checking.Lockstep
import CCheck.Proofs.Checking.ProgramLogic

/-! # Checking at other places

A simulation of checkers is a relation of checker states that the primitive updates keep:
related states differ in the places of their symbols, as a relocation says, and in how
they keep diagnostics. -/

set_option autoImplicit false

namespace CCheck

/-! ### Symbols -/

def Scope.mapSpans (f:Span → Span) (s:Scope) : Scope :=
 { s with symbols := s.symbols.map (·.mapSpan f) }

def SymbolTable.mapSpans (f:Span → Span) (t:SymbolTable) : SymbolTable :=
 ⟨t.current.mapSpans f,t.outer.map (·.mapSpans f)⟩

def FunctionInfo.mapSpans (f:Span → Span) (i:FunctionInfo) : FunctionInfo :=
 { i with locals := i.locals.map (·.mapSpan f) }

lemma Scope.mapSpans_find? (f:Span → Span) (s:Scope) (name:String) :
  (s.mapSpans f).find? name = (s.find? name).map (·.mapSpan f) := by
 simp only [Scope.mapSpans,Scope.find?,List.find?_map,Function.comp_def,Symbol.mapSpan]

lemma Scope.mapSpans_update (f:Span → Span) (s:Scope) (name:String)
  {g:Symbol → Symbol} (hg:∀ x, (g x).mapSpan f = g (x.mapSpan f)) :
  (s.mapSpans f).update name g = (s.update name g).mapSpans f := by
 simp only [Scope.mapSpans,Scope.update,List.map_map]
 congr 2
 funext x
 simp only [Function.comp_apply]
 change (if (x.name == name) = true then _ else _) = _
 split
 · exact (hg x).symm
 · rfl

namespace SymbolTable

lemma mapSpans_level (f:Span → Span) (t:SymbolTable) :
  (t.mapSpans f).level = t.level := by
 simp only [level,mapSpans,List.length_map]

lemma mapSpans_lookupLocal? (f:Span → Span) (t:SymbolTable) (name:String) :
  (t.mapSpans f).lookupLocal? name = (t.lookupLocal? name).map (·.mapSpan f) :=
 Scope.mapSpans_find? f t.current name

lemma mapSpans_lookup? (f:Span → Span) (t:SymbolTable) (name:String) :
  (t.mapSpans f).lookup? name = (t.lookup? name).map (·.mapSpan f) := by
 have outer (ss:List Scope) : (ss.map (·.mapSpans f)).findSome? (·.find? name) =
   (ss.findSome? (·.find? name)).map (·.mapSpan f) := by
  induction ss with
  | nil => rfl
  | cons s ss ih =>
   rw [List.map_cons,List.findSome?_cons,List.findSome?_cons,ih,Scope.mapSpans_find?]
   cases s.find? name <;> rfl
 exact outer (t.current :: t.outer)

lemma mapSpans_tag? (f:Span → Span) (t:SymbolTable) (name:String) :
  (t.mapSpans f).tag? name = t.tag? name := by
 have outer (ss:List Scope) : (ss.map (·.mapSpans f)).findSome? (·.tag? name) =
   ss.findSome? (·.tag? name) := by
  rw [List.findSome?_map]
  rfl
 exact outer (t.current :: t.outer)

lemma mapSpans_declare (f:Span → Span) (t:SymbolTable) (x:Symbol) :
  (t.mapSpans f).declare (x.mapSpan f) =
   match t.declare x with
   | .ok t => .ok (t.mapSpans f)
   | .error e => .error (e.mapSpan f) := by
 unfold declare
 rw [mapSpans_lookupLocal?,Symbol.mapSpan_name]
 cases t.lookupLocal? x.name with
 | some y => rfl
 | none =>
  simp only [Option.map,mapSpans_level]
  simp only [mapSpans,Scope.mapSpans,List.map_append,List.map]
  rfl

lemma mapSpans_tagLocal? (f:Span → Span) (t:SymbolTable) (name:String) :
  (t.mapSpans f).tagLocal? name = t.tagLocal? name := rfl

lemma mapSpans_declareTag (f:Span → Span) (t:SymbolTable) (name:String) (tag:Tag)
  (span:Span) :
  (t.mapSpans f).declareTag name tag (f span) =
   match t.declareTag name tag span with
   | .ok t => .ok (t.mapSpans f)
   | .error e => .error (e.mapSpan f) := by
 unfold declareTag
 rw [mapSpans_tagLocal?]
 cases t.tagLocal? name <;> rfl

lemma mapSpans_updateLocal (f:Span → Span) (t:SymbolTable) (name:String)
  {g:Symbol → Symbol} (hg:∀ x, (g x).mapSpan f = g (x.mapSpan f)) :
  (t.mapSpans f).updateLocal name g = (t.updateLocal name g).mapSpans f := by
 simp only [updateLocal,mapSpans,Scope.mapSpans_update f _ _ hg]

lemma mapSpans_updateIn (f:Span → Span) (name:String) {g:Symbol → Symbol}
  (hg:∀ x, (g x).mapSpan f = g (x.mapSpan f)) (ss:List Scope) :
  updateIn name g (ss.map (·.mapSpans f)) = (updateIn name g ss).map (·.mapSpans f) := by
 induction ss with
 | nil => rfl
 | cons s ss ih =>
  simp only [List.map_cons,updateIn,Scope.mapSpans_find?,Option.isSome_map]
  split
  · rw [List.map_cons,Scope.mapSpans_update f _ _ hg]
  · rw [List.map_cons,ih]

lemma mapSpans_update (f:Span → Span) (t:SymbolTable) (name:String)
  {g:Symbol → Symbol} (hg:∀ x, (g x).mapSpan f = g (x.mapSpan f)) :
  (t.mapSpans f).update name g = (t.update name g).mapSpans f := by
 unfold update
 rw [mapSpans_lookupLocal?,Option.isSome_map]
 split
 · exact mapSpans_updateLocal f t name hg
 · exact congrArg (SymbolTable.mk _) (mapSpans_updateIn f name hg t.outer)

lemma mapSpans_markUsed (f:Span → Span) (t:SymbolTable) (name:String) :
  (t.mapSpans f).markUsed name = (t.markUsed name).mapSpans f :=
 mapSpans_update f t name fun _ => rfl

lemma mapSpans_exit? (f:Span → Span) (t:SymbolTable) :
  (t.mapSpans f).exit? =
   t.exit?.map fun p => (p.1.mapSpans f,p.2.mapSpans f) := by
 obtain ⟨current,outer⟩:=t
 cases outer <;> rfl

lemma mapSpans_globals (f:Span → Span) (t:SymbolTable) :
  (t.mapSpans f).globals = t.globals.map (·.mapSpan f) := by
 obtain ⟨current,outer⟩:=t
 simp only [globals,globalScope,mapSpans,List.getLast?_map]
 cases outer.getLast? <;> rfl

end SymbolTable

structure Checker.Simulation (ρ:Relocation) extends Checker.Pairing ρ where
 symbols : ∀ {c d}, rel c d → d.symbols = c.symbols.mapSpans ρ
 initialized : ∀ {c d}, rel c d → d.initialized = c.initialized
 flow : ∀ {c d}, rel c d → d.flow = c.flow
 switches : ∀ {c d}, rel c d → d.switches = c.switches
 function : ∀ {c d}, rel c d → d.function = c.function.map (·.mapSpans ρ)
 setSymbols : ∀ {c d}, rel c d → ∀ t,
  rel { c with symbols := t } { d with symbols := t.mapSpans ρ }
 setInitialized : ∀ {c d}, rel c d → ∀ names,
  rel { c with initialized := names } { d with initialized := names }
 setFlow : ∀ {c d}, rel c d → ∀ flow, rel { c with flow } { d with flow }
 setSwitches : ∀ {c d}, rel c d → ∀ switches, rel { c with switches } { d with switches }
 setFunction : ∀ {c d}, rel c d → ∀ f : Option FunctionContext,
  rel { c with function := f } { d with function := f.map (·.mapSpans ρ) }
 addFunction : ∀ {c d}, rel c d → ∀ i,
  rel { c with functions := c.functions ++ [i] }
   { d with functions := d.functions ++ [i.mapSpans ρ] }
 report : ∀ {c d}, rel c d → ∀ f, rel (c.report f) (d.report (f.mapSpan ρ))
 warn : ∀ {c d}, rel c d → ∀ {message}, IsCaseWarning message → ∀ span,
  rel (c.warn message span) (d.warn message (ρ span))
 warnAboutUnused : ∀ {c d}, rel c d → ∀ xs,
  rel (c.warnAboutUnused xs) (d.warnAboutUnused (xs.map (·.mapSpan ρ)))

namespace Checker.Simulation

open Check

variable {α:Type} {ρ:Relocation} (T:Checker.Simulation ρ)

lemma keepLocals {c d:Checker} (h:T.rel c d) (xs:List Symbol) :
  T.rel (c.keepLocals xs) (d.keepLocals (xs.map (·.mapSpan ρ))) := by
 have hf:=T.setFunction h (c.function.map fun f => { f with locals := f.locals ++ xs })
 unfold Checker.keepLocals
 rw [T.function h]
 cases hc : c.function with
 | none => simpa only [hc,Option.map] using hf
 | some f => simpa only [hc,Option.map,FunctionContext.mapSpans,List.map_append] using hf

lemma leaveScope {c d:Checker} (h:T.rel c d) : T.rel c.leaveScope d.leaveScope := by
 unfold Checker.leaveScope
 rw [T.symbols h,SymbolTable.mapSpans_exit?]
 cases c.symbols.exit? with
 | none => exact h
 | some p => exact T.keepLocals (T.warnAboutUnused (T.setSymbols h p.2) _) _

lemma enterScope {c d:Checker} (h:T.rel c d) : T.rel c.enterScope d.enterScope := by
 unfold Checker.enterScope
 rw [T.symbols h]
 exact T.setSymbols h c.symbols.enter

lemma leaveSwitch {c d:Checker} (h:T.rel c d) :
  T.rel { c with switches := c.switches.tail } { d with switches := d.switches.tail } := by
 rw [T.switches h]
 exact T.setSwitches h _

/-! ### Primitive steps -/

lemma updateSymbols {f g:SymbolTable → Except Fault SymbolTable}
  (h:∀ t, g (t.mapSpans ρ) =
   match f t with
   | .ok t => .ok (t.mapSpans ρ)
   | .error e => .error (e.mapSpan ρ)) {c d:Checker} (hcd:T.rel c d) :
  Tracks ρ T.rel (fun _ => T.rel) (updateSymbols f c) (updateSymbols g d) := by
 unfold Check.updateSymbols
 rw [T.symbols hcd,h]
 cases f c.symbols with
 | ok t => exact .ok (T.setSymbols hcd t)
 | error e => exact .error hcd

lemma declared {c d:Checker} (h:T.rel c d) (x:Symbol) :
  Tracks ρ T.rel (fun _ => T.rel) (declare x c) (declare (x.mapSpan ρ) d) :=
 T.updateSymbols (SymbolTable.mapSpans_declare ρ · x) h

def coupling : Coupling ρ fun _ _ => True where
 __ := T.toPairing
 failed _ := T.rel
 recover := id
 refuse h _ _ _ := h
 unknown h _ _ _ _ := h
 lookup? h name _ _ := by
  rw [T.symbols h,SymbolTable.mapSpans_lookup?]
  cases SymbolTable.lookup? _ name <;> rfl
 level h := by rw [T.symbols h,SymbolTable.mapSpans_level]
 tag? h name := by rw [T.symbols h,SymbolTable.mapSpans_tag?]
 tagLocal? h name := by rw [T.symbols h,SymbolTable.mapSpans_tagLocal?]
 markUsed h name _ := by
  rw [T.symbols h,SymbolTable.mapSpans_markUsed]
  exact T.setSymbols h _
 declareConstant h name _ v := T.declared h (.fresh name (.constant v) .int none true)
 declareTag h tag t :=
  T.updateSymbols (fun s => SymbolTable.mapSpans_declareTag ρ s tag.name t tag.span) h

abbrev Agree (x y:Check α) : Prop := T.coupling.Lockstep x y

lemma declare (x:Symbol) : T.Agree (declare x) (declare (x.mapSpan ρ)) :=
 fun _ _ h => T.declared h x

lemma fail (cause:Cause) (span:Span) :
  T.Agree (fail cause span:Check α) (fail cause (ρ span)) :=
 fun _ _ h => .error (f := ⟨cause,span⟩) h

lemma reporting {x y:Check Unit} (h:T.Agree x y) : T.Agree (reporting x) (reporting y) := by
 intro c d hcd
 unfold Check.reporting
 obtain ⟨a,c',d',hx,hy,hcd'⟩ | ⟨f,c',d',hx,hy,hcd'⟩:=(h c d hcd).run
 · rw [hx,hy]
   exact .ok hcd'
 · rw [hx,hy]
   exact .ok (T.report hcd' f)

lemma between {x y:Check α} {enter:Checker → Checker} {leave:Checker → Checker → Checker}
  (henter:∀ {c d}, T.rel c d → T.rel (enter c) (enter d))
  (hleave:∀ {c d c' d'}, T.rel c d → T.rel c' d' → T.rel (leave c c') (leave d d'))
  (h:T.Agree x y) : T.Agree (between enter leave x) (between enter leave y) := by
 intro c d hcd
 unfold Check.between
 obtain ⟨a,c',d',hx,hy,hcd'⟩ | ⟨f,c',d',hx,hy,hcd'⟩:=(h _ _ (henter hcd)).run
 · rw [hx,hy]
   exact .ok (hleave hcd hcd')
 · rw [hx,hy]
   exact .error (hleave hcd hcd')

lemma inScope {x y:Check α} (h:T.Agree x y) : T.Agree (inScope x) (inScope y) :=
 T.between T.enterScope (fun _ => T.leaveScope) h

lemma withFlow {x y:Check α} (change:Flow → Flow) (h:T.Agree x y) :
  T.Agree (withFlow change x) (withFlow change y) :=
 T.between (fun h => T.flow h ▸ T.setFlow h _) (fun h h' => T.flow h ▸ T.setFlow h' _) h

lemma inSwitch {x y:Check α} (frame:SwitchFrame) (h:T.Agree x y) :
  T.Agree (inSwitch frame x) (inSwitch frame y) :=
 T.between (fun h => T.switches h ▸ T.setSwitches h _) (fun _ => T.leaveSwitch) h

end Checker.Simulation

end CCheck
