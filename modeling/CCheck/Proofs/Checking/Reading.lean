import CCheck.Proofs.Scoping.Views
import CCheck.Proofs.Checking.ConstPaths
import CCheck.Proofs.Checking.Lockstep

/-! # Reading a name

What is known of a name can change where an expression reads it: a name that is declared becomes one
that is used, and a name that is unknown ends the check. -/

set_option autoImplicit false

namespace CCheck

open Check

variable {α β:Type}

variable {c:Checker} {e:Expr} {i:Initializer} {is:List Initializer} {span:Span} {u:Check Int64}

/-! ### What is known of one name -/

def Spares (x:String) (name:String) (use:NameUse) : Prop := use = .constant → name ≠ x

namespace SymbolTable

variable {t t':SymbolTable} {x:String} {z:Symbol}

lemma symbols_markUsed (t:SymbolTable) (name:String) :
  (t.markUsed name).current.symbols =
   t.current.symbols.map fun z => if z.name == name then z.used else z := by
 unfold markUsed update
 split
 · rfl
 · rename_i hname
   have hother:∀ z ∈ t.current.symbols, (if z.name == name then z.used else z) = z := by
    intro z hz
    refine if_neg fun heq => hname ?_
    exact List.find?_isSome.mpr ⟨z,hz,heq⟩
   exact ((List.map_congr_left hother).trans (List.map_id' _)).symm

lemma isSome_lookupLocal?_markUsed (t:SymbolTable) (name x:String) :
  ((t.markUsed name).lookupLocal? x).isSome = (t.lookupLocal? x).isSome := by
 have hnames:((fun z:Symbol => z.name == x) ∘ fun z => if z.name == name then z.used else z) =
   fun z => z.name == x := by
  funext z
  rw [Function.comp_apply,apply_ite Symbol.name,Symbol.used_name,ite_self]
 unfold lookupLocal? Scope.find?
 rw [symbols_markUsed,List.find?_map,hnames,Option.isSome_map]

lemma level_markUsed (t:SymbolTable) (name:String) : (t.markUsed name).level = t.level := by
 unfold markUsed update
 split
 · rfl
 · exact HoldAll.length_updateIn _ _ _

lemma declare_of_ok (h:t.declare z = .ok t') :
  t' = { t with
   current := { t.current with
    symbols := t.current.symbols ++ [{ z with level := t.level }] } } := by
 rw [declare_eq] at h
 split at h
 · cases h
 · cases h
   rfl

lemma lookupLocal?_declare (h:t.declare z = .ok t') (hx:z.name ≠ x) :
  t'.lookupLocal? x = t.lookupLocal? x := by
 rw [declare_of_ok h]
 unfold lookupLocal? Scope.find?
 rw [List.find?_append,List.find?_cons,beq_false_of_ne hx,List.find?_nil,Option.or_none]

lemma current_declareTag {name:String} {tag:Tag}
  (h:t.declareTag name tag span = .ok t') :
  t'.current.symbols = t.current.symbols ∧ t'.outer = t.outer := by
 rw [declareTag_eq] at h
 split at h
 · cases h
 · cases h
   exact ⟨rfl,rfl⟩

end SymbolTable

def invisible (x:String) : Assertion (Spares x) :=
 .ofSymbols (fun t => t.lookup? x = none)
  (fun {t} h name => by
   have hviews:=SymbolTable.views_markUsed (f := fun _ => ()) t name fun _ => rfl
   rwa [← Option.map_eq_none_iff (f := fun _ : Symbol => ()),SymbolTable.map_lookup?,hviews,
    ← SymbolTable.map_lookup?,Option.map_eq_none_iff])
  (fun {t t' name v} h hz ht => by
   have hlookup:=SymbolTable.map_lookup?_declare (f := fun _ => ()) ht x
   have hx:x ≠ (Symbol.fresh name (.constant v) .int none true).name:=Ne.symm (hz rfl)
   rwa [if_neg hx,h,Option.map_none,Option.map_eq_none_iff] at hlookup)
  (fun {t t' name tag span} h ht => by
   have hviews:=SymbolTable.views_declareTag (f := fun _ => ()) ht
   rwa [← Option.map_eq_none_iff (f := fun _ : Symbol => ()),SymbolTable.map_lookup?,hviews,
    ← SymbolTable.map_lookup?,Option.map_eq_none_iff])

def undeclared (x:String) (level:Nat) : Assertion (Spares x) :=
 .ofSymbols (fun t => t.lookupLocal? x = none ∧ t.level = level)
  (fun {t} h name => by
   have hlocal:=t.isSome_lookupLocal?_markUsed name x
   rw [h.1] at hlocal
   exact ⟨Option.isNone_iff_eq_none.mp (Option.isSome_eq_false_iff.mp hlocal),
    (t.level_markUsed name).trans h.2⟩)
  (fun {t t' name v} h hz ht => by
   rw [SymbolTable.lookupLocal?_declare ht (hz rfl),SymbolTable.declare_of_ok ht]
   exact h)
  (fun {t t' name tag span} h ht => by
   unfold SymbolTable.lookupLocal? SymbolTable.level Scope.find?
   rw [(SymbolTable.current_declareTag ht).1,(SymbolTable.current_declareTag ht).2]
   exact h)

def declared (x:String) : Assertion (Spares x) :=
 .ofSymbols (fun t => (t.lookupLocal? x).isSome = true)
  (fun {t} h name => by
   rw [SymbolTable.isSome_lookupLocal?_markUsed]
   exact h)
  (fun {t t' name v} h hz ht => by
   rw [SymbolTable.lookupLocal?_declare ht (hz rfl)]
   exact h)
  (fun {t t' name tag span} h ht => by
   unfold SymbolTable.lookupLocal? Scope.find?
   rw [(SymbolTable.current_declareTag ht).1]
   exact h)

def SymbolTable.Uses (t:SymbolTable) (x:String) : Prop :=
 (t.lookupLocal? x).isSome = true ∧ ∀ z ∈ t.current.symbols, z.name = x → z.isUsed = true

def used (x:String) : Assertion (Spares x) :=
 .ofSymbols (·.Uses x)
  (fun {t} h name => by
   refine ⟨(t.isSome_lookupLocal?_markUsed name x).trans h.1,?_⟩
   rw [SymbolTable.symbols_markUsed]
   refine List.forall_mem_map.mpr fun z hz => ?_
   split
   · exact fun _ => rfl
   · exact h.2 z hz)
  (fun {t t' name v} h hz ht => by
   refine ⟨by rw [SymbolTable.lookupLocal?_declare ht (hz rfl),h.1],?_⟩
   rw [SymbolTable.declare_of_ok ht]
   refine List.forall_mem_append.mpr ⟨h.2,List.forall_mem_singleton.mpr fun heq => ?_⟩
   exact absurd heq (hz rfl))
  (fun {t t' name tag span} h ht => by
   unfold SymbolTable.Uses SymbolTable.lookupLocal? Scope.find?
   rw [(SymbolTable.current_declareTag ht).1]
   exact h)

/-! ### Reading a name -/

/-- The expression reads the value or the type of the name, outside the types in it. A name that
is only assigned to is not read. -/
inductive Expr.Reads (x:String) : Expr → Prop
 | ident {i:Ident} (h:i.name = x) : Reads x (.ident i)
 | left {op:BinOp} {l r:Expr} {span:Span} (h:Reads x l) : Reads x (.binary op l r span)
 | right {op:BinOp} {l r:Expr} {span:Span} (h:Reads x r) : Reads x (.binary op l r span)
 | unary {op:UnaryOp} {e:Expr} {span:Span} (h:Reads x e) : Reads x (.unary op e span)
 | target {op:AssignOp} {e v:Expr} {span:Span} (h:Reads x e)
    (hcompound:op.binary?.isSome = true) : Reads x (.assign op e v span)
 | stored {op:AssignOp} {e v:Expr} {span:Span} (h:Reads x v) :
    Reads x (.assign op e v span)
 | test {e yes no:Expr} {span:Span} (h:Reads x e) : Reads x (.cond e yes no span)
 | yes {e yes no:Expr} {span:Span} (h:Reads x yes) : Reads x (.cond e yes no span)
 | no {e yes no:Expr} {span:Span} (h:Reads x no) : Reads x (.cond e yes no span)
 | callee {f:Expr} {args:List Expr} {span:Span} (h:Reads x f) :
    Reads x (.call f args span)
 | argument {f e:Expr} {args:List Expr} {span:Span} (hmem:e ∈ args) (h:Reads x e) :
    Reads x (.call f args span)
 | base {b i:Expr} {span:Span} (h:Reads x b) : Reads x (.index b i span)
 | index {b i:Expr} {span:Span} (h:Reads x i) : Reads x (.index b i span)
 | member {b:Expr} {m:Ident} {arrow:Bool} {span:Span} (h:Reads x b) :
    Reads x (.member b m arrow span)
 | cast {t:TypeExpr} {e:Expr} {span:Span} (h:Reads x e) : Reads x (.cast t e span)
 | sizeof {e:Expr} {span:Span} (h:Reads x e) : Reads x (.sizeofExpr e span)
 | first {l r:Expr} {span:Span} (h:Reads x l) : Reads x (.comma l r span)
 | second {l r:Expr} {span:Span} (h:Reads x r) : Reads x (.comma l r span)

inductive Initializer.Reads (x:String) : Initializer → Prop
 | expr {e:Expr} (h:e.Reads x) : Reads x (.expr e)
 | item {i:Initializer} {items:List Initializer} {span:Span} (hmem:i ∈ items)
    (h:Reads x i) : Reads x (.list items span)

section Turning

variable {M:String → NameUse → Prop} {P Q:Assertion M}

def Turns (P Q:Assertion M) (x:Check α) : Prop :=
 ∀ c, P.holds c → Ensures x c fun _ c' => Q.holds c'

lemma Turns.later {x:Check α} {k:α → Check β} (hx:P.Kept x)
  (hk:∀ a, Turns P Q (k a)) : Turns P Q (x >>= k) :=
 fun _ hc => ensures_bind fun a c' hrun => hk a c' (hx.of_ok hc hrun)

lemma Turns.bind {x:Check α} {k:α → Check β} (hx:Turns P Q x)
  (hk:∀ a, Q.Kept (k a)) : Turns P Q (x >>= k) :=
 fun c hc => ensures_bind fun a c' hrun _ _ => (hk a).of_ok (hx c hc a c' hrun)

lemma Turns.fail (cause:Cause) (span:Span) : Turns P Q (fail cause span:Check α) :=
 fun _ _ => ensures_fail cause span

lemma Turns.value {x:Check CType} (hx:Turns P Q x) : Turns P Q (value x) :=
 hx.bind fun _ => .pure _

/-! A rule that begins with a check of its operand turns with it. What comes after is the rule for
an operand of known type. -/

lemma Turns.convert {x:Check CType} (hx:Turns P Q x) (target:CType) (e:Expr)
  (hu:Q.Kept u) : Turns P Q (convert target e x u) := by
 have hrun:Check.convert target e x u = x >>= fun t => Check.convert target e (pure t) u := by
  simp only [Check.convert,Check.value,bind_assoc,pure_bind]
 rw [hrun]
 exact hx.bind fun t => .convert target e (.pure t) hu

lemma Turns.condition {x:Check CType} (hx:Turns P Q x) (e:Expr) :
  Turns P Q (condition e x) := by
 have hrun:Check.condition e x = x >>= fun t => Check.condition e (pure t) := by
  simp only [Check.condition,Check.value,bind_assoc,pure_bind]
 rw [hrun]
 exact hx.bind fun t => .condition e (.pure t)

lemma Turns.argument {x:Check CType} (hx:Turns P Q x) (name:String) (index:Nat)
  (param:Option CType) (e:Expr) (hu:Q.Kept u) :
  Turns P Q (argument name index param e x u) := by
 have hrun:Check.argument name index param e x u =
   x >>= fun t => Check.argument name index param e (pure t) u := by
  simp only [Check.argument,Check.value,bind_assoc,pure_bind]
 rw [hrun]
 exact hx.bind fun t => .argument name index param e (.pure t) hu

lemma Turns.modifiable {x:Check CType} (hx:Turns P Q x) (e:Expr) :
  Turns P Q (modifiable e x) := by
 have hrun:Check.modifiable e x = x >>= fun t => Check.modifiable e (pure t) := by
  simp only [Check.modifiable,pure_bind]
 rw [hrun]
 exact hx.bind fun t => .modifiable e (.pure t)

lemma keeps_binary (op:BinOp) {l r:Expr} (hl:Allows M l.mentions) (hr:Allows M r.mentions)
  (a b:CType) (span:Span) : Q.Kept (do
   if op.takesNull then
    let aIsNull ← isNull l a (evalConst l)
    let bIsNull ← isNull r b (evalConst r)
    binaryType op a b aIsNull bIsNull span
   else binaryType op a b false false span) := by
 split
 · refine .bind (.isNull l a (.evalConst hl)) fun m => ?_
   refine .bind (.isNull r b (.evalConst hr)) fun n => ?_
   exact .of (.binaryType op a b m n span False.elim)
 · exact .of (.binaryType op a b false false span False.elim)

lemma keeps_conditional {yes no:Expr} (hy:Allows M yes.mentions) (hn:Allows M no.mentions)
  (a b:CType) : Q.Kept (do
   let aIsNull ← isNull yes a (evalConst yes)
   let bIsNull ← isNull no b (evalConst no)
   conditionalType a b aIsNull bIsNull no.span) := by
 refine .bind (.isNull yes a (.evalConst hy)) fun m => ?_
 refine .bind (.isNull no b (.evalConst hn)) fun n => ?_
 exact .of (.conditionalType a b m n no.span False.elim)

lemma turns_checkArgs (he:Allows M e.mentions → Turns P Q (checkExpr e))
  {es:List Expr} (hmem:e ∈ es) (hallows:Allows M (Expr.mentionsAll es)) (name:String)
  (index:Nat) (params:List CType) : Turns P Q (checkArgs name index params es) := by
 induction es generalizing index params with
 | nil => cases hmem
 | cons a es ih =>
  obtain ⟨ha,hes⟩:=allows_append.mp hallows
  rcases List.mem_cons.mp hmem with rfl | hmem
  · refine ((he ha).argument name index params.head? _ (.evalConst ha)).bind ?_
    exact fun _ => .checkArgs name (index + 1) params.tail hes
  · exact .later (.argument name index params.head? a (.checkExpr ha) (.evalConst ha)) fun _ =>
     ih hmem hes (index + 1) params.tail

structure Met (P Q:Assertion M) (x:String) : Prop where
 ident : ∀ i : Ident, i.name = x → Turns P Q (checkExpr (.ident i))
 callee : ∀ (i:Ident) (span:Span), i.name = x →
  Turns P Q (calleeType (.ident i) (checkExpr (.ident i)) span)

lemma Met.turns {x:String} (hmet:Met P Q x) (h:e.Reads x)
  (hallows:Allows M e.mentions) : Turns P Q (checkExpr e) := by
 induction h with
 | ident hi => exact hmet.ident _ hi
 | @left op l r span _ ih =>
  obtain ⟨hl,hr⟩:=allows_append.mp hallows
  exact (ih hl).value.bind fun a =>
   .bind (.rvalue hr) fun b =>
    keeps_binary op hl hr a b span
 | @right op l r span _ ih =>
  obtain ⟨hl,hr⟩:=allows_append.mp hallows
  exact .later (.rvalue hl) fun a =>
   (ih hr).value.bind fun b => keeps_binary op hl hr a b span
 | @unary op e span _ ih =>
  have he:Allows M e.mentions:=hallows
  rw [checkExpr]
  split
  · exact (ih he).bind fun t => .of (.addressType (fun _ _ => trivial) t False.elim)
  · split
    · exact ((ih he).modifiable _).bind fun t => .of (.unaryType op t span False.elim)
    · exact (ih he).value.bind fun t => .of (.unaryType op t span False.elim)
 | @target op e v span _ hcompound ih =>
  obtain ⟨he,hv⟩:=allows_append.mp hallows
  rw [checkExpr]
  split
  · rename_i hnone
    rw [hnone] at hcompound
    cases hcompound
  · exact ((ih he).modifiable _).bind fun t =>
     .bind (.rvalue hv) fun u =>
      .of (.compound _ t u span False.elim)
 | @stored op e v span _ ih =>
  obtain ⟨he,hv⟩:=allows_append.mp hallows
  rw [checkExpr]
  split
  · refine .later (.modifiable e (.storeType he)) fun t => ?_
    exact ((ih hv).convert t _ (.evalConst hv)).bind fun _ =>
     .pure _
  · exact .later (.modifiable e (.checkExpr he)) fun t =>
     (ih hv).value.bind fun u => .of (.compound _ t u span False.elim)
 | @test e yes no span _ ih =>
  obtain ⟨he,hboth⟩:=allows_append.mp hallows
  obtain ⟨hy,hn⟩:=allows_append.mp hboth
  exact ((ih he).condition e).bind fun _ =>
   .bind (.rvalue hy) fun a =>
    .bind (.rvalue hn) fun b => keeps_conditional hy hn a b
 | @yes e yes no span _ ih =>
  obtain ⟨he,hboth⟩:=allows_append.mp hallows
  obtain ⟨hy,hn⟩:=allows_append.mp hboth
  exact .later (.condition e (.checkExpr he)) fun _ =>
   (ih hy).value.bind fun a =>
    .bind (.rvalue hn) fun b => keeps_conditional hy hn a b
 | @no e yes no span _ ih =>
  obtain ⟨he,hboth⟩:=allows_append.mp hallows
  obtain ⟨hy,hn⟩:=allows_append.mp hboth
  exact .later (.condition e (.checkExpr he)) fun _ =>
   .later (.rvalue hy) fun a =>
    (ih hn).value.bind fun b => keeps_conditional hy hn a b
 | @callee f args span h ih =>
  obtain ⟨hf,hargs⟩:=allows_append.mp hallows
  have hcallee:Turns P Q (calleeType f (checkExpr f) span) := by
   cases f with
   | ident i =>
    cases h with
    | ident hi => exact hmet.callee i span hi
   | _ => exact (ih hf).value
  refine hcallee.bind fun t => .bind (.of (.signature f t False.elim)) fun g => ?_
  exact .bind (.of (.argumentCount _ g _ span)) fun _ =>
   .bind (.checkArgs _ 1 (comparedParams g) hargs) fun _ => .pure _
 | @argument f e args span hmem _ ih =>
  obtain ⟨hf,hargs⟩:=allows_append.mp hallows
  refine .later (.calleeType hf span) fun t => ?_
  refine .later (.of (.signature f t False.elim)) fun g => ?_
  refine .later (.of (.argumentCount _ g _ span)) fun _ => ?_
  exact (turns_checkArgs ih hmem hargs _ 1 (comparedParams g)).bind fun _ =>
   .pure _
 | @base b i span _ ih =>
  obtain ⟨hb,hi⟩:=allows_append.mp hallows
  exact (ih hb).value.bind fun a =>
   .bind (.rvalue hi) fun u =>
    .of (.elementType b a u span False.elim)
 | @index b i span _ ih =>
  obtain ⟨hb,hi⟩:=allows_append.mp hallows
  exact .later (.rvalue hb) fun a =>
   (ih hi).value.bind fun u => .of (.elementType b a u span False.elim)
 | @member b m arrow span _ ih =>
  have hb:Allows M b.mentions:=hallows
  rw [checkExpr]
  split
  · exact (ih hb).value.bind fun t =>
     .bind (.of (.arrowTarget t span False.elim)) fun u => .of (.memberType u m span)
  · exact (ih hb).bind fun t => .of (.memberType t m span)
 | @cast t e span _ ih =>
  obtain ⟨ht,he⟩:=allows_append.mp hallows
  exact .later (.resolveType ht) fun target =>
   (ih he).value.bind fun source => .of (.castType source target span False.elim)
 | @sizeof e span _ ih =>
  exact (ih hallows).bind fun t => .bind (.of (.sizeOf t span)) fun _ => .pure _
 | @first l r span _ ih =>
  obtain ⟨hl,hr⟩:=allows_append.mp hallows
  exact (ih hl).bind fun _ => .rvalue hr
 | @second l r span _ ih =>
  obtain ⟨hl,hr⟩:=allows_append.mp hallows
  exact .later (.checkExpr hl) fun _ => (ih hr).value

lemma turns_checkItems
  (hi:∀ t, Allows M i.mentions → Turns P Q (checkInitializer t i)) (elem:CType)
  (hmem:i ∈ is) (hallows:Allows M (Initializer.mentionsAll is)) :
  Turns P Q (checkItems elem is) := by
 induction is with
 | nil => cases hmem
 | cons a is ih =>
  obtain ⟨ha,his⟩:=allows_append.mp hallows
  rcases List.mem_cons.mp hmem with rfl | hmem
  · exact (hi elem ha).bind fun _ => .checkItems elem his
  · exact .later (.checkInitializer elem ha) fun _ => ih hmem his

lemma turns_checkFields
  (hi:∀ t, Allows M i.mentions → Turns P Q (checkInitializer t i)) {types:List CType}
  (hmem:i ∈ is) (hallows:Allows M (Initializer.mentionsAll is))
  (hlength:is.length ≤ types.length) : Turns P Q (checkFields types is) := by
 induction is generalizing types with
 | nil => cases hmem
 | cons a is ih =>
  obtain ⟨ha,his⟩:=allows_append.mp hallows
  cases types with
  | nil => cases hlength
  | cons t ts =>
   rcases List.mem_cons.mp hmem with rfl | hmem
   · exact (hi t ha).bind fun _ => .checkFields ts his
   · exact .later (.checkInitializer t ha) fun _ =>
      ih hmem his (Nat.le_of_succ_le_succ hlength)

lemma Turns.atMost {items limit:Nat} {what:String} {k:Check α}
  (hk:items ≤ limit → Turns P Q k) :
  Turns P Q (atMost items limit what span >>= fun _ => k) := by
 unfold Check.atMost
 split
 · exact fun c _ => ensures_bind fun _ _ h => nomatch h
 · exact .later (.pure _) fun _ => hk (Nat.le_of_not_lt ‹_›)

lemma bracedString?_reads {x:String} {elem:CType} {items:List Initializer}
  {p:String × Span} (h:bracedString? elem items = some p)
  (hmem:i ∈ items) : ¬i.Reads x := by
 unfold bracedString? at h
 split at h
 · rw [List.mem_singleton.mp hmem]
   rintro (⟨⟨⟩⟩ | _)
 · cases h

lemma Met.turns_plain {x:String} (hmet:Met P Q x) (h:e.Reads x)
  (hallows:Allows M e.mentions) (t:CType) : Turns P Q (plainInitializer t e) := by
 unfold plainInitializer
 split
 · split
   · cases h
   · exact .fail _ _
 · exact ((hmet.turns h hallows).convert t e (.evalConst hallows)).bind
    fun _ => .pure _

lemma Met.turns_initializer {x:String} (hmet:Met P Q x) (h:i.Reads x)
  (hallows:Allows M i.mentions) (t:CType) : Turns P Q (checkInitializer t i) := by
 induction h generalizing t with
 | @expr e h =>
  rw [checkInitializer]
  split
  · exact .fail _ _
  · exact hmet.turns_plain h hallows t
 | @item i items span hmem h ih =>
  have hitem:∀ t, Allows M i.mentions → Turns P Q (checkInitializer t i):=
   fun t hi => ih hi t
  unfold checkInitializer
  split
  · exact .fail _ _
  · split
    · rename_i elem length _ _
      split
      · exact absurd h (bracedString?_reads ‹_› hmem)
      · have hitems:Turns P Q (do
          checkItems elem items
          return withLength t elem length items.length) :=
         (turns_checkItems hitem elem hmem hallows).bind fun _ => .pure _
        cases length with
        | none => exact hitems
        | some n => exact .atMost fun _ => hitems
    · refine .later (.of (.recordParts t _ span)) fun p => .atMost fun hlength => ?_
      exact (turns_checkFields hitem hmem hallows hlength).bind fun _ => .pure _
    · cases items with
      | nil => cases hmem
      | cons item rest =>
       cases rest with
       | nil =>
        cases List.mem_singleton.mp hmem
        exact hitem t (allows_append.mp hallows).1
       | cons _ _ => exact .fail _ _

end Turning

/-! ### Names that are declared or unknown -/

def never (x:String) : Assertion (Spares x) :=
 .ofSymbols (fun _ => False) (fun h _ => h) (fun h _ _ => h) (fun h _ => h)

lemma identType_unknown {i:Ident} (h:c.symbols.lookup? i.name = none)
  (hlibrary:LibraryFunction.find? i.name = none) :
  identType i c = .error ⟨.undefinedIdent i.name,i.span⟩ c := by
 have hlookup:lookup? i.name c = .ok none c := by
  rw [← h]
  rfl
 unfold identType
 rw [bind_ok hlookup]
 dsimp only
 rw [hlibrary]
 rfl

lemma libraryCallee?_none {i:Ident}
  (h:(c.symbols.lookup? i.name).isSome = true ∨ LibraryFunction.find? i.name = none) :
  libraryCallee? (.ident i) c = .ok none c := by
 have hlookup:lookup? i.name c = .ok (c.symbols.lookup? i.name) c:=rfl
 unfold libraryCallee?
 dsimp only
 rw [bind_ok hlookup]
 cases hsome : c.symbols.lookup? i.name with
 | some z => rfl
 | none =>
  rw [hsome] at h
  dsimp only
  rw [h.resolve_left nofun]
  rfl

lemma Met.of_ident {M:String → NameUse → Prop} {P Q:Assertion M} {x:String}
  (hident:∀ i : Ident, i.name = x → Turns P Q (checkExpr (.ident i)))
  (hlibrary:∀ c, P.holds c → (c.symbols.lookup? x).isSome = true ∨
   LibraryFunction.find? x = none) : Met P Q x where
 ident := hident
 callee := by
  rintro i span rfl c hc t c' hrun
  rw [calleeType,bind_ok (libraryCallee?_none (hlibrary c hc))] at hrun
  exact (hident i rfl).value c hc t c' hrun

lemma met_invisible {x:String} (hlibrary:LibraryFunction.find? x = none) :
  Met (invisible x) (never x) x := by
 refine .of_ident ?_ fun _ _ => .inr hlibrary
 rintro i rfl c hc
 refine ensures_bind fun t c' hrun => ?_
 rw [identType_unknown hc hlibrary] at hrun
 cases hrun

lemma turns_markUsed (x:String) : Turns (declared x) (used x) (markUsed x) := by
 intro c hc _ c' hrun
 cases hrun
 refine ⟨(c.symbols.isSome_lookupLocal?_markUsed x x).trans hc,?_⟩
 change ∀ z ∈ (c.symbols.markUsed x).current.symbols, _
 rw [SymbolTable.symbols_markUsed]
 refine List.forall_mem_map.mpr fun z _ => ?_
 split
 · exact fun _ => rfl
 · rename_i hne
   exact fun heq => absurd (beq_iff_eq.mpr heq) hne

lemma met_declared (x:String) : Met (declared x) (used x) x := by
 refine .of_ident ?_ fun c hc => .inl ?_
 · rintro i rfl
   refine .later (.of ((declared i.name).names.identType trivial)) fun t => ?_
   exact (turns_markUsed i.name).bind fun _ => .pure _
 · obtain ⟨z,hz⟩:=Option.isSome_iff_exists.mp hc
   unfold SymbolTable.lookup? SymbolTable.scopes
   rw [List.findSome?_cons,show c.symbols.current.find? x = some z from hz]
   rfl

end CCheck
