import CCheck.Proofs.Naming.Declares

/-! # Type names along a walk

A walk goes through a type in the order in which its parts are resolved, past type names, which must
denote types, and enumerators, which hide them. A body is walked through once. -/

set_option autoImplicit false

namespace CCheck

variable {ds:List Declaration} {es:List Enumerator} {n:TypeNames} {spec:EnumSpec} {t:TypeExpr}
 {x:String}

/-- What is known at a place: the names that denote types, and the records and enumerations whose
bodies have been met, by the offsets of their specifiers. -/
structure Sight where
 types : String → Prop
 records : List Nat
 enums : List Nat
 /-- At file scope all names are of one scope, where the name of a type cannot be taken. -/
 atFile : Bool

namespace Sight

def hide (σ:Sight) (name:String) : Sight :=
 { σ with types := fun x => (σ.atFile = true ∨ x ≠ name) ∧ σ.types x }

def reveal (σ:Sight) (name:String) : Sight :=
 { σ with types := fun x => x = name ∨ σ.types x }

def declare (σ:Sight) (p:String × Bool) : Sight :=
 if p.2 = true then σ.reveal p.1 else σ.hide p.1

def Sees (σ:Sight) (n:TypeNames) : Prop := ∀ x, n.isType x = true → σ.types x

def Covers (σ:Sight) (ms:List Mention) : Prop := ∀ m ∈ ms, m.use = .type → σ.types m.name

structure Within (σ τ:Sight) : Prop where
 records : σ.records ⊆ τ.records
 enums : σ.enums ⊆ τ.enums
 atFile : τ.atFile = σ.atFile

lemma Within.refl (σ:Sight) : σ.Within σ := ⟨fun _ h => h,fun _ h => h,rfl⟩

lemma Within.trans {σ τ υ:Sight} (h:σ.Within τ) (h':τ.Within υ) : σ.Within υ :=
 ⟨fun _ hx => h'.records (h.records hx),fun _ hx => h'.enums (h.enums hx),
  h'.atFile.trans h.atFile⟩

variable {σ:Sight} {top:NameScope} {below:List NameScope} {ms ms':List Mention}

lemma Sees.covers (h:σ.Sees n) (hms:TypesIn n ms) : σ.Covers ms :=
 fun m hm htype => h m.name (hms m hm htype)

lemma Sees.hide (h:σ.Sees ⟨top :: below⟩) (name:String) :
  (σ.hide name).Sees ⟨((name,false) :: top) :: below⟩ := by
 intro x hx
 rw [TypeNames.isType_declared] at hx
 split at hx
 · cases hx
 · exact ⟨.inr ‹_›,h x hx⟩

lemma Sees.reveal (h:σ.Sees ⟨top :: below⟩) (name:String) :
  (σ.reveal name).Sees ⟨((name,true) :: top) :: below⟩ := by
 intro x hx
 rw [TypeNames.isType_declared] at hx
 split at hx
 · exact Or.inl ‹_›
 · exact Or.inr (h x hx)

lemma Sees.declare (h:σ.Sees ⟨top :: below⟩) (p:String × Bool) :
  (σ.declare p).Sees ⟨(p :: top) :: below⟩ := by
 obtain ⟨name,isType⟩:=p
 cases isType with
 | true => exact h.reveal name
 | false => exact h.hide name

lemma within_declare (σ:Sight) (p:String × Bool) : σ.Within (σ.declare p) := by
 unfold Sight.declare
 split
 · exact ⟨fun _ h => h,fun _ h => h,rfl⟩
 · exact ⟨fun _ h => h,fun _ h => h,rfl⟩

lemma types_declare (h:σ.types x) (p:String × Bool) :
  (σ.declare p).types x ∨ σ.atFile = false ∧ p = (x,false) := by
 obtain ⟨name,isType⟩:=p
 cases isType with
 | true => exact .inl (Or.inr h)
 | false =>
  by_cases hname : x = name
  · cases hfile : σ.atFile with
    | true => exact .inl ⟨.inl hfile,h⟩
    | false => exact .inr ⟨rfl,by rw [hname]⟩
  · exact .inl ⟨.inr hname,h⟩

lemma Sees.openScope (h:σ.Sees n) : σ.Sees n.openScope := by
 intro x hx
 rw [TypeNames.isType_openScope] at hx
 exact h x hx

lemma Sees.extend (h:σ.Sees ⟨top :: below⟩) {d:NameScope} (hd:TypeNames.Hides d) :
  σ.Sees ⟨(d ++ top) :: below⟩ :=
 fun x hx => h x (hd.isType hx)

lemma Covers.subset (h:σ.Covers ms) (hms:∀ m ∈ ms', m ∈ ms) : σ.Covers ms' :=
 fun m hm => h m (hms m hm)

lemma covers_toExpr : σ.Covers (ms.map .toExpr) ↔ σ.Covers ms := by
 simp only [Covers,List.forall_mem_map]
 rfl

lemma covers_toParams : σ.Covers (ms.map .toParams) ↔ σ.Covers ms := by
 simp only [Covers,List.forall_mem_map]
 rfl

end Sight

open Sight

/-! ### Walks through types -/

/-- A walk through the enumerators of an enumeration, the value of each before its name. -/
inductive Enumerator.WalkAll : Sight → List Enumerator → Sight → Prop
 | nil {σ:Sight} : WalkAll σ [] σ
 | cons {σ τ:Sight} {name:Ident} {value:Option Expr} {span:Span} {es:List Enumerator}
    (types:∀ e ∈ value, σ.Covers e.mentions) (rest:WalkAll (σ.hide name.name) es τ) :
    WalkAll σ (⟨name,value,span⟩ :: es) τ

inductive EnumSpec.Walk : Sight → EnumSpec → Sight → Prop
 | reference {σ:Sight} {tag:Option Ident} {span:Span} : Walk σ ⟨tag,none,span⟩ σ
 | known {σ:Sight} {tag:Option Ident} {es:List Enumerator} {span:Span}
    (h:span.start ∈ σ.enums) : Walk σ ⟨tag,some es,span⟩ σ
 | body {σ τ:Sight} {tag:Option Ident} {es:List Enumerator} {span:Span}
    (h:Enumerator.WalkAll { σ with enums := span.start :: σ.enums } es τ) :
    Walk σ ⟨tag,some es,span⟩ τ

mutual

inductive TypeExpr.Walk : Sight → TypeExpr → Sight → Prop
 | base {σ:Sight} {b:BaseType} {q:Qualifiers} {s:Span} : TypeExpr.Walk σ ⟨.base b,q,s⟩ σ
 | named {σ:Sight} {name:String} {q:Qualifiers} {s:Span} (h:σ.types name) :
    TypeExpr.Walk σ ⟨.named name,q,s⟩ σ
 | record {σ τ:Sight} {spec:RecordSpec} {q:Qualifiers} {s:Span}
    (h:RecordSpec.Walk σ spec τ) : TypeExpr.Walk σ ⟨.record spec,q,s⟩ τ
 | enum {σ τ:Sight} {spec:EnumSpec} {q:Qualifiers} {s:Span}
    (h:EnumSpec.Walk σ spec τ) : TypeExpr.Walk σ ⟨.enum spec,q,s⟩ τ
 | pointer {σ τ:Sight} {t:TypeExpr} {q:Qualifiers} {s:Span} (h:TypeExpr.Walk σ t τ) :
    TypeExpr.Walk σ ⟨.pointer t,q,s⟩ τ
 | array {σ τ:Sight} {t:TypeExpr} {size:Option Expr} {vla:Bool} {q:Qualifiers}
    {s:Span} (h:TypeExpr.Walk σ t τ) (types:∀ e ∈ size, τ.Covers e.mentions) :
    TypeExpr.Walk σ ⟨.array t size vla,q,s⟩ τ
 | function {σ τ:Sight} {t:TypeExpr} {params:List Param} {variadic prototyped:Bool}
    {q:Qualifiers} {s:Span} (h:TypeExpr.Walk σ t τ)
    (types:τ.Covers (Param.mentionsAll params)) :
    TypeExpr.Walk σ ⟨.function t params variadic prototyped,q,s⟩ τ

/-- Only the specifier itself is known after its body: those inside it were met on the way. -/
inductive RecordSpec.Walk : Sight → RecordSpec → Sight → Prop
 | reference {σ:Sight} {kind:RecordKind} {tag:Option Ident} {span:Span} :
    RecordSpec.Walk σ ⟨kind,tag,none,span⟩ σ
 | known {σ:Sight} {kind:RecordKind} {tag:Option Ident} {ms:List Member} {span:Span}
    (h:span.start ∈ σ.records) : RecordSpec.Walk σ ⟨kind,tag,some ms,span⟩ σ
 | body {σ τ:Sight} {kind:RecordKind} {tag:Option Ident} {ms:List Member} {span:Span}
    (h:Member.WalkAll { σ with records := span.start :: σ.records } ms τ) :
    RecordSpec.Walk σ ⟨kind,tag,some ms,span⟩
     { σ with types := τ.types,records := span.start :: σ.records }

inductive Member.WalkAll : Sight → List Member → Sight → Prop
 | nil {σ:Sight} : Member.WalkAll σ [] σ
 | cons {σ τ υ:Sight} {name:Ident} {t:TypeExpr} {span:Span} {ms:List Member}
    (h:TypeExpr.Walk σ t τ) (rest:Member.WalkAll τ ms υ) :
    Member.WalkAll σ (⟨name,t,span⟩ :: ms) υ

end

variable {σ τ υ:Sight}

lemma Enumerator.WalkAll.append {es':List Enumerator} (h:Enumerator.WalkAll σ es τ)
  (h':Enumerator.WalkAll τ es' υ) : Enumerator.WalkAll σ (es ++ es') υ := by
 induction h with
 | nil => exact h'
 | cons types _ ih => exact .cons types (ih h')

lemma Enumerator.WalkAll.bodies (h:Enumerator.WalkAll σ es τ) :
  τ.records = σ.records ∧ τ.enums = σ.enums := by
 induction h with
 | nil => exact ⟨rfl,rfl⟩
 | cons _ _ ih => exact ih

lemma Enumerator.WalkAll.within (h:Enumerator.WalkAll σ es τ) :
  σ.Within τ := by
 induction h with
 | nil => exact .refl _
 | cons _ _ ih => exact ⟨ih.records,ih.enums,ih.atFile⟩

lemma Member.WalkAll.append {ms ms':List Member} (h:Member.WalkAll σ ms τ)
  (h':Member.WalkAll τ ms' υ) : Member.WalkAll σ (ms ++ ms') υ := by
 induction ms generalizing σ with
 | nil =>
  cases h
  exact h'
 | cons m ms ih =>
  cases h with
  | cons ht hrest => exact .cons ht (ih hrest)

lemma EnumSpec.Walk.within (h:spec.Walk σ τ) : σ.Within τ := by
 cases h with
 | reference => exact .refl _
 | known => exact .refl _
 | body h =>
  exact ⟨h.within.records,fun x hx => h.within.enums (List.mem_cons_of_mem _ hx),
   h.within.atFile⟩

lemma RecordSpec.Walk.within {spec:RecordSpec} (h:spec.Walk σ τ) : σ.Within τ := by
 cases h with
 | reference => exact .refl _
 | known => exact .refl _
 | body => exact ⟨fun x hx => List.mem_cons_of_mem _ hx,fun x hx => hx,rfl⟩

lemma TypeExpr.Walk.within : ∀ {t:TypeExpr} {σ τ:Sight}, t.Walk σ τ → σ.Within τ
 | ⟨.base _,_,_⟩, σ, τ, h => by
  cases h
  exact .refl _
 | ⟨.named _,_,_⟩, σ, τ, h => by
  cases h
  exact .refl _
 | ⟨.record spec,_,_⟩, σ, τ, h => by
  cases h with
  | record h => exact h.within
 | ⟨.enum spec,_,_⟩, σ, τ, h => by
  cases h with
  | enum h => exact h.within
 | ⟨.pointer t,_,_⟩, σ, τ, h => by
  cases h with
  | pointer h => exact TypeExpr.Walk.within h
 | ⟨.array t _ _,_,_⟩, σ, τ, h => by
  cases h with
  | array h _ => exact TypeExpr.Walk.within h
 | ⟨.function t _ _ _,_,_⟩, σ, τ, h => by
  cases h with
  | function h _ => exact TypeExpr.Walk.within h

lemma Member.WalkAll.within {ms:List Member} (h:Member.WalkAll σ ms τ) : σ.Within τ := by
 induction ms generalizing σ with
 | nil =>
  cases h
  exact .refl _
 | cons m ms ih =>
  cases h with
  | cons ht hrest => exact ht.within.trans (ih hrest)

/-! No type becomes known inside a type. -/

lemma Enumerator.WalkAll.types (h:Enumerator.WalkAll σ es τ)
  (hx:τ.types x) : σ.types x := by
 induction h with
 | nil => exact hx
 | cons _ _ ih => exact (ih hx).2

lemma EnumSpec.Walk.types (h:spec.Walk σ τ)
  (hx:τ.types x) : σ.types x := by
 cases h with
 | reference => exact hx
 | known _ => exact hx
 | body h => exact h.types hx

mutual

lemma TypeExpr.Walk.types : ∀ {t:TypeExpr} {σ τ:Sight}, t.Walk σ τ → ∀ {x:String},
  τ.types x → σ.types x
 | ⟨.base _,_,_⟩, _, _, h, _, hx => by
  cases h
  exact hx
 | ⟨.named _,_,_⟩, _, _, h, _, hx => by
  cases h
  exact hx
 | ⟨.record spec,_,_⟩, _, _, h, _, hx => by
  cases h with
  | record h => exact RecordSpec.Walk.types h hx
 | ⟨.enum spec,_,_⟩, _, _, h, _, hx => by
  cases h with
  | enum h => exact h.types hx
 | ⟨.pointer t,_,_⟩, _, _, h, _, hx => by
  cases h with
  | pointer h => exact TypeExpr.Walk.types h hx
 | ⟨.array t _ _,_,_⟩, _, _, h, _, hx => by
  cases h with
  | array h _ => exact TypeExpr.Walk.types h hx
 | ⟨.function t _ _ _,_,_⟩, _, _, h, _, hx => by
  cases h with
  | function h _ => exact TypeExpr.Walk.types h hx
termination_by structural t => t

lemma RecordSpec.Walk.types : ∀ {spec:RecordSpec} {σ τ:Sight}, spec.Walk σ τ →
  ∀ {x:String}, τ.types x → σ.types x
 | ⟨_,_,none,_⟩, _, _, h, _, hx => by
  cases h
  exact hx
 | ⟨_,_,some ms,_⟩, _, _, h, _, hx => by
  cases h with
  | known _ => exact hx
  | body h => exact Member.WalkAll.types h hx

lemma Member.WalkAll.types : ∀ {ms:List Member} {σ τ:Sight}, Member.WalkAll σ ms τ →
  ∀ {x:String}, τ.types x → σ.types x
 | [], _, _, h, _, hx => by
  cases h
  exact hx
 | ⟨_,t,_⟩ :: ms, _, _, h, _, hx => by
  cases h with
  | cons ht hrest => exact TypeExpr.Walk.types ht (Member.WalkAll.types hrest hx)

end

lemma TypeExpr.Walk.addSuffix (h:t.Walk σ τ) {s:Suffix}
  (types:τ.Covers s.mentions) : (t.addSuffix s).Walk σ τ := by
 cases s with
 | array size vla span =>
  refine .array h fun e he => ?_
  rw [he] at types
  exact covers_toExpr.mp types
 | function params variadic prototyped span => exact .function h (covers_toParams.mp types)

lemma TypeExpr.Walk.wrap (h:t.Walk σ τ) (pointers:List (Qualifiers × Span))
  {suffixes:List Suffix} (types:τ.Covers (suffixes.flatMap Suffix.mentions)) :
  TypeExpr.Walk σ (suffixes.foldr (fun s t => t.addSuffix s)
   (pointers.foldl (fun t p => t.addPointer p.1 p.2) t)) τ := by
 induction suffixes with
 | nil =>
  clear types
  induction pointers generalizing t with
  | nil => exact h
  | cons p ps ih => exact ih (.pointer h)
 | cons s ss ih =>
  rw [List.flatMap_cons] at types
  exact (ih (types.subset fun m hm => List.mem_append_right _ hm)).addSuffix
   (types.subset fun m hm => List.mem_append_left _ hm)

lemma TypeExpr.Walk.apply : ∀ {d:Declarator} {t:TypeExpr}, t.Walk σ τ →
  τ.Covers d.mentions → TypeExpr.Walk σ (d.apply t).2 τ
 | ⟨name,pointers,suffixes,none⟩, t, h, types => by
  simp only [Declarator.mentions] at types
  simp only [Declarator.apply]
  exact h.wrap pointers types
 | ⟨name,pointers,suffixes,some inner⟩, t, h, types => by
  simp only [Declarator.mentions] at types
  simp only [Declarator.apply]
  exact TypeExpr.Walk.apply
   (h.wrap pointers (types.subset fun m hm => List.mem_append_right _ hm))
   (types.subset fun m hm => List.mem_append_left _ hm)

def TypeForm.IsSpecifier : TypeForm → Prop
 | .base _ | .record _ | .enum _ | .named _ => True
 | _ => False

/-- Specifiers that have been walked through can be walked through again, as long as a type name
that they consist of is not hidden. Nothing new is met. -/
lemma TypeExpr.Walk.again (h:t.Walk σ τ) (hspec:t.form.IsSpecifier)
  (hwithin:τ.Within υ) (htypes:∀ x ∈ t.baseName?, υ.types x) : t.Walk υ υ := by
 cases h with
 | base => exact .base
 | named _ => exact .named (htypes _ rfl)
 | record h =>
  cases h with
  | reference => exact .record .reference
  | known h => exact .record (.known (hwithin.records h))
  | body _ => exact .record (.known (hwithin.records List.mem_cons_self))
 | enum h =>
  cases h with
  | reference => exact .enum .reference
  | known h => exact .enum (.known (hwithin.enums h))
  | body h => exact .enum (.known (hwithin.enums (h.within.enums List.mem_cons_self)))
 | pointer => exact hspec.elim
 | array => exact hspec.elim
 | function => exact hspec.elim

lemma TypeExpr.Walk.baseName (h:t.Walk σ τ) (hspec:t.form.IsSpecifier)
  (hx:t.baseName? = some x) : σ = τ ∧ τ.types x := by
 cases h with
 | named h =>
  cases hx
  exact ⟨rfl,h⟩
 | pointer => exact hspec.elim
 | array => exact hspec.elim
 | function => exact hspec.elim
 | _ => cases hx

/-! ### Walks through declarations and statements -/

inductive Declaration.Walk : Sight → Declaration → Sight → Prop
 | var {σ τ:Sight} {d:VarDecl} (h:d.type.Walk σ τ)
    (types:∀ i ∈ d.init, τ.Covers i.mentions) : Walk σ (.var d) (τ.hide d.name.name)
 | func {σ τ:Sight} {d:FunctionDecl} (h:d.type.Walk σ τ) :
    Walk σ (.func d) (τ.hide d.name.name)
 | typedef {σ τ:Sight} {d:TypedefDecl} (h:d.type.Walk σ τ) :
    Walk σ (.typedef d) (τ.reveal d.name.name)
 | record {σ τ:Sight} {spec:RecordSpec} (h:spec.Walk σ τ) : Walk σ (.record spec) τ
 | enum {σ τ:Sight} {spec:EnumSpec} (h:spec.Walk σ τ) : Walk σ (.enum spec) τ

inductive Declaration.WalkAll : Sight → List Declaration → Sight → Prop
 | nil {σ:Sight} : WalkAll σ [] σ
 | cons {σ τ υ:Sight} {d:Declaration} {ds:List Declaration} (h:d.Walk σ τ)
    (rest:WalkAll τ ds υ) : WalkAll σ (d :: ds) υ

lemma Declaration.WalkAll.append {ds':List Declaration} (h:Declaration.WalkAll σ ds τ)
  (h':Declaration.WalkAll τ ds' υ) : Declaration.WalkAll σ (ds ++ ds') υ := by
 induction h with
 | nil => exact h'
 | cons h _ ih => exact .cons h (ih h')

lemma Declaration.Walk.within {d:Declaration} (h:d.Walk σ τ) : σ.Within τ := by
 cases h with
 | var h _ => exact h.within.trans (within_declare _ (_,false))
 | func h => exact h.within.trans (within_declare _ (_,false))
 | typedef h => exact h.within.trans (within_declare _ (_,true))
 | record h => exact h.within
 | enum h => exact h.within

lemma Declaration.WalkAll.within (h:Declaration.WalkAll σ ds τ) :
  σ.Within τ := by
 induction h with
 | nil => exact .refl _
 | cons h _ ih => exact h.within.trans ih

inductive ForInit.Walk : Sight → Option ForInit → Sight → Prop
 | none {σ:Sight} : Walk σ none σ
 | decls {σ τ:Sight} {ds:List Declaration} (h:Declaration.WalkAll σ ds τ) :
    Walk σ (some (.decls ds)) τ
 | expr {σ:Sight} {e:Expr} (types:σ.Covers e.mentions) : Walk σ (some (.expr e)) σ

mutual

inductive Stmt.Walk : Sight → Stmt → Sight → Prop
 | compound {σ τ:Sight} {ss:List Stmt} {span:Span} (h:Stmt.WalkAll σ ss τ) :
    Stmt.Walk σ (.compound ss span) σ
 | decls {σ τ:Sight} {ds:List Declaration} {span:Span} (h:Declaration.WalkAll σ ds τ) :
    Stmt.Walk σ (.decls ds span) τ
 | expr {σ:Sight} {e:Expr} {span:Span} (types:σ.Covers e.mentions) :
    Stmt.Walk σ (.expr e span) σ
 | ifThen {σ τ:Sight} {test:Expr} {yes:Stmt} {span:Span}
    (types:σ.Covers test.mentions) (hyes:Stmt.Walk σ yes τ) :
    Stmt.Walk σ (.ifElse test yes none span) τ
 | ifElse {σ τ υ:Sight} {test:Expr} {yes no:Stmt} {span:Span}
    (types:σ.Covers test.mentions) (hyes:Stmt.Walk σ yes τ) (hno:Stmt.Walk τ no υ) :
    Stmt.Walk σ (.ifElse test yes (some no) span) υ
 | whileLoop {σ τ:Sight} {test:Expr} {body:Stmt} {span:Span}
    (types:σ.Covers test.mentions) (h:Stmt.Walk σ body τ) :
    Stmt.Walk σ (.whileLoop test body span) τ
 | doLoop {σ τ:Sight} {test:Expr} {body:Stmt} {span:Span} (h:Stmt.Walk σ body τ)
    (types:τ.Covers test.mentions) : Stmt.Walk σ (.doLoop body test span) τ
 | forLoop {σ τ υ:Sight} {init:Option ForInit} {test step:Option Expr} {body:Stmt}
    {span:Span} (hinit:ForInit.Walk σ init τ)
    (types:∀ e ∈ test, τ.Covers e.mentions) (types':∀ e ∈ step, τ.Covers e.mentions)
    (h:Stmt.Walk τ body υ) : Stmt.Walk σ (.forLoop init test step body span) σ
 | switch {σ τ:Sight} {value:Expr} {body:Stmt} {span:Span}
    (types:σ.Covers value.mentions) (h:Stmt.Walk σ body τ) :
    Stmt.Walk σ (.switch value body span) τ
 | caseLabel {σ τ:Sight} {value:Expr} {body:Stmt} {span:Span}
    (types:σ.Covers value.mentions) (h:Stmt.Walk σ body τ) :
    Stmt.Walk σ (.caseLabel value body span) τ
 | defaultLabel {σ τ:Sight} {body:Stmt} {span:Span} (h:Stmt.Walk σ body τ) :
    Stmt.Walk σ (.defaultLabel body span) τ
 | labeled {σ τ:Sight} {label:Ident} {body:Stmt} {span:Span} (h:Stmt.Walk σ body τ) :
    Stmt.Walk σ (.labeled label body span) τ
 | returnJump {σ:Sight} {value:Option Expr} {span:Span}
    (types:∀ e ∈ value, σ.Covers e.mentions) : Stmt.Walk σ (.returnJump value span) σ
 | breakJump {σ:Sight} {span:Span} : Stmt.Walk σ (.breakJump span) σ
 | continueJump {σ:Sight} {span:Span} : Stmt.Walk σ (.continueJump span) σ
 | gotoJump {σ:Sight} {label:Ident} {span:Span} : Stmt.Walk σ (.gotoJump label span) σ
 | empty {σ:Sight} {span:Span} : Stmt.Walk σ (.empty span) σ

inductive Stmt.WalkAll : Sight → List Stmt → Sight → Prop
 | nil {σ:Sight} : Stmt.WalkAll σ [] σ
 | cons {σ τ υ:Sight} {s:Stmt} {ss:List Stmt} (h:Stmt.Walk σ s τ)
    (rest:Stmt.WalkAll τ ss υ) : Stmt.WalkAll σ (s :: ss) υ

end

/-! The scopes of blocks and `for` statements are left again, so a statement ends in the scope in
which it began. -/

lemma ForInit.Walk.within {init:Option ForInit} (h:ForInit.Walk σ init τ) : σ.Within τ := by
 cases h with
 | none => exact .refl _
 | decls h => exact h.within
 | expr _ => exact .refl _

lemma Stmt.Walk.within {s:Stmt} {σ τ:Sight} : s.Walk σ τ → σ.Within τ
 | .compound _ => .refl _
 | .decls h => h.within
 | .expr _ => .refl _
 | .ifThen _ hyes => hyes.within
 | .ifElse _ hyes hno => hyes.within.trans hno.within
 | .whileLoop _ h => h.within
 | .doLoop h _ => h.within
 | .forLoop _ _ _ _ => .refl _
 | .switch _ h => h.within
 | .caseLabel _ h => h.within
 | .defaultLabel h => h.within
 | .labeled h => h.within
 | .returnJump _ => .refl _
 | .breakJump => .refl _
 | .continueJump => .refl _
 | .gotoJump => .refl _
 | .empty => .refl _

lemma Stmt.WalkAll.within {ss:List Stmt} (h:Stmt.WalkAll σ ss τ) : σ.Within τ := by
 induction ss generalizing σ with
 | nil =>
  cases h
  exact .refl _
 | cons s ss ih =>
  cases h with
  | cons hs hrest => exact hs.within.trans (ih hrest)

def Sight.enterFunction (σ:Sight) (params:List Param) : Sight :=
 (params.filterMap (·.name)).foldl (fun σ name => σ.hide name.name) { σ with atFile := false }

lemma Sight.enterFunction_fields (σ:Sight) (params:List Param) :
  (σ.enterFunction params).records = σ.records ∧ (σ.enterFunction params).enums = σ.enums ∧
   (σ.enterFunction params).atFile = false := by
 have hfoldl (names:List Ident) (τ:Sight) :
   let υ:=names.foldl (fun σ name => σ.hide name.name) τ
   υ.records = τ.records ∧ υ.enums = τ.enums ∧ υ.atFile = τ.atFile := by
  induction names generalizing τ with
  | nil => exact ⟨rfl,rfl,rfl⟩
  | cons name names ih => exact ih (τ.hide name.name)
 exact hfoldl _ _

inductive External.Walk : Sight → External → Sight → Prop
 | declaration {σ τ:Sight} {d:Declaration} (h:d.Walk σ τ) : Walk σ (.declaration d) τ
 | definition {σ τ υ:Sight} {head:FunctionDecl} {body:Block}
    (h:Declaration.Walk σ (.func head) τ)
    (hbody:Stmt.WalkAll (τ.enterFunction head.type.params) body.stmts υ) :
    Walk σ (.definition head body) τ

inductive External.WalkAll : Sight → List External → Sight → Prop
 | nil {σ:Sight} : WalkAll σ [] σ
 | cons {σ τ υ:Sight} {e:External} {es:List External} (h:e.Walk σ τ)
    (rest:WalkAll τ es υ) : WalkAll σ (e :: es) υ

lemma External.WalkAll.append {es es':List External} (h:External.WalkAll σ es τ)
  (h':External.WalkAll τ es' υ) : External.WalkAll σ (es ++ es') υ := by
 induction h with
 | nil => exact h'
 | cons h _ ih => exact .cons h (ih h')

lemma Declaration.WalkAll.external (h:Declaration.WalkAll σ ds τ) :
  External.WalkAll σ (ds.map .declaration) τ := by
 induction h with
 | nil => exact .nil
 | cons h _ ih => exact .cons (.declaration h) ih

end CCheck
