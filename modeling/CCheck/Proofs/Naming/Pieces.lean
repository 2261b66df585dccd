import CCheck.Proofs.Naming.Walk
import CCheck.Proofs.Parsing.Journals

/-! # Names in pieces of trees

Pieces that were read account for what they did to the names, and a sight of the names can be led
through them. -/

set_option autoImplicit false

namespace CCheck

open Sight

variable {top:NameScope} {below:List NameScope} {d d':NameScope} {σ τ υ:Sight}

variable {es:List Enumerator} {name:Ident} {ps:List Param} {s:Stmt} {span:Span} {ss:List Stmt}
 {tag:Option Ident} {u:TypeExpr}

/-! ### Names that grow -/

/-- The names, and what the declarators and enumerators that were read are called. -/
structure NameBook where
 names : TypeNames
 read : List String

namespace NameBook

def note (i:Ident) (n:NameBook) : NameBook := { n with read := i.name :: n.read }

def declare (name:String) (isType:Bool) (n:NameBook) : NameBook :=
 { n with names := n.names.declare name isType }

def enter (ps:List Param) (n:NameBook) : NameBook :=
 { n with names := n.names.openScope.declareParams ps }

def leave (n:NameBook) : NameBook := { n with names := n.names.closeScope }

end NameBook

section Grows

variable {n m k:NameBook} {Q Q' Q'':NameScope → List NameScope → NameScope → Prop}

/-- If there is an innermost scope, names that were read are added to it, and `Q` holds of the scopes
and the added names. -/
structure Grows (Q:NameScope → List NameScope → NameScope → Prop) (n m:NameBook) :
  Prop where
 read : n.read ⊆ m.read
 names : ∀ top below, n.names = ⟨top :: below⟩ →
  ∃ d, m.names = ⟨(d ++ top) :: below⟩ ∧ (∀ p ∈ d, p.1 ∈ m.read) ∧ Q top below d

namespace Grows

lemma stays_of (h:∀ {top below}, n.names = ⟨top :: below⟩ → Q top below []) : Grows Q n n :=
 ⟨fun _ hx => hx,fun _ _ hn => ⟨[],hn,nofun,h hn⟩⟩

lemma stays (h:∀ {top below}, Q top below []) : Grows Q n n := .stays_of fun _ => h

lemma mono (h:Grows Q n m) (hQ:∀ {top below d}, Q top below d → Q' top below d) :
  Grows Q' n m := by
 refine ⟨h.read,fun top below hn => ?_⟩
 obtain ⟨d,hd,hread,hq⟩:=h.names top below hn
 exact ⟨d,hd,hread,hQ hq⟩

lemma noted {i:Ident} (h:Grows Q (n.note i) m) : Grows Q n m :=
 ⟨fun _ hx => h.read (List.mem_cons_of_mem _ hx),h.names⟩

lemma trans (h:Grows Q n m) (h':Grows Q' m k)
  (hQ:∀ {top below d d'}, Q top below d → Q' (d ++ top) below d' → Q'' top below (d' ++ d)) :
  Grows Q'' n k := by
 refine ⟨fun _ hx => h'.read (h.read hx),fun top below hn => ?_⟩
 obtain ⟨d,hd,hread,hq⟩:=h.names top below hn
 obtain ⟨d',hd',hread',hq'⟩:=h'.names _ _ hd
 refine ⟨d' ++ d,by rw [hd',List.append_assoc],?_,hQ hq hq'⟩
 exact List.forall_mem_append.mpr ⟨hread',fun p hp => h'.read (hread p hp)⟩

lemma inside (h:Grows Q (n.enter []) m)
  (hQ:∀ {top below d}, Q [] (top :: below) d → Q' top below []) : Grows Q' n m.leave := by
 refine ⟨h.read,fun top below hn => ?_⟩
 obtain ⟨d,hd,-,hq⟩:=h.names [] (top :: below) (congrArg TypeNames.openScope hn)
 exact ⟨[],congrArg TypeNames.closeScope hd,nofun,hQ hq⟩

lemma declare {name:String} (hname:name ∈ n.read) (isType:Bool) :
  Grows (fun _ _ d => d = [(name,isType)]) n (n.declare name isType) := by
 refine ⟨fun _ hx => hx,fun top below hn => ⟨_,?_,List.forall_mem_singleton.mpr hname,rfl⟩⟩
 exact congrArg (TypeNames.declare · name isType) hn

end Grows

end Grows

def Follows (top:NameScope) (below:List NameScope) (W:Sight → Sight → Prop)
  (d:NameScope) : Prop :=
 ∀ σ : Sight, σ.Sees ⟨top :: below⟩ → ∃ τ, W σ τ ∧ τ.Sees ⟨(d ++ top) :: below⟩

/-! ### Specifiers -/

structure FormRead (f:TypeForm) (top:NameScope) (below:List NameScope) (d:NameScope) :
  Prop where
 isSpecifier : f.IsSpecifier
 accounts : Accounts top below f.mentions d
 follows : ∀ q span, Follows top below (fun σ τ => TypeExpr.Walk σ ⟨f,q,span⟩ τ) d

lemma TypeExpr.mentions_form (t:TypeExpr) : t.mentions = t.form.mentions := by
 cases t
 rfl

namespace FormRead

lemma mentions {t:TypeExpr} (h:FormRead t.form top below d) :
  Accounts top below t.mentions d :=
 t.mentions_form ▸ h.accounts

lemma walk {t:TypeExpr} (h:FormRead t.form top below d) :
  Follows top below (TypeExpr.Walk · t ·) d := by
 obtain ⟨form,q,span⟩:=t
 exact h.follows q span

lemma base (b:BaseType) : FormRead (.base b) top below [] :=
 ⟨trivial,.nil,fun _ _ σ hσ => ⟨σ,.base,hσ⟩⟩

lemma named {name:String} (h:(TypeNames.mk (top :: below)).isType name = true) :
  FormRead (.named name) top below [] :=
 ⟨trivial,.type h,fun _ _ σ hσ => ⟨σ,.named (hσ name h),hσ⟩⟩

lemma recordTag (kind:RecordKind) (tag:Option Ident) (span:Span) :
  FormRead (.record ⟨kind,tag,none,span⟩) top below [] :=
 ⟨trivial,.nil,fun _ _ σ hσ => ⟨σ,.record .reference,hσ⟩⟩

lemma enumTag (tag:Option Ident) (span:Span) :
  FormRead (.enum ⟨tag,none,span⟩) top below [] :=
 ⟨trivial,.nil,fun _ _ σ hσ => ⟨σ,.enum .reference,hσ⟩⟩

end FormRead

/-! ### Walks through pieces -/

namespace Piece

@[simp] def mentions : Piece → List Mention
 | expr e | argument e => e.mentions
 | form f => f.mentions
 | param q => q.type.mentions
 | member m => m.type.mentions
 | enumerator e => Enumerator.mentionsAll [e]
 | initializer i => i.mentions
 | declaration _ | forInit _ | stmt _ => []

def isInner : Piece → Bool
 | param _ | declaration _ | forInit _ | stmt _ => false
 | expr _ | argument _ | form _ | member _ | enumerator _ | initializer _ => true

@[simp] def groups : Piece → List (List Declaration)
 | forInit i => i.groups
 | stmt s => s.groups
 | _ => []

def Walk (σ:Sight) : Piece → Sight → Prop
 | member m, τ => Member.WalkAll σ [m] τ
 | enumerator e, τ => Enumerator.WalkAll σ [e] τ
 | declaration d, τ => d.Walk σ τ
 | forInit i, τ => ForInit.Walk σ (some i) τ
 | stmt s, τ => s.Walk σ τ
 | x, τ => τ = σ ∧ σ.Covers x.mentions

def WalkAll : Sight → List Piece → Sight → Prop
 | σ, [], τ => τ = σ
 | σ, x :: xs, υ => ∃ τ, x.Walk σ τ ∧ WalkAll τ xs υ

lemma walkAll_append {xs ys:List Piece} :
  WalkAll σ (xs ++ ys) υ ↔ ∃ τ, WalkAll σ xs τ ∧ WalkAll τ ys υ := by
 induction xs generalizing σ with
 | nil => simp only [List.nil_append,WalkAll,exists_eq_left]
 | cons x xs ih =>
  simp only [List.cons_append,WalkAll,ih]
  grind

lemma walkAll_members {ms:List Member} :
  WalkAll σ (ms.map member) τ ↔ Member.WalkAll σ ms τ := by
 induction ms generalizing σ with
 | nil =>
  constructor
  · rintro rfl
    exact .nil
  · rintro ⟨⟩
    rfl
 | cons m ms ih =>
  constructor
  · rintro ⟨υ,h,hrest⟩
    exact Member.WalkAll.append h (ih.mp hrest)
  · intro h
    cases h with
    | cons h hrest => exact ⟨_,.cons h .nil,ih.mpr hrest⟩

lemma WalkAll.enumerators (h:WalkAll σ (es.map enumerator) τ) :
  Enumerator.WalkAll σ es τ := by
 induction es generalizing σ with
 | nil =>
  cases h
  exact .nil
 | cons e es ih =>
  obtain ⟨υ,h,hrest⟩:=h
  exact Enumerator.WalkAll.append h (ih hrest)

lemma WalkAll.stmts (h:WalkAll σ (ss.map stmt) τ) : Stmt.WalkAll σ ss τ := by
 induction ss generalizing σ with
 | nil =>
  cases h
  exact .nil
 | cons s ss ih =>
  obtain ⟨υ,h,hrest⟩:=h
  exact .cons h (ih hrest)

lemma WalkAll.optional {e:Option Expr} (h:WalkAll σ (e.toList.map expr) τ) :
  τ = σ ∧ ∀ e' ∈ e, σ.Covers e'.mentions := by
 cases e with
 | none => exact ⟨h,nofun⟩
 | some e =>
  obtain ⟨_,⟨rfl,hcovers⟩,rfl⟩:=h
  refine ⟨rfl,?_⟩
  rintro _ ⟨⟩
  exact hcovers

lemma WalkAll.stmt (hs:(stmt s).isSimple = true)
  (h:WalkAll σ (Piece.stmt s).children τ) : s.Walk σ τ := by
 cases s with
 | compound | decls | forLoop | labeled => cases hs
 | expr e span =>
  obtain ⟨_,⟨rfl,he⟩,rfl⟩:=h
  exact .expr he
 | ifElse e yes no span =>
  obtain ⟨_,⟨rfl,he⟩,_,hyes,hno⟩:=h
  cases no with
  | none =>
   cases hno
   exact .ifThen he hyes
  | some no =>
   obtain ⟨_,hno,rfl⟩:=hno
   exact .ifElse he hyes hno
 | whileLoop e s span =>
  obtain ⟨_,⟨rfl,he⟩,_,hs,rfl⟩:=h
  exact .whileLoop he hs
 | switch e s span =>
  obtain ⟨_,⟨rfl,he⟩,_,hs,rfl⟩:=h
  exact .switch he hs
 | caseLabel e s span =>
  obtain ⟨_,⟨rfl,he⟩,_,hs,rfl⟩:=h
  exact .caseLabel he hs
 | doLoop s e span =>
  obtain ⟨_,hs,_,⟨rfl,he⟩,rfl⟩:=h
  exact .doLoop hs he
 | returnJump e span =>
  obtain ⟨rfl,he⟩:=WalkAll.optional h
  exact .returnJump he
 | defaultLabel s span =>
  obtain ⟨_,hs,rfl⟩:=h
  exact .defaultLabel hs
 | breakJump =>
  cases h
  exact .breakJump
 | continueJump =>
  cases h
  exact .continueJump
 | gotoJump =>
  cases h
  exact .gotoJump
 | empty =>
  cases h
  exact .empty

lemma groups_children {x:Piece} (hx:x.isSimple = true) :
  x.groups = x.children.flatMap groups := by
 cases x with
 | expr e => cases e <;> simp [List.flatMap_map]
 | stmt s =>
  cases s with
  | compound | decls | forLoop | labeled => cases hx
  | ifElse e yes no span => cases no <;> simp [Stmt.groups]
  | returnJump e span => cases e <;> simp [Stmt.groups]
  | _ => simp [Stmt.groups]
 | argument e => rfl
 | initializer i => cases i <;> simp [List.flatMap_map]
 | forInit i =>
  cases i with
  | decls => cases hx
  | expr e => rfl
 | _ => cases hx

lemma mentions_children {x:Piece} (hx:x.isSimple = true) (hinner:x.isInner = true) :
  x.mentions = x.children.flatMap mentions ∧ x.children.all isInner = true := by
 cases x with
 | expr e =>
  cases e with
  | ident | call => cases hx
  | _ => simp [Expr.mentions,TypeExpr.mentions_form,isInner]
 | argument e => simp [isInner]
 | initializer i =>
  cases i with
  | expr e => simp [Initializer.mentions,isInner]
  | list items span =>
   simp [Initializer.mentions,Initializer.mentionsAll_eq,List.flatMap_map,isInner]
 | stmt | forInit => cases hinner
 | _ => cases hx

end Piece

lemma Member.mentionsAll_eq (ms:List Member) :
  Member.mentionsAll ms = (ms.map .member).flatMap Piece.mentions := by
 refine Piece.collect_eq _ rfl (fun m ms => ?_) ms
 cases m
 rfl

lemma Enumerator.mentionsAll_eq (es:List Enumerator) :
  Enumerator.mentionsAll es = (es.map .enumerator).flatMap Piece.mentions :=
 Piece.collect_eq _ rfl (fun e es => Enumerator.mentionsAll_append [e] es) es

/-! ### Pieces that were read -/

/-- If no declaration takes the name that its own specifiers consist of, the pieces can be walked
through. -/
structure PiecesRead (xs:List Piece) (top:NameScope) (below:List NameScope)
  (d:NameScope) : Prop where
 accounts : xs.all Piece.isInner = true → Accounts top below (xs.flatMap Piece.mentions) d
 follows : (∀ ds ∈ xs.flatMap Piece.groups, KeepsSpecifier ds) →
  Follows top below (Piece.WalkAll · xs ·) d

namespace PiecesRead

variable {xs ys:List Piece} {x:Piece}

lemma nil : PiecesRead [] top below [] := ⟨fun _ => .nil,fun _ σ hσ => ⟨σ,rfl,hσ⟩⟩

lemma append (h:PiecesRead xs top below d) (h':PiecesRead ys (d ++ top) below d') :
  PiecesRead (xs ++ ys) top below (d' ++ d) where
 accounts hinner := by
  rw [List.all_append,Bool.and_eq_true] at hinner
  rw [List.flatMap_append]
  exact (h.accounts hinner.1).append (h'.accounts hinner.2)
 follows hgroups σ hσ := by
  rw [List.flatMap_append,List.forall_mem_append] at hgroups
  obtain ⟨τ,hwalk,hτ⟩:=h.follows hgroups.1 σ hσ
  obtain ⟨υ,hwalk',hυ⟩:=h'.follows hgroups.2 τ hτ
  rw [List.append_assoc]
  exact ⟨υ,Piece.walkAll_append.mpr ⟨τ,hwalk,hwalk'⟩,hυ⟩

lemma of_accounts (hx:∀ σ, σ.Covers x.mentions → x.Walk σ σ)
  (h:Accounts top below x.mentions d) : PiecesRead [x] top below d where
 accounts _ := by
  rw [List.flatMap_singleton]
  exact h
 follows _ σ hσ := ⟨σ,⟨σ,hx σ (hσ.covers h.types),rfl⟩,hσ.extend h.hides⟩

lemma of_walk (hinner:x.isInner = false)
  (h:(∀ ds ∈ x.groups, KeepsSpecifier ds) → Follows top below (x.Walk · ·) d) :
  PiecesRead [x] top below d where
 accounts hall := by
  rw [List.all_cons,hinner] at hall
  cases hall
 follows hgroups σ hσ := by
  rw [List.flatMap_singleton] at hgroups
  obtain ⟨τ,hwalk,hτ⟩:=h hgroups σ hσ
  exact ⟨τ,⟨τ,hwalk,rfl⟩,hτ⟩

lemma children (hx:x.isSimple = true) (h:PiecesRead x.children top below d) :
  PiecesRead [x] top below d := by
 have hinner (hx':x.isInner = true) : Accounts top below x.mentions d := by
  obtain ⟨hmentions,hall⟩:=Piece.mentions_children hx hx'
  rw [hmentions]
  exact h.accounts hall
 have hfollows:=Piece.groups_children hx ▸ h.follows
 cases x with
 | expr e => exact .of_accounts (fun _ he => ⟨rfl,he⟩) (hinner rfl)
 | argument e => exact .of_accounts (fun _ he => ⟨rfl,he⟩) (hinner rfl)
 | initializer i => exact .of_accounts (fun _ hi => ⟨rfl,hi⟩) (hinner rfl)
 | forInit i =>
  cases i with
  | decls => cases hx
  | expr e =>
   refine .of_walk rfl fun hgroups σ hσ => ?_
   obtain ⟨τ,⟨_,⟨rfl,he⟩,rfl⟩,hτ⟩:=hfollows hgroups σ hσ
   exact ⟨_,.expr he,hτ⟩
 | stmt s =>
  refine .of_walk rfl fun hgroups σ hσ => ?_
  obtain ⟨τ,hwalk,hτ⟩:=hfollows hgroups σ hσ
  exact ⟨τ,hwalk.stmt hx,hτ⟩
 | _ => cases hx

lemma call {e:Expr} {args:List Expr}
  (h:PiecesRead (.expr e :: args.map .argument) top below d) :
  PiecesRead [.expr (.call e args span)] top below d := by
 have hall:=h.accounts (by simp [Piece.isInner])
 simp only [List.flatMap_cons,List.flatMap_map,Piece.mentions,← Expr.mentionsAll_eq] at hall
 exact .of_accounts (fun _ he => ⟨rfl,he⟩) hall

lemma types (h:PiecesRead (ps.map .param) top below d) :
  TypesIn ⟨top :: below⟩ (Param.mentionsAll ps) := by
 have hwalk (ps:List Param) (σ τ:Sight) (h:Piece.WalkAll σ (ps.map .param) τ) :
   σ.Covers (Param.mentionsAll ps) := by
  induction ps generalizing σ with
  | nil => exact nofun
  | cons q ps ih =>
   obtain ⟨_,⟨rfl,hq⟩,hps⟩:=h
   cases q
   exact List.forall_mem_append.mpr ⟨hq,ih _ hps⟩
 have hgroups:(ps.map Piece.param).flatMap Piece.groups = [] := by simp [List.flatMap_map]
 obtain ⟨τ,h,-⟩:=h.follows (hgroups ▸ nofun)
  ⟨fun x => (TypeNames.mk (top :: below)).isType x = true,[],[],false⟩ fun _ hx => hx
 exact hwalk ps _ τ h

lemma param {name:Option Ident} {e:NameScope}
  (h:Accounts top below u.mentions d) (he:TypeNames.Hides e) :
  PiecesRead [.param ⟨name,u,span⟩] top below (e ++ d) :=
 .of_walk rfl fun _ σ hσ =>
  ⟨σ,⟨rfl,hσ.covers h.types⟩,hσ.extend (h.hides.append he)⟩

lemma compound
  (h:PiecesRead (ss.map .stmt) [] (top :: below) d) :
  PiecesRead [.stmt (.compound ss span)] top below [] := by
 have hgroups:(ss.map Piece.stmt).flatMap Piece.groups = Stmt.groupsAll ss:=
  (Piece.collect_eq _ rfl (fun _ _ => rfl) ss).symm
 refine .of_walk rfl fun hkeeps σ hσ => ?_
 obtain ⟨τ,hwalk,-⟩:=h.follows (hgroups ▸ hkeeps) σ hσ.openScope
 exact ⟨σ,.compound hwalk.stmts,hσ⟩

lemma labeled {label:Ident} (h:PiecesRead [.stmt s] top below d) :
  PiecesRead [.stmt (.labeled label s span)] top below d := by
 refine .of_walk rfl fun hgroups σ hσ => ?_
 obtain ⟨τ,⟨_,hwalk,rfl⟩,hτ⟩:=h.follows (List.flatMap_singleton .. ▸ hgroups) σ hσ
 exact ⟨_,.labeled hwalk,hτ⟩

lemma forLoop {init:Option ForInit} {test step:Option Expr}
  (h:PiecesRead (Piece.stmt (.forLoop init test step s span)).children [] (top :: below) d) :
  PiecesRead [.stmt (.forLoop init test step s span)] top below [] := by
 have hgroups:(Piece.stmt (.forLoop init test step s span)).groups =
   (Piece.stmt (.forLoop init test step s span)).children.flatMap Piece.groups := by
  cases init <;> cases test <;> cases step <;> simp [Stmt.groups]
 refine .of_walk rfl fun hkeeps σ hσ => ?_
 obtain ⟨υ,hwalk,-⟩:=h.follows (hgroups ▸ hkeeps) σ hσ.openScope
 obtain ⟨τ,hinit,hwalk⟩:=Piece.walkAll_append.mp hwalk
 obtain ⟨_,htest,hwalk⟩:=Piece.walkAll_append.mp hwalk
 obtain ⟨_,hstep,_,hs,rfl⟩:=Piece.walkAll_append.mp hwalk
 obtain ⟨rfl,htest⟩:=Piece.WalkAll.optional htest
 obtain ⟨rfl,hstep⟩:=Piece.WalkAll.optional hstep
 refine ⟨σ,.forLoop (?_ : ForInit.Walk σ init _) htest hstep hs,hσ⟩
 cases init with
 | none =>
  cases hinit
  exact .none
 | some init =>
  obtain ⟨_,hinit,rfl⟩:=hinit
  exact hinit

lemma enumerator {value:Option Expr}
  (h:PiecesRead (value.toList.map .expr) top below d) :
  PiecesRead [.enumerator ⟨name,value,span⟩] top below ([(name.name,false)] ++ d) := by
 have hvalue:=h.accounts (by cases value <;> rfl)
 have hconstant:Accounts (d ++ top) below _ _:=.constant name.name
 refine ⟨fun _ => ?_,fun _ σ hσ => ⟨_,⟨_,.cons ?_ .nil,rfl⟩,?_⟩⟩
 · cases value with
   | none => exact hvalue.append hconstant
   | some e =>
    rw [Option.toList_some,List.map_singleton,List.flatMap_singleton] at hvalue
    have hboth:=hvalue.toExpr.append hconstant
    simpa [Enumerator.mentionsAll] using hboth
 · rintro e ⟨⟩
   rw [Option.toList_some,List.map_singleton,List.flatMap_singleton] at hvalue
   exact hσ.covers hvalue.types
 · exact (hσ.extend hvalue.hides).hide name.name

end PiecesRead

lemma FormRead.record {ms:List Member} {kind:RecordKind}
  (h:PiecesRead (ms.map .member) top below d) :
  FormRead (.record ⟨kind,tag,some ms,span⟩) top below d where
 isSpecifier := trivial
 accounts := by
  have hall:=h.accounts (by simp [Piece.isInner])
  rwa [← Member.mentionsAll_eq] at hall
 follows q _ σ hσ := by
  have hgroups:(ms.map Piece.member).flatMap Piece.groups = [] := by simp [List.flatMap_map]
  obtain ⟨τ,hwalk,hτ⟩:=h.follows (hgroups ▸ nofun)
   { σ with records := span.start :: σ.records } hσ
  exact ⟨_,.record (.body (Piece.walkAll_members.mp hwalk)),hτ⟩

lemma FormRead.enum
  (h:PiecesRead (es.map .enumerator) top below d) :
  FormRead (.enum ⟨tag,some es,span⟩) top below d where
 isSpecifier := trivial
 accounts := by
  have hall:=h.accounts (by simp [Piece.isInner])
  rwa [← Enumerator.mentionsAll_eq] at hall
 follows q _ σ hσ := by
  have hgroups:(es.map Piece.enumerator).flatMap Piece.groups = [] := by
   simp [List.flatMap_map]
  obtain ⟨τ,hwalk,hτ⟩:=h.follows (hgroups ▸ nofun)
   { σ with enums := span.start :: σ.enums } hσ
  exact ⟨τ,.enum (.body hwalk.enumerators),hτ⟩

/-! ### Declarators -/

lemma Declarator.mentions_eq : ∀ d : Declarator, d.mentions = d.all.flatMap Suffix.mentions
 | ⟨_,_,_,none⟩ => rfl
 | ⟨_,_,_,some inner⟩ => by
  rw [Declarator.mentions,Declarator.all,List.flatMap_append,mentions_eq inner]

def SuffixesRead (ss:List Suffix) (top:NameScope) (below:List NameScope) (d:NameScope) :
  Prop :=
 Accounts top below (ss.flatMap Suffix.mentions) d

namespace SuffixesRead

variable {t:TypeExpr} {dl:Declarator}

lemma append {ss ss':List Suffix} (h:SuffixesRead ss top below d)
  (h':SuffixesRead ss' (d ++ top) below d') :
  SuffixesRead (ss ++ ss') top below (d' ++ d) := by
 rw [SuffixesRead,List.flatMap_append]
 exact Accounts.append h h'

lemma array {size:Option Expr} {vla:Bool}
  (h:PiecesRead (size.toList.map .expr) top below d) :
  SuffixesRead [.array size vla span] top below d := by
 have hsize:=h.accounts (by cases size <;> rfl)
 rw [SuffixesRead,List.flatMap_singleton]
 cases size with
 | none => exact hsize
 | some e =>
  rw [Option.toList_some,List.map_singleton,List.flatMap_singleton] at hsize
  exact hsize.toExpr

lemma function {variadic prototyped:Bool}
  (h:PiecesRead (ps.map .param) [] (top :: below) d) :
  SuffixesRead [.function ps variadic prototyped span] top below [] := by
 rw [SuffixesRead,List.flatMap_singleton]
 exact .toParams h.types

lemma apply (h:SuffixesRead dl.all (d ++ top) below d') (ht:FormRead t.form top below d) :
  Accounts top below (dl.apply t).2.mentions (d' ++ d) := by
 rw [SuffixesRead,← Declarator.mentions_eq] at h
 exact (ht.mentions.append h).congr fun m =>
  (dl.mem_mentions_apply t m).trans List.mem_append.symm

lemma typeName (h:SuffixesRead dl.all (d ++ top) below d') (ht:FormRead t.form top below d) :
  PiecesRead [.form (dl.apply t).2.form] top below (d' ++ d) := by
 have hall:=h.apply ht
 rw [TypeExpr.mentions_form] at hall
 exact .of_accounts (fun _ hf => ⟨rfl,hf⟩) hall

end SuffixesRead

/-- The members of a declaration so far, after specifiers that added `d`: they share the
specifiers, and what is known after the first of them is known after the specifiers. -/
structure MembersShare (t:TypeExpr) (d:NameScope) (ms:List Member) (top:NameScope)
  (below:List NameScope) (d':NameScope) : Prop where
 accounts : Accounts top below (t.mentions ++ Member.mentionsAll ms) (d' ++ d)
 hides : TypeNames.Hides d'
 shares : ∀ m ∈ ms, t.mentions ⊆ m.type.mentions
 walk : ∀ σ τ, t.Walk σ τ → τ.Sees ⟨(d ++ top) :: below⟩ → ms = [] ∨ Member.WalkAll σ ms τ

structure MembersRead (t:TypeExpr) (ms:List Member) (top:NameScope)
  (below:List NameScope) (added:NameScope) : Prop where
 share : ∃ d d', added = d' ++ d ∧ FormRead t.form top below d ∧ MembersShare t d ms top below d'

namespace MembersRead

variable {t:TypeExpr} {ms:List Member}

lemma nil (h:FormRead t.form top below d) : MembersRead t [] top below d := by
 refine ⟨d,[],rfl,h,?_,nofun,nofun,fun _ _ _ _ => .inl rfl⟩
 rw [Member.mentionsAll,List.append_nil]
 exact h.mentions

lemma snoc (h:MembersRead t ms top below d) {dl:Declarator}
  (happly:dl.apply t = (some name,u)) (hdl:SuffixesRead dl.all (d ++ top) below d')
  (span:Span) : MembersRead t (ms ++ [⟨name,u,span⟩]) top below (d' ++ d) := by
 obtain ⟨first,rest,rfl,ht,h⟩:=h
 obtain rfl : (dl.apply t).2 = u:=congrArg Prod.snd happly
 rw [SuffixesRead,← Declarator.mentions_eq,List.append_assoc] at hdl
 refine ⟨first,d' ++ rest,(List.append_assoc ..).symm,ht,?_,h.hides.append hdl.hides,?_,
  fun σ τ hστ hτ => ?_⟩
 · have hall:=h.accounts.append (List.append_assoc rest first top ▸ hdl)
   rw [List.append_assoc]
   refine hall.congr fun m => ?_
   simp only [Member.mentionsAll_append,Member.mentionsAll,List.append_nil,List.mem_append,
    Declarator.mem_mentions_apply]
   grind
 · refine List.forall_mem_append.mpr ⟨h.shares,List.forall_mem_singleton.mpr fun m hm => ?_⟩
   exact (dl.mem_mentions_apply t m).mpr (.inl hm)
 · have hcovers:τ.Covers dl.mentions:=(hτ.extend h.hides).covers hdl.types
   rcases h.walk σ τ hστ hτ with rfl | hms
   · exact .inr (.cons (hστ.apply hcovers) .nil)
   · have hagain:t.Walk τ τ:=
      hστ.again ht.isSpecifier (.refl τ) fun x hx => (hστ.baseName ht.isSpecifier hx).2
     exact .inr (hms.append (.cons (hagain.apply hcovers) .nil))

lemma done (h:MembersRead t ms top below d) (hms:ms ≠ []) :
  PiecesRead (ms.map .member) top below d := by
 obtain ⟨first,rest,rfl,ht,h⟩:=h
 refine ⟨fun _ => ?_,fun _ σ hσ => ?_⟩
 · rw [← Member.mentionsAll_eq]
   refine h.accounts.congr fun m => ⟨List.mem_append_right _,fun hm => ?_⟩
   refine (List.mem_append.mp hm).elim (fun hshared => ?_) id
   obtain ⟨⟨name,u,span⟩,ms,rfl⟩:=List.exists_cons_of_ne_nil hms
   exact List.mem_append_left _ (h.shares _ List.mem_cons_self hshared)
 · obtain ⟨τ,hστ,hτ⟩:=ht.walk σ hσ
   rw [List.append_assoc]
   exact ⟨τ,Piece.walkAll_members.mpr ((h.walk σ τ hστ hτ).resolve_left hms),hτ.extend h.hides⟩

end MembersRead

end CCheck
