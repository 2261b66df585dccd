import CCheck.Proofs.Naming.Pieces
import CCheck.Proofs.Parsing.UnitRules

/-! # The scopes of names are balanced

Reading a program or an expression, whether it succeeds or fails, adds names to the innermost scope
and changes nothing else. -/

set_option autoImplicit false

namespace CCheck

open CCheck.Parser CCheck.Grammar Sight

variable {top:NameScope} {below:List NameScope} {d d':NameScope} {t:TypeExpr}

variable {added:NameScope} {decl:Declaration} {ss:List Stmt}

/-! ### Declarators with their initializers -/

def TypeExpr.Introduces (t:TypeExpr) (p:String × Bool) : Prop :=
 ∃ m ∈ t.mentions, m.IsLocal ∧ p = (m.name,false)

structure Declared (t:TypeExpr) (decl:Declaration) (top:NameScope) (below:List NameScope)
  (added:NameScope) : Prop where
 baseName : decl.baseName? = t.baseName?
 introduces : ∀ p, decl.Introduces p ↔ t.Introduces p ∨ p ∈ added
 walk : ∀ σ τ : Sight, t.Walk σ τ → τ.Sees ⟨top :: below⟩ →
  ∃ p, decl.declared? = some p ∧ decl.Walk σ (τ.declare p) ∧
   (τ.declare p).Sees ⟨(added ++ top) :: below⟩

structure NameRead (dl:Declarator) (p:String × Bool) (top:NameScope) (below:List NameScope)
  (added:NameScope) : Prop where
 suffixes : ∃ d, added = [p] ++ d ∧ SuffixesRead dl.all top below d

namespace NameRead

variable {dl:Declarator} {p:String × Bool}

lemma declared {ms:List Mention} (h:NameRead dl p top below d)
  (hp:decl.declared? = some p) (hbase:decl.baseName? = (dl.apply t).2.baseName?)
  (hms:∀ m, m ∈ decl.mentions ↔ m ∈ (dl.apply t).2.mentions ∨ m ∈ ms)
  (hinit:Accounts (d ++ top) below ms d')
  (hwalk:∀ σ τ, TypeExpr.Walk σ (dl.apply t).2 τ →
   (p.2 = false → τ.Sees ⟨(d ++ top) :: below⟩) → decl.Walk σ (τ.declare p)) :
  Declared t decl top below (d' ++ d) := by
 obtain ⟨d,rfl,hdl⟩:=h
 rw [SuffixesRead,← Declarator.mentions_eq] at hdl
 refine ⟨by rw [hbase,TypeExpr.baseName?_apply],fun q => ?_,fun σ τ hστ hτ => ?_⟩
 · simp only [Declaration.Introduces,TypeExpr.Introduces,hp,hms,Declarator.mem_mentions_apply,
    List.mem_append,List.mem_singleton,hdl.added,hinit.added,Option.some.injEq]
   grind
 · have hafter:τ.Sees ⟨(d ++ top) :: below⟩:=hτ.extend hdl.hides
   have hcovers:τ.Covers dl.mentions:=hτ.covers hdl.types
   refine ⟨p,hp,hwalk σ τ (hστ.apply hcovers) fun hfalse => ?_,?_⟩
   · exact hafter.extend (d := [p]) (List.forall_mem_singleton.mpr hfalse)
   · rw [List.append_assoc]
     exact (hafter.declare p).extend hinit.hides

variable {name:Ident} {u:TypeExpr}

lemma typedef (h:NameRead dl (name.name,true) top below d) (span:Span)
  (happly:dl.apply t = (some name,u)) :
  Declared t (.typedef ⟨name,u,span⟩) top below d := by
 obtain rfl : (dl.apply t).2 = u:=congrArg Prod.snd happly
 refine h.declared rfl rfl ?_ (.nil : Accounts _ _ [] []) fun _ _ hwalk _ => .typedef hwalk
 simp only [Declaration.mentions,List.not_mem_nil,or_false,implies_true]

lemma func (h:NameRead dl (name.name,false) top below d) (storage:Option StorageClass)
  (isInline:Bool) (span:Span) (happly:dl.apply t = (some name,u)) :
  Declared t (.func ⟨name,u,storage,isInline,span⟩) top below d := by
 obtain rfl : (dl.apply t).2 = u:=congrArg Prod.snd happly
 refine h.declared rfl rfl ?_ (.nil : Accounts _ _ [] []) fun _ _ hwalk _ => .func hwalk
 simp only [Declaration.mentions,List.not_mem_nil,or_false,implies_true]

lemma var {init:Option Initializer} (h:NameRead dl (name.name,false) top below d)
  (storage:Option StorageClass) (span:Span) (happly:dl.apply t = (some name,u))
  (hinit:PiecesRead (init.toList.map .initializer) (d ++ top) below d') :
  Declared t (.var ⟨name,u,storage,init,span⟩) top below (d' ++ d) := by
 obtain rfl : (dl.apply t).2 = u:=congrArg Prod.snd happly
 have hall:=hinit.accounts (by cases init <;> rfl)
 rw [List.flatMap_map] at hall
 refine h.declared rfl rfl (fun m => List.mem_append)
  (List.map_flatMap .. ▸ hall.toExpr) fun σ τ hwalk hτ => .var hwalk fun i hi => ?_
 have hcovers:=(hτ rfl).covers hall.types
 cases hi
 rwa [Option.toList_some,List.flatMap_singleton] at hcovers

end NameRead

/-! ### Declarations -/

/-- Declarations that were read, and the names that they added. They can be walked through at file
scope, and elsewhere if no declarator but the last takes the name that the specifiers consist of. -/
structure DeclarationsRead (ds:List Declaration) (top:NameScope) (below:List NameScope)
  (added:NameScope) : Prop where
 introduces : ∀ p, p ∈ added ↔ ∃ d ∈ ds, d.Introduces p
 walk : ∀ σ : Sight, σ.Sees ⟨top :: below⟩ → σ.atFile = true ∨ KeepsSpecifier ds →
  ∃ τ, Declaration.WalkAll σ ds τ ∧ τ.Sees ⟨(added ++ top) :: below⟩

/-- The declarators so far, after specifiers that added `d`. The specifiers can be walked through
again unless one of the declarators has taken the name that they consist of. -/
structure DeclaratorsShare (t:TypeExpr) (d:NameScope) (ds:List Declaration) (top:NameScope)
  (below:List NameScope) (d':NameScope) : Prop where
 introduces : ∀ p, p ∈ d' ++ d ↔ ∃ decl ∈ ds, decl.Introduces p
 baseName : ∀ decl ∈ ds, decl.baseName? = t.baseName?
 walk : ∀ σ : Sight, σ.Sees ⟨top :: below⟩ → σ.atFile = true ∨ KeepsSpecifier ds →
  ∃ τ υ, t.Walk σ τ ∧ Declaration.WalkAll σ ds υ ∧ τ.Within υ ∧
   υ.Sees ⟨(d' ++ (d ++ top)) :: below⟩ ∧
   ∀ x ∈ t.baseName?,
    υ.types x ∨ σ.atFile = false ∧ ∃ decl ∈ ds, decl.declared? = some (x,false)

namespace DeclaratorsShare

lemma first (ht:FormRead t.form top below d)
  (h:Declared t decl (d ++ top) below added) :
  DeclaratorsShare t d [decl] top below added where
 introduces p := by
  simp only [List.mem_append,List.mem_singleton,exists_eq_left,h.introduces,
   ht.mentions.added,TypeExpr.Introduces]
  exact or_comm
 baseName _ hmem := by
  rw [List.mem_singleton.mp hmem]
  exact h.baseName
 walk σ hσ _ := by
  obtain ⟨τ,hστ,hτ⟩:=ht.walk σ hσ
  obtain ⟨p,hp,hwalk,hsees⟩:=h.walk σ τ hστ hτ
  refine ⟨τ,_,hστ,.cons hwalk .nil,within_declare τ p,hsees,fun x hx => ?_⟩
  have htype:=(hστ.baseName ht.isSpecifier hx).2
  rcases types_declare htype p with hkept | ⟨hinner,rfl⟩
  · exact .inl hkept
  · exact .inr ⟨hστ.within.atFile ▸ hinner,decl,List.mem_singleton_self _,hp⟩

lemma snoc (ht:FormRead t.form top below d) {ds:List Declaration}
  (h:DeclaratorsShare t d ds top below d')
  (hdecl:Declared t decl (d' ++ (d ++ top)) below added) :
  DeclaratorsShare t d (ds ++ [decl]) top below (added ++ d') where
 introduces p := by
  have hspec:t.Introduces p → p ∈ d' ++ d:=fun hp =>
   List.mem_append_right _ ((ht.mentions.added p).mpr hp)
  simp only [List.mem_append,or_and_right,exists_or,← h.introduces,List.mem_singleton,
   exists_eq_left,hdecl.introduces,List.append_assoc]
  simp only [List.mem_append] at hspec
  grind
 baseName := by
  intro decl' hmem
  rcases List.mem_append.mp hmem with hmem | hmem
  · exact h.baseName decl' hmem
  · rw [List.mem_singleton.mp hmem]
    exact hdecl.baseName
 walk σ hσ hkeeps := by
  have hbefore:σ.atFile = true ∨ KeepsSpecifier ds:=
   hkeeps.imp id fun hk => (List.pairwise_append.mp hk).1
  obtain ⟨τ,υ,hστ,hds,hwithin,hυ,hbase⟩:=h.walk σ hσ hbefore
  have htypes:∀ x ∈ t.baseName?, υ.types x := by
   intro x hx
   rcases hbase x hx with htype | ⟨hinner,other,hother,hname⟩
   · exact htype
   · rcases hkeeps with hfile | hk
     · rw [hfile] at hinner
       cases hinner
     · have hdiffer:=(List.pairwise_append.mp hk).2.2 other hother decl
        (List.mem_singleton_self _) (x,false) hname rfl
       exact absurd (hdecl.baseName.trans hx) hdiffer
  have hagain:=hστ.again ht.isSpecifier hwithin htypes
  obtain ⟨p,hp,hwalk,hsees⟩:=hdecl.walk υ υ hagain hυ
  rw [List.append_assoc]
  refine ⟨τ,_,hστ,hds.append (.cons hwalk .nil),hwithin.trans (within_declare υ p),hsees,
   fun x hx => ?_⟩
  rcases types_declare (htypes x hx) p with hkept | ⟨hinner,rfl⟩
  · exact .inl hkept
  · refine .inr ⟨?_,decl,List.mem_append_right _ (List.mem_singleton_self _),hp⟩
    rw [← hinner,hwithin.atFile,hστ.within.atFile]

end DeclaratorsShare

structure GroupRead (t:TypeExpr) (ds:List Declaration) (top:NameScope)
  (below:List NameScope) (added:NameScope) : Prop where
 share : ∃ d d', added = d' ++ d ∧ FormRead t.form top below d ∧
  (ds = [] ∧ d' = [] ∨ DeclaratorsShare t d ds top below d')

namespace GroupRead

variable {ds:List Declaration}

lemma nil (h:FormRead t.form top below d) : GroupRead t [] top below d :=
 ⟨d,[],rfl,h,.inl ⟨rfl,rfl⟩⟩

lemma snoc (h:GroupRead t ds top below d)
  (hdecl:Declared t decl (d ++ top) below d') :
  GroupRead t (ds ++ [decl]) top below (d' ++ d) := by
 obtain ⟨first,rest,rfl,ht,⟨rfl,rfl⟩ | h⟩:=h
 · exact ⟨first,d',rfl,ht,.inr (.first ht hdecl)⟩
 · rw [List.append_assoc] at hdecl
   exact ⟨first,d' ++ rest,(List.append_assoc ..).symm,ht,.inr (h.snoc ht hdecl)⟩

lemma done (h:GroupRead t ds top below d) (hds:ds ≠ []) :
  DeclarationsRead ds top below d := by
 obtain ⟨first,rest,rfl,-,hnil | h⟩:=h
 · exact absurd hnil.1 hds
 refine ⟨h.introduces,fun σ hσ hkeeps => ?_⟩
 obtain ⟨τ,υ,-,hwalk,-,hυ,-⟩:=h.walk σ hσ hkeeps
 rw [List.append_assoc]
 exact ⟨υ,hwalk,hυ⟩

end GroupRead

namespace DeclarationsRead

variable {ds:List Declaration}

lemma nil : DeclarationsRead [] top below [] where
 introduces p := by simp only [List.not_mem_nil,false_and,exists_false]
 walk σ hσ _ := ⟨σ,.nil,hσ⟩

lemma one (h:Accounts top below decl.mentions d)
  (hnone:decl.declared? = none) (hwalk:Follows top below (decl.Walk · ·) d) :
  DeclarationsRead [decl] top below d where
 introduces p := by
  simp only [List.mem_singleton,exists_eq_left,Declaration.Introduces,hnone,reduceCtorEq,
   false_or]
  exact h.added p
 walk σ hσ _ := by
  obtain ⟨τ,hwalk,hτ⟩:=hwalk σ hσ
  exact ⟨τ,.cons hwalk .nil,hτ⟩

lemma bare {specs:Specifiers} (h:FormRead specs.type.form top below d) :
  DeclarationsRead (bareDeclaration specs) top below d := by
 obtain ⟨storage,isInline,⟨form,quals,span⟩⟩:=specs
 have haccounts:=h.accounts
 have hwalk:=h.walk
 cases form with
 | base b =>
  rw [haccounts.eq_nil nofun]
  exact .nil
 | named name =>
  rw [haccounts.eq_nil (List.forall_mem_singleton.mpr nofun)]
  exact .nil
 | record spec =>
  refine .one haccounts rfl fun σ hσ => ?_
  obtain ⟨τ,hwalk,hτ⟩:=hwalk σ hσ
  cases hwalk with
  | record hwalk => exact ⟨τ,.record hwalk,hτ⟩
 | enum spec =>
  refine .one haccounts rfl fun σ hσ => ?_
  obtain ⟨τ,hwalk,hτ⟩:=hwalk σ hσ
  cases hwalk with
  | enum hwalk => exact ⟨τ,.enum hwalk,hτ⟩
 | _ => exact h.isSpecifier.elim

lemma decls (h:DeclarationsRead ds top below d) (span:Span) :
  PiecesRead [.stmt (.decls ds span)] top below d := by
 refine .of_walk rfl fun hgroups σ hσ => ?_
 obtain ⟨τ,hwalk,hτ⟩:=h.walk σ hσ (.inr (hgroups ds (List.mem_singleton_self ds)))
 exact ⟨τ,.decls hwalk,hτ⟩

lemma forDecls (h:DeclarationsRead ds top below d) :
  PiecesRead [.forInit (.decls ds)] top below d := by
 refine .of_walk rfl fun hgroups σ hσ => ?_
 obtain ⟨τ,hwalk,hτ⟩:=h.walk σ hσ (.inr (hgroups ds (List.mem_singleton_self ds)))
 exact ⟨τ,.decls hwalk,hτ⟩

end DeclarationsRead

/-! ### File scope -/

def External.Introduces : External → String × Bool → Prop
 | .declaration d, p => d.Introduces p
 | .definition head _, p => (Declaration.func head).Introduces p

lemma exists_params (below:List NameScope) (ps:List Param) (top:NameScope) : ∃ d,
  TypeNames.declareParams ⟨top :: below⟩ ps = ⟨(d ++ top) :: below⟩ ∧
  ∀ σ : Sight, σ.Sees ⟨top :: below⟩ →
   ((ps.filterMap (·.name)).foldl (fun σ name => σ.hide name.name) σ).Sees
    ⟨(d ++ top) :: below⟩ := by
 induction ps generalizing top with
 | nil => exact ⟨[],rfl,fun σ hσ => hσ⟩
 | cons p ps ih =>
  obtain ⟨name,type,span⟩:=p
  cases name with
  | none => exact ih top
  | some name =>
   obtain ⟨d,hfold,hd⟩:=ih ((name.name,false) :: top)
   refine ⟨d ++ [(name.name,false)],?_,fun σ hσ => ?_⟩
   · rw [List.append_assoc]
     exact hfold
   · rw [List.append_assoc]
     exact hd _ (hσ.hide name.name)

def External.body : External → List Stmt
 | .declaration _ => []
 | .definition _ b => b.stmts

/-- In every function body no declaration takes the name that its own specifiers consist of. -/
def KeepsSpecifiers (es:List External) : Prop :=
 ∀ e ∈ es, ∀ ds ∈ Stmt.groupsAll e.body, KeepsSpecifier ds

structure ExternalsRead (es:List External) (top:NameScope) (below:List NameScope)
  (added:NameScope) : Prop where
 introduces : ∀ p, p ∈ added ↔ ∃ e ∈ es, e.Introduces p
 walk : ∀ σ : Sight, σ.atFile = true → σ.Sees ⟨top :: below⟩ → KeepsSpecifiers es →
  ∃ τ, External.WalkAll σ es τ ∧ τ.atFile = true ∧ τ.Sees ⟨(added ++ top) :: below⟩

lemma ExternalsRead.append {es es':List External} (h:ExternalsRead es top below d)
  (h':ExternalsRead es' (d ++ top) below d') :
  ExternalsRead (es ++ es') top below (d' ++ d) where
 introduces p := by
  simp only [List.mem_append,h.introduces,h'.introduces,or_and_right,exists_or]
  exact or_comm
 walk σ hfile hσ hkeeps := by
  obtain ⟨hkeeps,hkeeps'⟩:=List.forall_mem_append.mp hkeeps
  obtain ⟨τ,hes,hτfile,hτ⟩:=h.walk σ hfile hσ hkeeps
  obtain ⟨υ,hes',hυfile,hυ⟩:=h'.walk τ hτfile hτ hkeeps'
  rw [List.append_assoc]
  exact ⟨υ,hes.append hes',hυfile,hυ⟩

lemma DeclarationsRead.external {ds:List Declaration} (h:DeclarationsRead ds top below d) :
  ExternalsRead (ds.map .declaration) top below d where
 introduces p := by
  rw [h.introduces]
  constructor
  · rintro ⟨decl,hdecl,hp⟩
    exact ⟨_,List.mem_map_of_mem hdecl,hp⟩
  · rintro ⟨_,he,hp⟩
    obtain ⟨decl,hdecl,rfl⟩:=List.mem_map.mp he
    exact ⟨decl,hdecl,hp⟩
 walk σ hfile hσ _ := by
  obtain ⟨τ,hwalk,hτ⟩:=h.walk σ hσ (.inl hfile)
  exact ⟨τ,hwalk.external,hwalk.within.atFile.trans hfile,hτ⟩

lemma ExternalsRead.nil : ExternalsRead [] top below [] where
 introduces p := by simp only [List.not_mem_nil,false_and,exists_false]
 walk σ hfile hσ _ := ⟨σ,.nil,hfile,hσ⟩

lemma DeclarationsRead.definition {head:FunctionDecl}
  (h:DeclarationsRead [.func head] top below d) (span span':Span)
  (hbody:(∀ ds ∈ Stmt.groupsAll ss, KeepsSpecifier ds) →
   ∀ σ : Sight, σ.Sees ⟨(d ++ top) :: below⟩ →
    ∃ τ, Stmt.WalkAll (σ.enterFunction head.type.params) ss τ) :
  ExternalsRead [.definition { head with span } ⟨ss,span'⟩] top below d := by
 refine ⟨fun p => ?_,fun σ hfile hσ hkeeps => ?_⟩
 · simp only [h.introduces,List.mem_singleton,exists_eq_left]
   rfl
 · obtain ⟨τ,hwalk,hτ⟩:=h.walk σ hσ (.inl hfile)
   cases hwalk with
   | cons hfunc hnil =>
    cases hnil
    obtain ⟨υ,hblock⟩:=hbody (hkeeps _ (List.mem_singleton_self _)) τ hτ
    have hhead:Declaration.Walk σ (.func { head with span }) τ := by
     cases hfunc with
     | func htype => exact .func htype
    exact ⟨τ,.cons (.definition hhead hblock) .nil,hhead.within.atFile.trans hfile,hτ⟩

/-! ### The journal of names -/

section Rules

variable {n m k:NameBook}

lemma NameBook.exists_enter (ps:List Param) (hn:n.names = ⟨top :: below⟩) :
  ∃ d, (n.enter ps).names = ⟨d :: top :: below⟩ ∧
  ∀ σ : Sight, σ.Sees ⟨[] :: top :: below⟩ →
   ((ps.filterMap (·.name)).foldl (fun σ name => σ.hide name.name) σ).Sees
    ⟨d :: top :: below⟩ := by
 obtain ⟨d,hfold,hd⟩:=exists_params (top :: below) ps []
 rw [List.append_nil] at hfold hd
 refine ⟨d,?_,hd⟩
 rw [enter,hn]
 exact hfold

lemma Grows.left {ps:List Param} (h:Grows (fun _ _ _ => True) (n.enter ps) m) :
  Grows (fun _ _ _ => True) n m.leave := by
 refine ⟨h.read,fun top below hn => ?_⟩
 obtain ⟨d,hd,-⟩:=NameBook.exists_enter ps hn
 obtain ⟨d',hd',-⟩:=h.names _ _ hd
 exact ⟨[],congrArg TypeNames.closeScope hd',nofun,trivial⟩

lemma Grows.params {ps:List Param}
  (h:Grows (PiecesRead (ss.map .stmt)) ((n.enter ps).enter []) m) :
  Grows (fun top below d => d = [] ∧ ((∀ ds ∈ Stmt.groupsAll ss, KeepsSpecifier ds) →
   ∀ σ : Sight, σ.Sees ⟨top :: below⟩ → ∃ τ, Stmt.WalkAll (σ.enterFunction ps) ss τ)) n
   m.leave.leave := by
 refine ⟨h.read,fun top below hn => ?_⟩
 obtain ⟨d,henter,hd⟩:=NameBook.exists_enter ps hn
 obtain ⟨d',hm,-,hss⟩:=h.names [] (d :: top :: below) (congrArg TypeNames.openScope henter)
 refine ⟨[],congrArg (·.closeScope.closeScope) hm,nofun,rfl,fun hkeeps σ hσ => ?_⟩
 have hgroups:(ss.map Piece.stmt).flatMap Piece.groups = Stmt.groupsAll ss:=
  (Piece.collect_eq _ rfl (fun _ _ => rfl) ss).symm
 have hsees:=hd { σ with atFile := false } (hσ.openScope)
 obtain ⟨τ,hwalk,-⟩:=hss.follows (hgroups ▸ hkeeps) _ hsees.openScope
 exact ⟨τ,hwalk.stmts⟩

lemma Grows.name {dl:Declarator} {name:String} (h:Grows (SuffixesRead dl.all) n m)
  (hname:name ∈ m.read) (isType:Bool) :
  Grows (NameRead dl (name,isType)) n (m.declare name isType) := by
 refine h.trans (.declare hname isType) ?_
 rintro top below d _ hdl rfl
 exact ⟨d,rfl,hdl⟩

end Rules

def nameJournal : Journal where
 State := NameBook
 Reach := Grows fun _ _ _ => True
 earn _ n := n
 note := .note
 enroll := .declare
 enter := .enter
 leave := .leave
 Knows n name := n.names.isType name = true
 Noted n name := name ∈ n.read
 Paid n xs := Grows (PiecesRead xs) n
 Specified n f := Grows (FormRead f) n
 Suffixes n ss := Grows (SuffixesRead ss) n
 Members n t ms := Grows (MembersRead t ms) n
 Group n t ds := Grows (GroupRead t ds) n
 Declared n ds := Grows (DeclarationsRead ds) n
 Whole n es := Grows (ExternalsRead es) n
 reach_refl _ := .stays trivial
 reach_trans h h' := h.trans h' fun _ _ => trivial
 reach_earn _ _ := .stays trivial
 reach_note _ _ := (Grows.stays trivial).noted
 reach_enroll hname isType := (Grows.declare hname isType).mono fun _ => trivial
 reach_leave := .left
 noted _ _ := List.mem_cons_self
 noted_paid hname h := h.read hname
 noted_suffixes hname h := h.read hname
 paid_note h := h.noted
 suffixes_note h := h.noted
 nil _ := .stays .nil
 append h h' := h.trans h' .append
 children hx h := h.mono (.children hx)
 ident _ i := .stays (.of_accounts (fun _ h => ⟨rfl,h⟩) (.value i.name))
 call _ h := h.mono .call
 base _ b := .stays (.base b)
 named h := .stays_of fun hn => .named (hn ▸ h)
 record _ _ _ h := h.mono .record
 recordTag _ _ _ _ _ := .stays (.recordTag ..)
 enum _ _ h := h.mono .enum
 enumTag _ _ _ _ := .stays (.enumTag ..)
 enumerator _ _ h hnoted := h.trans (.declare hnoted false) fun hvalue hname => by
  cases hname
  exact .enumerator hvalue
 suffixes_nil _ := .stays .nil
 suffixes_append h h' := h.trans h' .append
 array _ _ h := h.mono .array
 function _ _ _ h := h.inside .function
 noParams _ _ _ _ := .stays .nil
 typeName hs hd := hs.trans hd fun ht hdl => hdl.typeName ht
 param {n m k t d} span hs hd hnoted := by
  have htype :
    Grows (fun top below added => Accounts top below (d.apply t).2.mentions added) n k :=
   hs.trans hd fun ht hdl => hdl.apply ht
  cases hname : (d.apply t).1 with
  | none => exact htype.mono fun h => .param h (e := []) nofun
  | some name =>
   refine htype.trans (.declare (hnoted name hname) false) ?_
   rintro top below _ _ h rfl
   exact .param h (List.forall_mem_singleton.mpr rfl)
 members_nil hs := hs.mono .nil
 members_snoc span h hd happly := h.trans hd fun hms hdl => hms.snoc happly hdl span
 members_done h hms := h.mono fun h => h.done hms
 group_nil hs := hs.mono .nil
 group_var storage span h hd hnoted happly hinit :=
  h.trans ((hd.name hnoted false).trans hinit fun hname hinit =>
   hname.var storage span happly hinit) .snoc
 group_func storage isInline span h hd hnoted happly _ :=
  h.trans ((hd.name hnoted false).mono fun hname =>
   hname.func storage isInline span happly) .snoc
 group_typedef span h hd hnoted happly :=
  h.trans ((hd.name hnoted true).mono fun hname => hname.typedef span happly) .snoc
 group_done h hds := h.mono fun h => h.done hds
 bare hs := hs.mono .bare
 decls span h := h.mono fun h => h.decls span
 forDecls h := h.mono fun h => h.forDecls
 compound _ h := h.inside .compound
 forLoop _ h := h.inside .forLoop
 labeled _ _ h := h.mono .labeled
 whole_nil _ := .stays .nil
 whole_append h h' := h.trans h' .append
 whole_declared h := h.mono fun h => h.external
 definition span span' h hss := h.trans hss.params fun hgroup hbody => by
  obtain ⟨rfl,hbody⟩:=hbody
  exact (hgroup.done (List.cons_ne_nil _ _)).definition span span' hbody

/-- The book has the names of the parser and has noted only identifiers that were passed since the
tokens `old`. -/
structure NameBook.Holds (old:List Token) (n:NameBook) (s:ParserState) : Prop where
 names : s.names = n.names
 read : ∃ new, s.stream.passed = new ++ old ∧ ∀ x ∈ n.read, ∃ t ∈ new, t.kind = .ident x

lemma NameBook.Holds.advance {old:List Token} {n:NameBook} {s:ParserState}
  (h:n.Holds old s) (xs:List String) (hxs:∀ x ∈ xs, s.stream.current.kind = .ident x) :
  Holds old ⟨n.names,xs ++ n.read⟩ { s with stream := s.stream.advance } := by
 obtain ⟨new,hpassed,hread⟩:=h.read
 obtain ⟨⟨passed,rest,finish⟩,names⟩:=s
 cases rest with
 | nil =>
  obtain rfl:xs = []:=List.eq_nil_iff_forall_not_mem.mpr fun x hx => nomatch hxs x hx
  exact h
 | cons t ts =>
  refine ⟨h.names,t :: new,congrArg (t :: ·) hpassed,fun x hx => ?_⟩
  rcases List.mem_append.mp hx with hx | hx
  · exact ⟨t,List.mem_cons_self,hxs x hx⟩
  · obtain ⟨u,hu,hkind⟩:=hread x hx
    exact ⟨u,List.mem_cons_of_mem _ hu,hkind⟩

def Session.names (old:List Token) : Session .identity :=
 { Parser.Simulation.same,nameJournal with
   Holds := NameBook.Holds old
   passed := fun h => h.advance [] nofun
   earned := fun h _ => h.advance [] nofun
   notes := fun h hkind => h.advance [_] (List.forall_mem_singleton.mpr hkind)
   enrolled := fun h name isType => ⟨congrArg (TypeNames.declare · name isType) h.names,h.read⟩
   entered := fun h ps => ⟨congrArg (·.openScope.declareParams ps) h.names,h.read⟩
   left := fun h => ⟨congrArg TypeNames.closeScope h.names,h.read⟩
   known := fun h htype => (congrArg (TypeNames.isType · _) h.names).symm.trans htype }

lemma Parser.Declares.mono {α:Type} {p:Parser α} {Q Q':α → NameScope → Prop}
  (h:Declares top below p Q) (hQ:∀ a d, Q a d → Q' a d) : Declares top below p Q' := by
 intro s hs
 refine ⟨fun a s' ha => ?_,(h s hs).2⟩
 obtain ⟨d,hd,hq⟩:=(h s hs).1 a s' ha
 exact ⟨d,hd,hQ a d hq⟩

lemma declares_of_goes {α β:Type} {e:α → Bool} {R:α → β → Prop}
  {Q:List Token → NameBook → α → Prop} {x:Parser α} {y:Parser β} {Q':α → NameScope → Prop}
  (h:∀ old B,
   (Session.names old).Goes B Anywhere e R (NameBook.mk ⟨top :: below⟩ []) (Q old) x y)
  (hQ:∀ {old a d m}, Q old m a → m.names = ⟨(d ++ top) :: below⟩ → Q' a d) :
  Declares top below x Q' := by
 intro s hs
 have hrun:=h s.stream.passed _ s s rfl (Nat.lt_succ_self _) trivial ⟨hs,[],rfl,nofun⟩
 generalize x s = p at hrun
 generalize y s = q at hrun
 cases hrun with
 | @ok a b s' t' m _ _ _ holds reach paid =>
  obtain ⟨d,hd,-⟩:=reach.names top below rfl
  refine ⟨fun a' s'' ha => ?_,fun f s'' hf => ?_⟩
  · cases ha
    exact ⟨d,holds.names.trans hd,hQ paid hd⟩
  · cases hf
 | error _ _ holds reach =>
  obtain ⟨d,hd,hread,-⟩:=reach.names top below rfl
  obtain ⟨new,hnew,htokens⟩:=holds.read
  refine ⟨fun a' s'' ha => ?_,fun f s'' hf => ?_⟩
  · cases ha
  · cases hf
    exact ⟨d,new,holds.names.trans hd,hnew,fun x hx => htokens _ (hread x hx)⟩

lemma Grows.of_names {Q:NameScope → List NameScope → NameScope → Prop} {r:List String}
  {m:NameBook} (h:Grows Q ⟨⟨top :: below⟩,r⟩ m) (hm:m.names = ⟨(d ++ top) :: below⟩) :
  Q top below d := by
 obtain ⟨d',hd',-,hq⟩:=h.names top below rfl
 injection hm.symm.trans hd' with hscopes
 rwa [List.append_cancel_right (List.cons.inj hscopes).1]

lemma declares_unit :
  Declares top below Parser.unit fun u d => ExternalsRead u.externals top below d :=
 declares_of_goes (fun old _ => (Session.names old).unit _) Grows.of_names

section Parts

variable (depth:Nat)

end Parts

end CCheck
