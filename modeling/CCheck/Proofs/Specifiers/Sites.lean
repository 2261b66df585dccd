import CCheck.Proofs.Checking.Marks

/-! # Where specifiers stand

Whether a specifier is met, and whether a fault in its body comes to light, depends on the place.
The sites of a tree keep these differences and nothing else. -/

set_option autoImplicit false

namespace CCheck

inductive Specifier where
 | record (spec:RecordSpec)
 | enum (spec:EnumSpec)

namespace Specifier

def start : Specifier → Nat
 | record spec => spec.span.start
 | enum spec => spec.span.start

def tag : Specifier → Option Ident
 | record spec => spec.tag
 | enum spec => spec.tag

def hasBody : Specifier → Bool
 | record spec => spec.members.isSome
 | enum spec => spec.enumerators.isSome

def key : Specifier → SpecifierKey
 | record spec => .record spec.span.start
 | enum spec => .enum spec.span.start

end Specifier

inductive Site where
 | definition (specifier:Specifier) (body:List Site)
 | size (vla:Bool) (inner:List Site)
 | skippable (inner:List Site)

structure Node where
 specifier : Specifier
 body : List Site

def Node.key (n:Node) : SpecifierKey := n.specifier.key

/-! ### Specifiers among sites -/

mutual

def Site.nodes : Site → List Node
 | .definition d body => ⟨d,body⟩ :: Site.nodesAll body
 | .size _ inner => Site.nodesAll inner
 | .skippable inner => Site.nodesAll inner
termination_by structural s => s

def Site.nodesAll : List Site → List Node
 | [] => []
 | s :: ss => s.nodes ++ Site.nodesAll ss

end

mutual

def Site.tops : Site → List Node
 | .definition d body => [⟨d,body⟩]
 | .size _ inner => Site.topsAll inner
 | .skippable inner => Site.topsAll inner
termination_by structural s => s

def Site.topsAll : List Site → List Node
 | [] => []
 | s :: ss => s.tops ++ Site.topsAll ss

end

/-- The specifiers that are met for sure if the site is. Of a size, those that are not met are
accounted for by `Site.lost`. -/
def Site.sure : Site → List Node
 | .definition d body => [⟨d,body⟩]
 | .size _ inner => Site.topsAll inner
 | .skippable _ => []

def Site.sureAll (ss:List Site) : List Node := ss.flatMap Site.sure

def Site.keysAll (ss:List Site) : List SpecifierKey := (Site.nodesAll ss).map Node.key

def Node.keys (n:Node) : List SpecifierKey := n.key :: Site.keysAll n.body

mutual

/-- The specifiers whose faults may be lost. In a block, a size that may be known at run time is
checked where it cannot be evaluated, and so are all specifiers in it. Of any other size, an operand
that was skipped at first may be met when the size is evaluated again, where faults do not count. -/
def Site.lost (inBlock inSize:Bool) : Site → List SpecifierKey
 | .definition _ body => Site.lostAll inBlock false body
 | .size vla inner =>
  if vla && inBlock then Site.keysAll inner else Site.lostAll inBlock true inner
 | .skippable inner => if inSize then Site.keysAll inner else Site.lostAll inBlock false inner
termination_by structural s => s

def Site.lostAll (inBlock inSize:Bool) : List Site → List SpecifierKey
 | [] => []
 | s :: ss => s.lost inBlock inSize ++ Site.lostAll inBlock inSize ss

end

mutual

def Site.sized : Site → List Node
 | .definition _ body => Site.sizedAll body
 | .size _ inner => Site.nodesAll inner
 | .skippable inner => Site.sizedAll inner
termination_by structural s => s

def Site.sizedAll : List Site → List Node
 | [] => []
 | s :: ss => s.sized ++ Site.sizedAll ss

end

/-! ### Sites of trees -/

def BinOp.operandSites (op:BinOp) (ss:List Site) : List Site :=
 if op = .and || op = .or then [.skippable ss] else ss

mutual

def Expr.sites : Expr → List Site
 | .literal _ | .ident _ => []
 | .binary _ l r _ => l.sites ++ r.sites
 | .unary _ e _ => e.sites
 | .assign _ target e _ => target.sites ++ e.sites
 | .cond test yes no _ => test.sites ++ (yes.sites ++ no.sites)
 | .call callee args _ => callee.sites ++ Expr.sitesAll args
 | .index base index _ => base.sites ++ index.sites
 | .member base _ _ _ => base.sites
 | .cast type e _ => type.sites ++ e.sites
 | .sizeofType type _ => type.sites
 | .sizeofExpr e _ => e.sites
 | .comma l r _ => l.sites ++ r.sites
termination_by structural e => e

def Expr.sitesAll : List Expr → List Site
 | [] => []
 | e :: es => e.sites ++ Expr.sitesAll es

def Expr.constants : Expr → List Site
 | .literal _ | .ident _ => []
 | .unary _ e _ => e.constants
 | .binary op l r _ => l.constants ++ op.operandSites r.constants
 | .cond test yes no _ => test.constants ++ [.skippable (yes.constants ++ no.constants)]
 | .cast type e _ => type.sites ++ e.constants
 | .sizeofType type _ => type.sites
 | .sizeofExpr e _ => e.sites
 | .assign _ target e _ => [.skippable (target.sites ++ e.sites)]
 | .call callee args _ => [.skippable (callee.sites ++ Expr.sitesAll args)]
 | .index base index _ => [.skippable (base.sites ++ index.sites)]
 | .member base _ _ _ => [.skippable base.sites]
 | .comma l r _ => [.skippable (l.sites ++ r.sites)]

def TypeExpr.sites : TypeExpr → List Site
 | ⟨form,_,_⟩ => form.sites

def TypeForm.sites : TypeForm → List Site
 | .base _ | .named _ => []
 | .record spec => spec.sites
 | .enum spec => spec.sites
 | .pointer target => target.sites
 | .array elem none _ => elem.sites
 | .array elem (some size) vla => elem.sites ++ [.size vla size.constants]
 | .function ret params _ _ => ret.sites ++ Param.sitesAll params

def Param.sitesAll : List Param → List Site
 | [] => []
 | p :: ps => p.sites ++ Param.sitesAll ps

def Param.sites : Param → List Site
 | ⟨_,⟨.array elem _ _,_,_⟩,_⟩ => elem.sites
 | ⟨_,type,_⟩ => type.sites

def RecordSpec.sites : RecordSpec → List Site
 | ⟨_,_,none,_⟩ => []
 | ⟨kind,tag,some members,span⟩ =>
  [.definition (.record ⟨kind,tag,some members,span⟩) (Member.sitesAll members)]

def Member.sitesAll : List Member → List Site
 | [] => []
 | ⟨_,type,_⟩ :: ms => type.sites ++ Member.sitesAll ms

def EnumSpec.sites : EnumSpec → List Site
 | ⟨_,none,_⟩ => []
 | ⟨tag,some es,span⟩ => [.definition (.enum ⟨tag,some es,span⟩) (Enumerator.sitesAll es)]

def Enumerator.sitesAll : List Enumerator → List Site
 | [] => []
 | ⟨_,none,_⟩ :: es => Enumerator.sitesAll es
 | ⟨_,some value,_⟩ :: es => value.constants ++ Enumerator.sitesAll es

end

mutual

def Initializer.sites : Initializer → List Site
 | .expr e => e.sites
 | .list items _ => Initializer.sitesAll items
termination_by structural i => i

def Initializer.sitesAll : List Initializer → List Site
 | [] => []
 | i :: is => i.sites ++ Initializer.sitesAll is

end

def Declaration.sites : Declaration → List Site
 | .var d => d.type.sites ++ d.init.toList.flatMap Initializer.sites
 | .func d => d.type.sites
 | .record spec => spec.sites
 | .enum spec => spec.sites
 | .typedef d => d.type.sites

def ForInit.sites : ForInit → List Site
 | .decls ds => ds.flatMap Declaration.sites
 | .expr e => e.sites

mutual

def Stmt.sites : Stmt → List Site
 | .compound ss _ => Stmt.sitesAll ss
 | .decls ds _ => ds.flatMap Declaration.sites
 | .expr e _ => e.sites
 | .ifElse test yes none _ => test.sites ++ yes.sites
 | .ifElse test yes (some no) _ => test.sites ++ (yes.sites ++ no.sites)
 | .whileLoop test body _ => test.sites ++ body.sites
 | .doLoop body test _ => body.sites ++ test.sites
 | .forLoop init test step body _ =>
  init.toList.flatMap ForInit.sites ++
   (test.toList.flatMap Expr.sites ++ (step.toList.flatMap Expr.sites ++ body.sites))
 | .switch value body _ => value.sites ++ body.sites
 | .caseLabel value body _ => value.sites ++ body.sites
 | .defaultLabel body _ => body.sites
 | .returnJump value _ => value.toList.flatMap Expr.sites
 | .labeled _ body _ => body.sites
 | .breakJump _ | .continueJump _ | .gotoJump _ _ | .empty _ => []
termination_by structural s => s

def Stmt.sitesAll : List Stmt → List Site
 | [] => []
 | s :: ss => s.sites ++ Stmt.sitesAll ss

end

namespace External

def fileSites : External → List Site
 | declaration d => d.sites
 | definition head _ => head.type.sites

def blockSites : External → List Site
 | declaration _ => []
 | definition _ body => Stmt.sitesAll body.stmts

end External

namespace ProgramUnit

variable (u:ProgramUnit)

def fileSites : List Site := u.externals.flatMap External.fileSites

def blockSites : List Site := u.externals.flatMap External.blockSites

def nodes : List (Bool × Node) :=
 (Site.nodesAll u.fileSites).map (false,·) ++ (Site.nodesAll u.blockSites).map (true,·)

def specifiers : List Specifier := u.nodes.map fun n => n.2.specifier

def sizedSpecifiers : List Specifier :=
 (Site.sizedAll (u.fileSites ++ u.blockSites)).map Node.specifier

def lost : List SpecifierKey :=
 Site.lostAll false false u.fileSites ++ Site.lostAll true false u.blockSites

end ProgramUnit

/-! ### Lists of sites -/

namespace Site

variable {ss ss':List Site} {inBlock inSize:Bool}

lemma nodesAll_eq (ss:List Site) : nodesAll ss = ss.flatMap nodes := by
 induction ss with
 | nil => rfl
 | cons s ss ih => rw [nodesAll,ih,List.flatMap_cons]

lemma topsAll_eq (ss:List Site) : topsAll ss = ss.flatMap tops := by
 induction ss with
 | nil => rfl
 | cons s ss ih => rw [topsAll,ih,List.flatMap_cons]

lemma lostAll_eq (inBlock inSize:Bool) (ss:List Site) :
  lostAll inBlock inSize ss = ss.flatMap (lost inBlock inSize) := by
 induction ss with
 | nil => rfl
 | cons s ss ih => rw [lostAll,ih,List.flatMap_cons]

@[simp] lemma nodesAll_append (ss ss':List Site) :
  nodesAll (ss ++ ss') = nodesAll ss ++ nodesAll ss' := by
 simp only [nodesAll_eq,List.flatMap_append]

@[simp] lemma topsAll_append (ss ss':List Site) :
  topsAll (ss ++ ss') = topsAll ss ++ topsAll ss' := by
 simp only [topsAll_eq,List.flatMap_append]

@[simp] lemma sureAll_append (ss ss':List Site) :
  sureAll (ss ++ ss') = sureAll ss ++ sureAll ss' :=
 List.flatMap_append

@[simp] lemma lostAll_append (inBlock inSize:Bool) (ss ss':List Site) :
  lostAll inBlock inSize (ss ++ ss') =
   lostAll inBlock inSize ss ++ lostAll inBlock inSize ss' := by
 simp only [lostAll_eq,List.flatMap_append]

lemma sizedAll_append (ss ss':List Site) :
  sizedAll (ss ++ ss') = sizedAll ss ++ sizedAll ss' := by
 induction ss with
 | nil => rfl
 | cons s ss ih => rw [List.cons_append,sizedAll,ih,sizedAll,List.append_assoc]

lemma nodesAll_singleton (s:Site) : nodesAll [s] = s.nodes := by
 rw [nodesAll,nodesAll,List.append_nil]

lemma topsAll_singleton (s:Site) : topsAll [s] = s.tops := by
 rw [topsAll,topsAll,List.append_nil]

lemma lostAll_singleton (inBlock inSize:Bool) (s:Site) :
  lostAll inBlock inSize [s] = s.lost inBlock inSize := by
 rw [lostAll,lostAll,List.append_nil]

lemma flatMap_subset {β:Type} {f g:Site → List β} (h:ss ⊆ ss') (hfg:∀ s, f s ⊆ g s) :
  ss.flatMap f ⊆ ss'.flatMap g := by
 intro b hb
 obtain ⟨s,hs,hb⟩:=List.mem_flatMap.mp hb
 exact List.mem_flatMap.mpr ⟨s,h hs,hfg s hb⟩

lemma nodesAll_subset (h:ss ⊆ ss') : nodesAll ss ⊆ nodesAll ss' := by
 rw [nodesAll_eq,nodesAll_eq]
 exact flatMap_subset h fun _ => List.Subset.refl _

lemma topsAll_subset (h:ss ⊆ ss') : topsAll ss ⊆ topsAll ss' := by
 rw [topsAll_eq,topsAll_eq]
 exact flatMap_subset h fun _ => List.Subset.refl _

lemma lostAll_subset (h:ss ⊆ ss') : lostAll inBlock inSize ss ⊆ lostAll inBlock inSize ss' := by
 rw [lostAll_eq,lostAll_eq]
 exact flatMap_subset h fun _ => List.Subset.refl _

/-! ### How the collections relate -/

mutual

lemma keys_tops : ∀ (s:Site) {n:Node}, n ∈ s.tops → n.keys ⊆ s.nodes.map Node.key
 | .definition d body, n, hn => by
  cases List.mem_singleton.mp hn
  exact List.Subset.refl _
 | .size _ inner, n, hn => keys_topsAll inner hn
 | .skippable inner, n, hn => keys_topsAll inner hn
termination_by structural s => s

lemma keys_topsAll : ∀ (ss:List Site) {n:Node}, n ∈ topsAll ss → n.keys ⊆ keysAll ss
 | [], _, hn => nomatch hn
 | s :: ss, n, hn => by
  rw [keysAll,nodesAll,List.map_append]
  rcases List.mem_append.mp hn with hn | hn
  · exact List.subset_append_of_subset_left _ (keys_tops s hn)
  · exact List.subset_append_of_subset_right _ (keys_topsAll ss hn)

end

mutual

lemma lost_subset_keys (inBlock inSize:Bool) :
  ∀ s : Site, s.lost inBlock inSize ⊆ s.nodes.map Node.key
 | .definition d body => by
  rw [lost,nodes,List.map_cons]
  exact List.subset_cons_of_subset _ (lostAll_subset_keys inBlock false body)
 | .size vla inner => by
  rw [lost,nodes]
  split
  · exact List.Subset.refl _
  · exact lostAll_subset_keys inBlock true inner
 | .skippable inner => by
  rw [lost,nodes]
  split
  · exact List.Subset.refl _
  · exact lostAll_subset_keys inBlock false inner
termination_by structural s => s

lemma lostAll_subset_keys (inBlock inSize:Bool) :
  ∀ ss : List Site, lostAll inBlock inSize ss ⊆ keysAll ss
 | [] => List.nil_subset _
 | s :: ss => by
  rw [lostAll,keysAll,nodesAll,List.map_append]
  exact List.append_subset.mpr
   ⟨List.subset_append_of_subset_left _ (lost_subset_keys inBlock inSize s),
    List.subset_append_of_subset_right _ (lostAll_subset_keys inBlock inSize ss)⟩

end

lemma lost_subset_inSize (inBlock:Bool) (s:Site) :
  s.lost inBlock false ⊆ s.lost inBlock true := by
 cases s with
 | definition d body => exact List.Subset.refl _
 | size vla inner => exact List.Subset.refl _
 | skippable inner =>
  rw [lost,lost]
  exact lostAll_subset_keys inBlock false inner

lemma lostAll_subset_inSize (inBlock inSize:Bool) (ss:List Site) :
  lostAll inBlock false ss ⊆ lostAll inBlock inSize ss := by
 cases inSize with
 | false => exact List.Subset.refl _
 | true =>
  rw [lostAll_eq,lostAll_eq]
  exact flatMap_subset (List.Subset.refl ss) (lost_subset_inSize inBlock)

lemma sure_or_lost (inBlock:Bool) (ss:List Site) {n:Node} (hn:n ∈ topsAll ss) :
  n ∈ sureAll ss ∨ n.keys ⊆ lostAll inBlock true ss := by
 rw [topsAll_eq] at hn
 obtain ⟨s,hs,hn⟩:=List.mem_flatMap.mp hn
 cases s with
 | definition d body => exact .inl (List.mem_flatMap.mpr ⟨_,hs,hn⟩)
 | size vla inner => exact .inl (List.mem_flatMap.mpr ⟨_,hs,hn⟩)
 | skippable inner =>
  refine .inr (List.Subset.trans (keys_topsAll inner hn) ?_)
  rw [lostAll_eq]
  intro key hkey
  exact List.mem_flatMap.mpr ⟨_,hs,hkey⟩

lemma sureAll_subset_topsAll (ss:List Site) : sureAll ss ⊆ topsAll ss := by
 rw [sureAll,topsAll_eq]
 refine flatMap_subset (List.Subset.refl ss) fun s => ?_
 cases s with
 | skippable inner => exact List.nil_subset _
 | _ => exact List.Subset.refl _

mutual

lemma lost_subset_sized (inBlock:Bool) :
  ∀ s : Site, s.lost inBlock false ⊆ s.sized.map Node.key
 | .definition d body => lostAll_subset_sized inBlock body
 | .size vla inner => by
  rw [lost,sized]
  split
  · exact List.Subset.refl _
  · exact lostAll_subset_keys inBlock true inner
 | .skippable inner => lostAll_subset_sized inBlock inner
termination_by structural s => s

lemma lostAll_subset_sized (inBlock:Bool) :
  ∀ ss : List Site, lostAll inBlock false ss ⊆ (sizedAll ss).map Node.key
 | [] => List.nil_subset _
 | s :: ss => by
  rw [lostAll,sizedAll,List.map_append]
  exact List.append_subset.mpr
   ⟨List.subset_append_of_subset_left _ (lost_subset_sized inBlock s),
    List.subset_append_of_subset_right _ (lostAll_subset_sized inBlock ss)⟩

end

end Site

/-- Evaluation comes upon the specifiers that checking comes upon: a collection that looks into
skippable operands sees no difference. -/
lemma Expr.flatMap_constants {β:Type} {f:Site → List β}
  (hf:∀ inner, f (.skippable inner) = inner.flatMap f) :
  ∀ e : Expr, e.constants.flatMap f = e.sites.flatMap f
 | .literal _ => rfl
 | .ident _ => rfl
 | .unary _ e _ => by
  rw [Expr.constants,Expr.sites]
  exact flatMap_constants hf e
 | .binary op l r _ => by
  have hoperand:(op.operandSites r.constants).flatMap f = r.constants.flatMap f := by
   unfold BinOp.operandSites
   split
   · rw [List.flatMap_singleton,hf]
   · rfl
  rw [Expr.constants,Expr.sites,List.flatMap_append,List.flatMap_append,hoperand,
   flatMap_constants hf l,flatMap_constants hf r]
 | .cond test yes no _ => by
  rw [Expr.constants,Expr.sites,List.flatMap_append,List.flatMap_append,
   List.flatMap_singleton,hf,List.flatMap_append,List.flatMap_append,
   flatMap_constants hf test,flatMap_constants hf yes,flatMap_constants hf no]
 | .cast type e _ => by
  rw [Expr.constants,Expr.sites,List.flatMap_append,List.flatMap_append,
   flatMap_constants hf e]
 | .sizeofType type _ => rfl
 | .sizeofExpr e _ => rfl
 | .assign _ target e _ => by rw [Expr.constants,Expr.sites,List.flatMap_singleton,hf]
 | .call callee args _ => by rw [Expr.constants,Expr.sites,List.flatMap_singleton,hf]
 | .index base i _ => by rw [Expr.constants,Expr.sites,List.flatMap_singleton,hf]
 | .member base _ _ _ => by rw [Expr.constants,Expr.sites,List.flatMap_singleton,hf]
 | .comma l r _ => by rw [Expr.constants,Expr.sites,List.flatMap_singleton,hf]
termination_by structural e => e

namespace Expr

open Site

@[simp] lemma nodesAll_constants (e:Expr) : nodesAll e.constants = nodesAll e.sites := by
 rw [nodesAll_eq,nodesAll_eq]
 exact e.flatMap_constants fun inner => nodesAll_eq inner

@[simp] lemma topsAll_constants (e:Expr) : topsAll e.constants = topsAll e.sites := by
 rw [topsAll_eq,topsAll_eq]
 exact e.flatMap_constants fun inner => topsAll_eq inner

@[simp] lemma lostAll_constants (inBlock:Bool) (e:Expr) :
  lostAll inBlock false e.constants = lostAll inBlock false e.sites := by
 rw [lostAll_eq,lostAll_eq]
 exact e.flatMap_constants fun inner => lostAll_eq inBlock false inner

end Expr

end CCheck
