import CCheck.Proofs.Checking.LibraryCalls
import CCheck.Proofs.Specifiers.Sites

/-! # One specifier in one place

A specifier with a body starts at a token that is passed for it and for nothing else, so that two
specifiers of a program that start at one place are one and the same. -/

set_option autoImplicit false

namespace CCheck

open CCheck.Parser
open Site (nodesAll nodesAll_append nodesAll_singleton)

variable {p n m k:Nat}

/-! ### Stocks -/

def Node.start (x:Node) : Nat := x.specifier.start

/-- There is a list of all items that start at a place, and the difference of two credits pays for
its length. -/
def Stock {ι:Type} (start:ι → Nat) (p n:Nat) (xs:List ι) (m:Nat) : Prop :=
 ∃ stock : List ι, (∀ x ∈ xs, start x = p → x ∈ stock) ∧ n + stock.length ≤ m

namespace Stock

variable {ι κ:Type} {start:ι → Nat} {xs ys:List ι}

lemma nil (h:n ≤ m) : Stock start p n [] m := ⟨[],(fun _ hx => nomatch hx),h⟩

lemma append (h:Stock start p n xs m) (h':Stock start p m ys k) :
  Stock start p n (xs ++ ys) k := by
 obtain ⟨stock,hstock,hle⟩:=h
 obtain ⟨stock',hstock',hle'⟩:=h'
 refine ⟨stock ++ stock',fun x hx hp => ?_,by rw [List.length_append]; omega⟩
 rcases List.mem_append.mp hx with hx | hx
 · exact List.mem_append_left _ (hstock x hx hp)
 · exact List.mem_append_right _ (hstock' x hx hp)

lemma subset (h:Stock start p n xs m) (hys:ys ⊆ xs) : Stock start p n ys m := by
 obtain ⟨stock,hstock,hle⟩:=h
 exact ⟨stock,fun x hx => hstock x (hys hx),hle⟩

lemma mono (h:Stock start p n xs m) (hmk:m ≤ k) : Stock start p n xs k := by
 obtain ⟨stock,hstock,hle⟩:=h
 exact ⟨stock,hstock,Nat.le_trans hle hmk⟩

lemma less (h:Stock start p m xs k) (hnm:n ≤ m) : Stock start p n xs k := by
 obtain ⟨stock,hstock,hle⟩:=h
 exact ⟨stock,hstock,Nat.le_trans (Nat.add_le_add_right hnm _) hle⟩

lemma map {start':κ → Nat} {f:ι → κ} (h:Stock start p n xs m)
  (hf:∀ x, start' (f x) = start x) : Stock start' p n (xs.map f) m := by
 obtain ⟨stock,hstock,hle⟩:=h
 refine ⟨stock.map f,fun y hy hp => ?_,by rwa [List.length_map]⟩
 obtain ⟨x,hx,rfl⟩:=List.mem_map.mp hy
 exact List.mem_map_of_mem (hstock x hx ((hf x).symm.trans hp))

lemma eq_of_one (h:Stock start p 0 xs 1) {x y:ι} (hx:x ∈ xs) (hy:y ∈ xs)
  (hxp:start x = p) (hyp:start y = p) : x = y := by
 obtain ⟨stock,hstock,hle⟩:=h
 have hmem:=hstock x hx hxp
 have hmem':=hstock y hy hyp
 rcases stock with _ | ⟨z,_ | ⟨w,ws⟩⟩
 · exact nomatch hmem
 · exact (List.mem_singleton.mp hmem).trans (List.mem_singleton.mp hmem').symm
 · simp only [List.length_cons] at hle
   omega

/-- A specifier is paid for with its first token or with its last one, whichever it starts at. -/
lemma cons {x:ι} {first last:Span} (h:Stock start p (n + first.credit p) xs m)
  (hx:start x = (first.merge last).start) : Stock start p n (x :: xs) (m + last.credit p) := by
 obtain ⟨stock,hstock,hle⟩:=h
 by_cases hp : start x = p
 · have hcredit:=Span.credit_merge p first last
   have hone:(first.merge last).credit p = 1:=if_pos (beq_iff_eq.mpr (hx.symm.trans hp))
   refine ⟨x :: stock,fun y hy hyp => ?_,by rw [List.length_cons]; omega⟩
   rcases List.mem_cons.mp hy with rfl | hy
   · exact List.mem_cons_self
   · exact List.mem_cons_of_mem _ (hstock y hy hyp)
 · refine ⟨stock,fun y hy hyp => ?_,by omega⟩
   rcases List.mem_cons.mp hy with rfl | hy
   · exact absurd hyp hp
   · exact hstock y hy hyp

end Stock

/-! ### Specifiers of pieces -/

@[simp] def Piece.sites : Piece → List Site
 | expr e | argument e => e.sites
 | form f => f.sites
 | param q => q.sites
 | member m => m.type.sites
 | enumerator e => e.value.toList.flatMap Expr.constants
 | initializer i => i.sites
 | declaration d => d.sites
 | forInit i => i.sites
 | stmt s => s.sites

@[simp] lemma TypeExpr.sites_form (t:TypeExpr) : t.sites = t.form.sites := by
 cases t
 rfl

lemma Expr.sitesAll_eq (es:List Expr) :
  Expr.sitesAll es = (es.map .argument).flatMap Piece.sites :=
 Piece.collect_eq _ rfl (fun _ _ => rfl) es

lemma Param.sitesAll_eq (ps:List Param) :
  Param.sitesAll ps = (ps.map .param).flatMap Piece.sites :=
 Piece.collect_eq _ rfl (fun _ _ => rfl) ps

lemma Member.sitesAll_eq (ms:List Member) :
  Member.sitesAll ms = (ms.map .member).flatMap Piece.sites := by
 refine Piece.collect_eq _ rfl (fun m ms => ?_) ms
 cases m
 rfl

lemma Enumerator.sitesAll_eq (es:List Enumerator) :
  Enumerator.sitesAll es = (es.map .enumerator).flatMap Piece.sites := by
 refine Piece.collect_eq _ rfl (fun e es => ?_) es
 obtain ⟨name,value,span⟩:=e
 cases value with
 | none => rfl
 | some value =>
  rw [Enumerator.sitesAll,Piece.sites,Option.toList_some,List.flatMap_singleton]

lemma Initializer.sitesAll_eq (is:List Initializer) :
  Initializer.sitesAll is = (is.map .initializer).flatMap Piece.sites :=
 Piece.collect_eq _ rfl (fun _ _ => rfl) is

lemma Stmt.sitesAll_eq (ss:List Stmt) :
  Stmt.sitesAll ss = (ss.map .stmt).flatMap Piece.sites :=
 Piece.collect_eq _ rfl (fun _ _ => rfl) ss

lemma Piece.nodes_subset_children {x:Piece} (hx:x.isPlain = true) :
  nodesAll x.sites ⊆ nodesAll (x.children.flatMap sites) := by
 cases x with
 | expr e =>
  cases e with
  | call callee args span => cases hx
  | _ => simp [Expr.sites]
 | form f =>
  cases f with
  | record spec =>
   obtain ⟨kind,tag,members,span⟩:=spec
   cases members with
   | none => simp [TypeForm.sites,RecordSpec.sites]
   | some members => cases hx
  | enum spec =>
   obtain ⟨tag,items,span⟩:=spec
   cases items with
   | none => simp [TypeForm.sites,EnumSpec.sites]
   | some items => cases hx
  | array t size vla => cases size <;> simp [TypeForm.sites,nodesAll_singleton,Site.nodes]
  | _ => simp [TypeForm.sites,Param.sitesAll_eq]
 | declaration d => cases d <;> simp [Declaration.sites,TypeForm.sites,List.flatMap_map]
 | stmt s =>
  cases s with
  | ifElse e yes no span => cases no <;> simp [Stmt.sites]
  | _ => simp [Stmt.sites,Stmt.sitesAll_eq,List.flatMap_map]
 | argument e => simp
 | param q =>
  obtain ⟨name,⟨form,quals,s⟩,span⟩:=q
  cases form with
  | array t size vla => cases size <;> simp [Param.sites,TypeForm.sites]
  | _ => simp [Param.sites]
 | member m => simp
 | enumerator e => cases hvalue : e.value <;> simp [hvalue]
 | initializer i => cases i <;> simp [Initializer.sites,Initializer.sitesAll_eq]
 | forInit i => cases i <;> simp [ForInit.sites,List.flatMap_map]

lemma ProgramUnit.nodes_append (es fs:List External) :
  (ProgramUnit.mk (es ++ fs)).nodes ⊆ (ProgramUnit.mk es).nodes ++ (ProgramUnit.mk fs).nodes := by
 intro x hx
 simp only [nodes,fileSites,blockSites,List.flatMap_append,nodesAll_append,List.map_append,
  List.mem_append] at hx ⊢
 grind

/-- The specifiers of what stands at file scope are in stock, each with the kind of its scope. -/
abbrev Placed (p n:Nat) (es:List External) (m:Nat) : Prop :=
 Stock (fun x:Bool × Node => x.2.start) p n (ProgramUnit.mk es).nodes m

def specifierBooks (p:Nat) : Books p where
 Paid n xs m := Stock Node.start p n (nodesAll (xs.flatMap Piece.sites)) m
 Within xs ys := nodesAll (xs.flatMap Piece.sites) ⊆ nodesAll (ys.flatMap Piece.sites)
 nil h := .nil h
 append h h' := by
  rw [List.flatMap_append,nodesAll_append]
  exact h.append h'
 within h hxs := h.subset hxs
 of_sublist h := Site.nodesAll_subset (h.flatMap _).subset
 trans h h' := List.Subset.trans h h'
 both h h' := by
  simp only [List.flatMap_append,nodesAll_append]
  exact List.append_subset.mpr ⟨List.subset_append_of_subset_left _ h,
   List.subset_append_of_subset_right _ h'⟩
 swap xs ys := by
  simp only [List.flatMap_append,nodesAll_append]
  exact List.append_subset.mpr ⟨List.subset_append_right _ _,List.subset_append_left _ _⟩
 children hx := by
  rw [List.flatMap_singleton]
  exact Piece.nodes_subset_children hx
 head d := by simp [Declaration.sites]
 ident n i := .nil (Nat.le_add_right _ _)
 call last h := by
  refine (h.subset ?_).mono (Nat.le_add_right _ _)
  simp [Expr.sites,Expr.sitesAll_eq]
 record kind tag last h := by
  rw [← Member.sitesAll_eq] at h
  rw [List.flatMap_singleton,Piece.sites,TypeForm.sites,RecordSpec.sites,nodesAll_singleton,
   Site.nodes]
  exact h.cons rfl
 enum tag last h := by
  rw [← Enumerator.sitesAll_eq] at h
  rw [List.flatMap_singleton,Piece.sites,TypeForm.sites,EnumSpec.sites,nodesAll_singleton,
   Site.nodes]
  exact h.cons rfl
 labeled label span h := h.less (Nat.le_add_right _ _)
 share _ h hys hx := by
  refine (h.append hys).subset ?_
  simp only [List.flatMap_cons,List.flatMap_append,nodesAll_append] at hx ⊢
  intro y hy
  have hy':=@hx y
  simp only [List.mem_append] at hy hy' ⊢
  grind
 Whole := Placed p
 whole_nil h := .nil h
 whole_append h h' := (h.append h').subset (ProgramUnit.nodes_append _ _)
 whole_declarations {n m ds} h := by
  have hfile:(ProgramUnit.mk (ds.map .declaration)).fileSites =
    (ds.map .declaration).flatMap Piece.sites := by
   simp [ProgramUnit.fileSites,List.flatMap_map,External.fileSites]
  have hblock:(ProgramUnit.mk (ds.map .declaration)).blockSites = [] := by
   simp [ProgramUnit.blockSites,External.blockSites]
  rw [Placed,ProgramUnit.nodes,hfile,hblock,nodesAll,List.map_nil,List.append_nil]
  exact h.map fun _ => rfl
 whole_definition h h' := by
  rw [← Stmt.sitesAll_eq] at h'
  rw [List.flatMap_singleton,Piece.sites,← TypeExpr.sites_form] at h
  rw [Placed,ProgramUnit.nodes,ProgramUnit.fileSites,ProgramUnit.blockSites,
   List.flatMap_singleton,List.flatMap_singleton]
  exact (h.map (f := (false,·)) fun _ => rfl).append (h'.map (f := (true,·)) fun _ => rfl)

lemma eq_of_start_eq {source:String} {u:ProgramUnit} (h:parse source = .ok u)
  {x y:Bool × Node} (hx:x ∈ u.nodes) (hy:y ∈ u.nodes) (hstart:x.2.start = y.2.start) :
  x = y := by
 obtain ⟨ts,hts,hparse⟩:=tokens_of_parse h
 obtain ⟨m,hm,hplaced⟩:=(specifierBooks y.2.start).whole_of_parseTokens hparse
 have hone:=hplaced.paid.mono (Nat.le_trans hm (countP_start_le_one hts _))
 exact hone.eq_of_one hx hy hstart rfl

end CCheck
