import CCheck.Proofs.Checking.LibraryCalls

/-! # Labels in places of their own

A label is a token that is passed for it and for nothing else, so that no two labels of a program
start at one place. -/

set_option autoImplicit false

namespace CCheck

variable {p:Nat}

mutual

/-- The labels in a statement, in the order of the text. -/
def Stmt.labels : Stmt → List Ident
 | .compound ss _ => Stmt.labelsAll ss
 | .ifElse _ yes none _ => yes.labels
 | .ifElse _ yes (some no) _ => yes.labels ++ no.labels
 | .whileLoop _ body _ | .doLoop body _ _ | .forLoop _ _ _ body _ | .switch _ body _
 | .caseLabel _ body _ | .defaultLabel body _ => body.labels
 | .labeled label body _ => label :: body.labels
 | .decls .. | .expr .. | .breakJump _ | .continueJump _ | .returnJump .. | .gotoJump .. | .empty _ =>
  []
termination_by structural s => s

def Stmt.labelsAll : List Stmt → List Ident
 | [] => []
 | s :: ss => s.labels ++ Stmt.labelsAll ss

end

def External.labels : External → List Ident
 | .declaration _ => []
 | .definition _ body => Stmt.labelsAll body.stmts

def Ident.countAt (p:Nat) (is:List Ident) : Nat := is.countP (·.span.start == p)

lemma Ident.countAt_append (is js:List Ident) :
  countAt p (is ++ js) = countAt p is + countAt p js :=
 List.countP_append

lemma Ident.countAt_cons (i:Ident) (is:List Ident) :
  countAt p (i :: is) = countAt p is + i.span.credit p :=
 List.countP_cons

namespace Piece

@[simp] def labels : Piece → List Ident
 | stmt s => s.labels
 | _ => []

def labelsAt (p:Nat) (xs:List Piece) : Nat := Ident.countAt p (xs.flatMap labels)

lemma labelsAt_append (xs ys:List Piece) : labelsAt p (xs ++ ys) = labelsAt p xs + labelsAt p ys := by
 rw [labelsAt,List.flatMap_append,Ident.countAt_append]
 rfl

lemma labelsAll_eq (ss:List Stmt) : Stmt.labelsAll ss = (ss.map stmt).flatMap labels :=
 collect_eq _ rfl (fun _ _ => rfl) ss

lemma labelsAt_le_children {x:Piece} (hx:x.isPlain = true) :
  labelsAt p [x] ≤ labelsAt p x.children := by
 refine (List.Sublist.countP_le ?_ : Ident.countAt p _ ≤ Ident.countAt p _)
 rw [List.flatMap_singleton]
 cases x with
 | stmt s =>
  cases s with
  | labeled => cases hx
  | compound ss span =>
   rw [labels,Stmt.labels,labelsAll_eq]
   exact .refl _
  | ifElse e yes no span => cases no <;> simp [Stmt.labels]
  | forLoop init test step body span =>
   cases init <;> cases test <;> cases step <;> simp [Stmt.labels]
  | _ => simp [Stmt.labels]
 | _ => exact List.nil_sublist _

end Piece

open Piece (labelsAt labelsAt_append)

def labelBooks (p:Nat) : Books p where
 Paid n xs m := n + labelsAt p xs ≤ m
 Within xs ys := labelsAt p xs ≤ labelsAt p ys
 nil h := h
 append h h' := by
  rw [labelsAt_append]
  omega
 within h hxs := by omega
 of_sublist h := (h.flatMap Piece.labels).countP_le
 trans h h' := Nat.le_trans h h'
 both h h' := by
  rw [labelsAt_append,labelsAt_append]
  omega
 swap xs ys := by
  rw [labelsAt_append,labelsAt_append]
  omega
 children hx := Piece.labelsAt_le_children hx
 head _ := Nat.le_refl _
 ident n _ := Nat.le_add_right n _
 call _ h := Nat.le_add_right_of_le (Nat.le_of_add_right_le h)
 record _ _ _ h := Nat.le_add_right_of_le (Nat.le_of_add_right_le (Nat.le_of_add_right_le h))
 enum _ _ h := Nat.le_add_right_of_le (Nat.le_of_add_right_le (Nat.le_of_add_right_le h))
 labeled {n m s} label span h := by
  have hcount:labelsAt p [.stmt (.labeled label s span)] =
    labelsAt p [.stmt s] + label.span.credit p := Ident.countAt_cons label _
  omega
 share {n m k f xs ys x} _ h hys hx := by
  have hsplit:=labelsAt_append (p := p) xs [x]
  have hxs:labelsAt p (.form f :: xs) = labelsAt p xs := rfl
  have hys':labelsAt p (.form f :: ys) = labelsAt p ys := rfl
  have hall:labelsAt p (.form f :: (xs ++ [x])) = labelsAt p (xs ++ [x]) := rfl
  omega
 Whole n es m := n + Ident.countAt p (es.flatMap External.labels) ≤ m
 whole_nil h := h
 whole_append h h' := by
  rw [List.flatMap_append,Ident.countAt_append]
  omega
 whole_declarations {n m ds} h := by
  have hnone:(ds.map External.declaration).flatMap External.labels = [] := by
   simp [List.flatMap_map,External.labels]
  rw [hnone]
  exact Nat.le_of_add_right_le h
 whole_definition h h' := by
  rw [List.flatMap_singleton,External.labels,Piece.labelsAll_eq]
  exact Nat.le_trans (Nat.add_le_add_right (Nat.le_of_add_right_le h) _) h'

lemma nodup_labels_of_parse {source:String} {u:ProgramUnit} (h:parse source = .ok u) :
  ((u.externals.flatMap External.labels).map (·.span.start)).Nodup := by
 refine List.nodup_iff_count_le_one.mpr fun p => ?_
 obtain ⟨ts,hts,hparse⟩:=tokens_of_parse h
 obtain ⟨m,hm,hpaid⟩:=(labelBooks p).whole_of_parseTokens hparse
 have hcount:0 + Ident.countAt p (u.externals.flatMap External.labels) ≤ m:=hpaid.paid
 have hone:=countP_start_le_one hts p
 rw [List.count,List.countP_map]
 rw [Nat.zero_add] at hcount
 exact Nat.le_trans hcount (Nat.le_trans hm hone)

end CCheck
