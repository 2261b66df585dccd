import CCheck.Analysis
import Mathlib.Tactic.Lemma

/-! # Records that types refer to

The types that the rules of checking compute refer to records of their operands only. -/

set_option autoImplicit false

namespace CCheck

open Check

variable {a b elem v:CType} {f:Signature} {n:Bool} {name:String} {r:Registry}

mutual

def CType.recordIds : CType → List Nat
 | ⟨k,_⟩ => k.recordIds
termination_by structural t => t

def TypeKind.recordIds : TypeKind → List Nat
 | .pointer t => t.recordIds
 | .array t _ _ => t.recordIds
 | .function f => f.recordIds
 | .record id => [id]
 | _ => []

def Signature.recordIds : Signature → List Nat
 | ⟨ret,params,_,_⟩ => ret.recordIds ++ CType.recordIdsAll params

def CType.recordIdsAll : List CType → List Nat
 | [] => []
 | t :: ts => t.recordIds ++ CType.recordIdsAll ts

end

/-! ### Records of computed types -/

namespace CType

variable {t u:CType}

lemma recordIds_eq (t:CType) : t.recordIds = t.kind.recordIds := by
 cases t
 rfl

@[simp] lemma recordIds_qualify (t:CType) (q:Qualifiers) :
  (t.qualify q).recordIds = t.recordIds := by
 rw [recordIds_eq,recordIds_eq]
 rfl

@[simp] lemma recordIds_unqualified (t:CType) : t.unqualified.recordIds = t.recordIds := by
 rw [recordIds_eq,recordIds_eq]
 rfl

@[simp] lemma recordIds_decay (t:CType) : t.decay.recordIds = t.recordIds := by
 obtain ⟨k,q⟩:=t
 cases k <;> rfl

@[simp] lemma recordIds_value (t:CType) : t.value.recordIds = t.recordIds := by
 rw [value,recordIds_unqualified,recordIds_decay]

lemma recordIds_promote (t:CType) : t.promote.recordIds ⊆ t.recordIds := by
 have same:t.unqualified.recordIds ⊆ t.recordIds := by
  rw [recordIds_unqualified]
  exact List.Subset.refl _
 unfold promote
 split
 · exact List.nil_subset _
 · split
   · exact List.nil_subset _
   · exact same
 · exact same

lemma recordIds_commonInteger (r:IntRank) (s:Bool) (r':IntRank) (s':Bool) :
  (commonInteger r s r' s').recordIds = [] := by
 unfold commonInteger
 split
 · rfl
 · generalize (if s then (r',r) else (r,r')) = p
   dsimp only
   split
   · rfl
   · split <;> rfl

lemma recordIds_common (t u:CType) : (t.common u).recordIds = [] := by
 unfold common
 split
 · rfl
 · rfl
 · rfl
 · exact recordIds_commonInteger _ _ _ _

lemma recordIds_target? (h:t.target? = some u) : u.recordIds = t.recordIds := by
 obtain ⟨k,q⟩:=t
 cases k with
 | pointer v => cases h; rfl
 | _ => cases h

lemma recordIds_signature? (h:t.signature? = some f) :
  f.recordIds = t.recordIds := by
 obtain ⟨k,q⟩:=t
 cases k with
 | function g => cases h; rfl
 | _ => cases h

lemma recordIdsAll_eq (ts:List CType) : recordIdsAll ts = ts.flatMap recordIds := by
 induction ts with
 | nil => rfl
 | cons t ts ih => rw [recordIdsAll,ih,List.flatMap_cons]

lemma recordIds_conditional? {m:Bool} (h:t.conditional? u m n = some v) :
  v.recordIds ⊆ t.recordIds ++ u.recordIds := by
 have left:t.recordIds ⊆ t.recordIds ++ u.recordIds:=List.subset_append_left _ _
 have right:u.recordIds ⊆ t.recordIds ++ u.recordIds:=List.subset_append_right _ _
 unfold conditional? at h
 split at h
 · cases h
   rw [recordIds_common]
   exact List.nil_subset _
 · split at h
   · cases h; exact left
   · split at h
     · cases h; exact left
     · cases h
   · split at h
     · cases h; exact left
     · split at h
       · cases h; exact right
       · split at h
         · cases h; exact left
         · split at h
           · cases h; exact right
           · cases h
   · split at h
     · cases h; exact left
     · cases h
   · split at h
     · cases h; exact right
     · cases h
   · cases h

lemma recordIds_element? (h:t.element? u = some v) :
  v.recordIds ⊆ t.recordIds ++ u.recordIds := by
 unfold element? at h
 split at h
 · rename_i ht _
   split at h
   · cases h
     rw [recordIds_target? ht]
     exact List.subset_append_left _ _
   · cases h
 · rename_i _ hu
   split at h
   · cases h
     rw [recordIds_target? hu]
     exact List.subset_append_right _ _
   · cases h
 · cases h

end CType

namespace Signature

lemma recordIds_ret (f:Signature) : f.ret.recordIds ⊆ f.recordIds := by
 obtain ⟨ret,params,variadic,prototyped⟩:=f
 exact List.subset_append_left _ _

end Signature

lemma BinOp.recordIds_type? {op:BinOp} {t:CType} {m:Bool}
  (h:op.type? r a b m n = some t) : t.recordIds ⊆ a.recordIds ++ b.recordIds := by
 have left:a.recordIds ⊆ a.recordIds ++ b.recordIds:=List.subset_append_left _ _
 have right:b.recordIds ⊆ a.recordIds ++ b.recordIds:=List.subset_append_right _ _
 have common:(a.common b).recordIds ⊆ a.recordIds ++ b.recordIds := by
  rw [CType.recordIds_common]
  exact List.nil_subset _
 have basic:CType.int.recordIds ⊆ a.recordIds ++ b.recordIds:=List.nil_subset _
 have promoted:a.promote.recordIds ⊆ a.recordIds ++ b.recordIds:=
  List.Subset.trans (CType.recordIds_promote a) left
 unfold BinOp.type? at h
 dsimp only at h
 repeat' split at h
 all_goals first
  | cases h
    first | exact common | exact left | exact right | exact basic | exact promoted
     | exact List.nil_subset _
  | cases h

lemma UnaryOp.recordIds_type? {op:UnaryOp} {t u:CType}
  (h:op.type? r t = some u) : u.recordIds ⊆ t.recordIds := by
 unfold UnaryOp.type? at h
 repeat' split at h
 all_goals first
  | cases h
    first | exact CType.recordIds_promote t | exact List.Subset.refl _ | exact List.nil_subset _
  | cases h
  | rw [CType.recordIds_target? (Option.filter_eq_some_iff.mp h).1]
    exact List.Subset.refl _

lemma IntLiteral.recordIds_type (n:IntLiteral) : n.type.recordIds = [] := by
 unfold IntLiteral.type
 cases hfind : n.candidates.find? fun t => t.maxValue?.any (n.value.toNat ≤ ·) with
 | none => rfl
 | some t =>
  obtain ⟨r,-,ht⟩:=List.mem_flatMap.mp (List.mem_of_find?_eq_some hfind)
  rcases List.mem_append.mp ht with ht | ht
  · split at ht
    · cases ht
    · cases List.mem_singleton.mp ht
      rfl
  · split at ht
    · cases List.mem_singleton.mp ht
      rfl
    · cases ht

lemma Literal.recordIds_type (l:Literal) : l.type.recordIds = [] := by
 cases l with
 | int n s => exact n.recordIds_type
 | float x s =>
  obtain ⟨value,suffix⟩:=x
  cases suffix <;> rfl
 | char code s => rfl
 | string value s => rfl

lemma BaseType.recordIds_type (b:BaseType) : b.type.recordIds = [] := by
 cases b <;> rfl

lemma LibraryFunction.recordIds_type {f:LibraryFunction}
  (h:LibraryFunction.find? name = some f) : f.type.recordIds = [] := by
 have hall:LibraryFunction.all.all fun f => f.type.recordIds.isEmpty := by decide
 exact List.isEmpty_iff.mp (List.all_eq_true.mp hall f (List.mem_of_find?_eq_some h))

end CCheck
