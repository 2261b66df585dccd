import CCheck.Proofs.Records.Sizes
import Mathlib.Data.List.Induction

/-! # The layout of records

Whatever records are declared and completed, in whatever order, every complete one is laid
out as it should be: its members stand in order without gaps that alignment does not ask for,
and its size is that of an exact layout, which was not too large for an object. -/

set_option autoImplicit false

namespace CCheck

variable {d:RecordDef} {id:Nat} {members:List (String × CType)} {p:Registry.Placement} {type:CType}

namespace Registry

variable {r:Registry} {kind:RecordKind} {fields:List Field}

/-! ### What a layout is -/

def fieldSize (r:Registry) (f:Field) : Nat := (r.sizeOf? f.type).getD 0

def fieldAlign (r:Registry) (f:Field) : Nat := (r.alignOf? f.type).getD 1

def fieldEnd (r:Registry) (f:Field) : Nat := f.offset + r.fieldSize f

def lastEnd (r:Registry) (fields:List Field) : Nat :=
 (fields.getLast?.map r.fieldEnd).getD 0

def largestSize (r:Registry) (fields:List Field) : Nat :=
 (fields.map r.fieldSize).foldl max 0

def largestAlign (r:Registry) (fields:List Field) : Nat :=
 (fields.map r.fieldAlign).foldl max 1

def extentOf (r:Registry) (kind:RecordKind) (fields:List Field) : Nat :=
 match kind with
 | .struct => r.lastEnd fields
 | .union => r.largestSize fields

/-- Every field has a size. In a struct it stands at the first multiple of its alignment from
the end of the field before it on, in a union at the start. -/
structure Arranged (r:Registry) (kind:RecordKind) (fields:List Field) : Prop where
 sized : ∀ f ∈ fields, ∃ n, r.sizeOf? f.type = some n
 struct : kind = .struct → ∀ before f after, fields = before ++ f :: after →
  IsLeast {n | r.fieldAlign f ∣ n ∧ r.lastEnd before ≤ n} f.offset
 union : kind = .union → ∀ f ∈ fields, f.offset = 0

structure LaidOut (r:Registry) (d:RecordDef) (fields:List Field) : Prop where
 arranged : r.Arranged d.kind fields
 align_eq : d.align = r.largestAlign fields
 isPowerOfTwo_align : d.align.isPowerOfTwo
 first : d.kind = .struct → ∀ f ∈ fields.head?, f.offset = 0
 disjoint : d.kind = .struct → fields.Pairwise fun f g => r.fieldEnd f ≤ g.offset
 size_isLeast : IsLeast {n | d.align ∣ n ∧ r.extentOf d.kind fields ≤ n} d.size
 inside : ∀ f ∈ fields, r.fieldEnd f ≤ d.size
 size_le : d.size ≤ maxObjectSize

lemma lastEnd_concat (r:Registry) (fields:List Field) (f:Field) :
  r.lastEnd (fields ++ [f]) = r.fieldEnd f := by
 simp [lastEnd]

lemma largestSize_concat (r:Registry) (fields:List Field) (f:Field) :
  r.largestSize (fields ++ [f]) = max (r.largestSize fields) (r.fieldSize f) := by
 simp [largestSize]

lemma largestAlign_concat (r:Registry) (fields:List Field) (f:Field) :
  r.largestAlign (fields ++ [f]) = max (r.largestAlign fields) (r.fieldAlign f) := by
 simp [largestAlign]

lemma fieldSize_le_largestSize {f:Field} (hf:f ∈ fields) :
  r.fieldSize f ≤ r.largestSize fields := by
 induction fields using List.reverseRecOn with
 | nil => cases hf
 | append_singleton fields g ih =>
  rw [largestSize_concat]
  obtain hf | hf:=List.mem_append.mp hf
  · exact (ih hf).trans (Nat.le_max_left _ _)
  · rw [List.mem_singleton.mp hf]
    exact Nat.le_max_right _ _

namespace Arranged

lemma init {f:Field} (h:r.Arranged kind (fields ++ [f])) : r.Arranged kind fields where
 sized g hg := h.sized g (List.mem_append_left _ hg)
 struct hkind before g after heq := by
  refine h.struct hkind before g (after ++ [f]) ?_
  rw [heq,List.append_assoc,List.cons_append]
 union hkind g hg := h.union hkind g (List.mem_append_left _ hg)

lemma concat {f:Field} (h:r.Arranged kind fields) (hf:∃ n, r.sizeOf? f.type = some n)
  (hstruct:kind = .struct →
   IsLeast {n | r.fieldAlign f ∣ n ∧ r.lastEnd fields ≤ n} f.offset)
  (hunion:kind = .union → f.offset = 0) : r.Arranged kind (fields ++ [f]) where
 sized g hg := by
  obtain hg | hg:=List.mem_append.mp hg
  · exact h.sized g hg
  · rw [List.mem_singleton.mp hg]
    exact hf
 struct hkind before g after heq := by
  obtain rfl | ⟨after,x,rfl⟩:=List.eq_nil_or_concat after
  · obtain ⟨rfl,hlast⟩:=List.append_inj' heq rfl
    rw [← List.singleton_inj.mp hlast]
    exact hstruct hkind
  · rw [List.concat_eq_append,← List.cons_append,← List.append_assoc] at heq
    exact h.struct hkind before g after (List.append_inj' heq rfl).1
 union hkind g hg := by
  obtain hg | hg:=List.mem_append.mp hg
  · exact h.union hkind g hg
  · rw [List.mem_singleton.mp hg]
    exact hunion hkind

lemma lastEnd_le {f:Field} (h:r.Arranged .struct (fields ++ [f])) :
  r.lastEnd fields ≤ f.offset :=
 (h.struct rfl fields f [] rfl).1.2

lemma fieldEnd_le_lastEnd (h:r.Arranged .struct fields) {f:Field} (hf:f ∈ fields) :
  r.fieldEnd f ≤ r.lastEnd fields := by
 induction fields using List.reverseRecOn with
 | nil => cases hf
 | append_singleton fields g ih =>
  rw [lastEnd_concat]
  obtain hf | hf:=List.mem_append.mp hf
  · have hend:=ih h.init hf
    have hoffset:=h.lastEnd_le
    unfold fieldEnd at hend ⊢
    omega
  · rw [List.mem_singleton.mp hf]

lemma pairwise (h:r.Arranged .struct fields) :
  fields.Pairwise fun f g => r.fieldEnd f ≤ g.offset := by
 induction fields using List.reverseRecOn with
 | nil => exact .nil
 | append_singleton fields g ih =>
  refine List.pairwise_append.mpr ⟨ih h.init,List.pairwise_singleton _ _,?_⟩
  intro f hf g' hg'
  rw [List.mem_singleton.mp hg']
  exact (h.init.fieldEnd_le_lastEnd hf).trans h.lastEnd_le

lemma offset_eq_zero {f:Field} (h:r.Arranged .struct (f :: fields)) : f.offset = 0 :=
 Nat.le_zero.mp ((h.struct rfl [] f fields rfl).2 ⟨Nat.dvd_zero _,Nat.le_refl 0⟩)

lemma fieldEnd_le (h:r.Arranged kind fields) {f:Field} (hf:f ∈ fields) :
  r.fieldEnd f ≤ r.extentOf kind fields := by
 cases kind with
 | struct => exact h.fieldEnd_le_lastEnd hf
 | union =>
  calc r.fieldEnd f = r.fieldSize f := by
        unfold fieldEnd
        rw [h.union rfl f hf,Nat.zero_add]
    _ ≤ r.largestSize fields := fieldSize_le_largestSize hf

end Arranged

lemma Arranged.laidOut (h:r.Arranged d.kind fields)
  (halign:d.align = r.largestAlign fields) (hdvd:d.align ∣ 16)
  (hsize:d.size = roundUp (r.extentOf d.kind fields) d.align)
  (hle:d.size ≤ maxObjectSize) : r.LaidOut d fields := by
 have hpos:0 < d.align:=Nat.pos_of_dvd_of_pos hdvd (by decide)
 have hextent:r.extentOf d.kind fields ≤ d.size := by
  rw [hsize]
  exact le_roundUp _ hpos
 have hpow:d.align.isPowerOfTwo := by
  obtain ⟨k,-,hk⟩:=(Nat.dvd_prime_pow Nat.prime_two (m := 4)).mp hdvd
  exact ⟨k,hk⟩
 have hleast:=isLeast_roundUp (r.extentOf d.kind fields) hpos
 rw [← hsize] at hleast
 exact
  { arranged := h
    align_eq := halign
    isPowerOfTwo_align := hpow
    first := by
     intro hkind f hf
     rw [hkind] at h
     cases fields with
     | nil => cases hf
     | cons g fields =>
      obtain rfl:=Option.some.inj hf
      exact h.offset_eq_zero
    disjoint := by
     intro hkind
     rw [hkind] at h
     exact h.pairwise
    size_isLeast := hleast
    inside := fun f hf => (h.fieldEnd_le hf).trans hextent
    size_le := hle }

/-! ### Later registries -/

section Later

variable {r':Registry} (hr:r'.Extends r)

include hr

lemma Extends.fieldSize {f:Field} (h:∃ n, r.sizeOf? f.type = some n) :
  r'.fieldSize f = r.fieldSize f := by
 obtain ⟨n,hn⟩:=h
 unfold Registry.fieldSize
 rw [hn,hr.sizeOf? hn]

lemma Extends.fieldAlign {f:Field} (h:∃ n, r.sizeOf? f.type = some n) :
  r'.fieldAlign f = r.fieldAlign f := by
 obtain ⟨n,hn⟩:=h
 obtain ⟨a,ha⟩:=exists_alignOf? hn
 unfold Registry.fieldAlign
 rw [ha,hr.alignOf? ha]

lemma Extends.fieldEnd {f:Field} (h:∃ n, r.sizeOf? f.type = some n) :
  r'.fieldEnd f = r.fieldEnd f :=
 congrArg (f.offset + ·) (hr.fieldSize h)

lemma Extends.lastEnd (h:∀ f ∈ fields, ∃ n, r.sizeOf? f.type = some n) :
  r'.lastEnd fields = r.lastEnd fields := by
 unfold Registry.lastEnd
 cases hlast : fields.getLast? with
 | none => rfl
 | some f =>
  have hf:=h f (List.mem_of_getLast? hlast)
  rw [Option.map_some,Option.map_some,hr.fieldEnd hf]

lemma Extends.largestAlign (h:∀ f ∈ fields, ∃ n, r.sizeOf? f.type = some n) :
  r'.largestAlign fields = r.largestAlign fields := by
 unfold Registry.largestAlign
 rw [List.map_congr_left fun f hf => hr.fieldAlign (h f hf)]

lemma Extends.extentOf (h:∀ f ∈ fields, ∃ n, r.sizeOf? f.type = some n) :
  r'.extentOf kind fields = r.extentOf kind fields := by
 cases kind with
 | struct => exact hr.lastEnd h
 | union =>
  show r'.largestSize fields = r.largestSize fields
  unfold Registry.largestSize
  rw [List.map_congr_left fun f hf => hr.fieldSize (h f hf)]

lemma Arranged.later (h:r.Arranged kind fields) : r'.Arranged kind fields where
 sized f hf := by
  obtain ⟨n,hn⟩:=h.sized f hf
  exact ⟨n,hr.sizeOf? hn⟩
 struct hkind before f after heq := by
  have hsized (g:Field) (hg:g ∈ before) : ∃ n, r.sizeOf? g.type = some n:=
   h.sized g (heq ▸ List.mem_append_left _ hg)
  rw [hr.lastEnd hsized,hr.fieldAlign (h.sized f (by simp [heq]))]
  exact h.struct hkind before f after heq
 union := h.union

lemma LaidOut.later (h:r.LaidOut d fields) : r'.LaidOut d fields := by
 have hsized:=h.arranged.sized
 exact
  { h with
    arranged := h.arranged.later hr
    align_eq := by rw [hr.largestAlign hsized,h.align_eq]
    disjoint := by
     intro hkind
     refine (h.disjoint hkind).imp_of_mem fun hf _ hend => ?_
     rw [hr.fieldEnd (hsized _ hf)]
     exact hend
    size_isLeast := by
     rw [hr.extentOf hsized]
     exact h.size_isLeast
    inside := by
     intro f hf
     rw [hr.fieldEnd (hsized f hf)]
     exact h.inside f hf }

end Later

/-! ### Layouts without a limit -/

def Placement.add (p:Placement) (kind:RecordKind) (name:String) (type:CType)
  (size align:Nat) : Placement :=
 match kind with
 | .struct =>
  ⟨p.fields ++ [⟨name,type,roundUp p.stop align⟩],roundUp p.stop align + size,p.widest,
   max p.align align⟩
 | .union => ⟨p.fields ++ [⟨name,type,0⟩],p.stop,max p.widest size,max p.align align⟩

def addMember (r:Registry) (kind:RecordKind) (p:Placement) (m:String × CType) :
  Placement :=
 p.add kind m.1 m.2 ((r.exactSize? m.2).getD 0) ((r.alignOf? m.2).getD 1)

def exactLayout (r:Registry) (kind:RecordKind) (members:List (String × CType)) :
  Placement :=
 members.foldl (r.addMember kind) .start

def exactRecordSize (r:Registry) (kind:RecordKind) (members:List (String × CType)) : Nat :=
 roundUp ((r.exactLayout kind members).extent kind) (r.exactLayout kind members).align

structure Placement.Right (r:Registry) (kind:RecordKind) (p:Placement) : Prop where
 arranged : r.Arranged kind p.fields
 extent_eq : p.extent kind = r.extentOf kind p.fields
 align_eq : p.align = r.largestAlign p.fields
 align_dvd : p.align ∣ 16

lemma Placement.right_start (r:Registry) (kind:RecordKind) :
  Placement.start.Right r kind where
 arranged := ⟨by simp [start],by simp [start],by simp [start]⟩
 extent_eq := by cases kind <;> rfl
 align_eq := rfl
 align_dvd := by decide

lemma Placement.Right.addMember (hr:r.Bounded) (hp:p.Right r kind)
  {m:String × CType} (hm:∃ n, r.sizeOf? m.2 = some n) :
  (r.addMember kind p m).Right r kind := by
 obtain ⟨name,type⟩:=m
 obtain ⟨n,hn⟩:=hm
 obtain ⟨a,ha⟩:=exists_alignOf? hn
 have hdvd:=hr.alignOf?_dvd ha
 have hpos:0 < a:=Nat.pos_of_dvd_of_pos hdvd (by decide)
 have hmax:max p.align a ∣ 16 := by
  rw [Nat.max_def]
  split
  · exact hdvd
  · exact hp.align_dvd
 have hsize (offset:Nat) : r.fieldSize ⟨name,type,offset⟩ = n := by simp [fieldSize,hn]
 have halign (offset:Nat) : r.fieldAlign ⟨name,type,offset⟩ = a := by simp [fieldAlign,ha]
 unfold Registry.addMember
 rw [(sizeOf?_eq_some_iff.mp hn).1,ha,Option.getD_some,Option.getD_some]
 cases kind with
 | struct =>
  have hstop:p.stop = r.lastEnd p.fields:=hp.extent_eq
  refine ⟨hp.arranged.concat ⟨n,hn⟩ (fun _ => ?_) (fun h => nomatch h),?_,?_,hmax⟩
  · rw [halign,← hstop]
    exact isLeast_roundUp p.stop hpos
  · show roundUp p.stop a + n = r.lastEnd (p.fields ++ [⟨name,type,roundUp p.stop a⟩])
    rw [lastEnd_concat,fieldEnd,hsize]
  · show max p.align a = r.largestAlign (p.fields ++ [⟨name,type,roundUp p.stop a⟩])
    rw [largestAlign_concat,halign,hp.align_eq]
 | union =>
  have hwidest:p.widest = r.largestSize p.fields:=hp.extent_eq
  refine ⟨hp.arranged.concat ⟨n,hn⟩ (fun h => nomatch h) (fun _ => rfl),?_,?_,hmax⟩
  · show max p.widest n = r.largestSize (p.fields ++ [⟨name,type,0⟩])
    rw [largestSize_concat,hsize,hwidest]
  · show max p.align a = r.largestAlign (p.fields ++ [⟨name,type,0⟩])
    rw [largestAlign_concat,halign,hp.align_eq]

lemma Placement.right_exactLayout (hr:r.Bounded)
  (hmembers:∀ m ∈ members, ∃ n, r.sizeOf? m.2 = some n) :
  (r.exactLayout kind members).Right r kind := by
 induction members using List.reverseRecOn with
 | nil => exact Placement.right_start r kind
 | append_singleton members m ih =>
  have hright:=ih fun x hx => hmembers x (List.mem_append_left _ hx)
  unfold exactLayout at hright ⊢
  rw [List.foldl_append,List.foldl_cons,List.foldl_nil]
  exact hright.addMember hr (hmembers m (by simp))

lemma place_eq (hr:r.Bounded) (hp:p.extent kind ≤ maxObjectSize)
  {name:String} {n:Nat} (hn:r.sizeOf? type = some n) :
  r.place kind p name type =
   if (r.addMember kind p (name,type)).extent kind ≤ maxObjectSize
   then .ok (r.addMember kind p (name,type)) else .error .tooLarge := by
 obtain ⟨a,ha⟩:=exists_alignOf? hn
 have hdvd:=hr.alignOf?_dvd ha
 have hpos:0 < a:=Nat.pos_of_dvd_of_pos hdvd (by decide)
 have hle:a ≤ 16:=Nat.le_of_dvd (by decide) hdvd
 unfold place addMember
 rw [hn,(sizeOf?_eq_some_iff.mp hn).1,ha]
 cases kind with
 | struct =>
  have hword:p.stop + (a - 1) < UInt64.size := by
   have hstop:p.stop ≤ maxObjectSize:=hp
   unfold maxObjectSize at hstop
   unfold UInt64.size
   omega
  dsimp only [Option.getD_some]
  rw [alignUp?_eq hpos hword]
  by_cases hfits : (p.add .struct name type n a).extent .struct ≤ maxObjectSize
  · have hobject:objectSize? (roundUp p.stop a + n) = some (roundUp p.stop a + n):=
     objectSize?_eq_some.mpr ⟨rfl,hfits⟩
    dsimp only
    rw [hobject,if_pos hfits]
    rfl
  · have hobject:objectSize? (roundUp p.stop a + n) = none:=if_neg hfits
    dsimp only
    rw [hobject,if_neg hfits]
 | union =>
  have hfits:(p.add .union name type n a).extent .union ≤ maxObjectSize:=
   Nat.max_le.mpr ⟨hp,hr.sizeOf?_le hn⟩
  dsimp only [Option.getD_some]
  rw [if_pos hfits]
  rfl

lemma place_unsized (p:Placement) (name:String)
  (h:r.sizeOf? type = none) :
  r.place kind p name type = .error (.incompleteMember name) := by
 unfold place
 rw [h]

lemma extent_le_addMember (hr:r.Bounded) (p:Placement) (m:String × CType) :
  p.extent kind ≤ (r.addMember kind p m).extent kind := by
 cases kind with
 | struct =>
  have hround:=le_roundUp p.stop (hr.align_pos m.2)
  show p.stop ≤ roundUp p.stop ((r.alignOf? m.2).getD 1) + (r.exactSize? m.2).getD 0
  omega
 | union => exact Nat.le_max_left _ _

lemma extent_le_foldl (hr:r.Bounded) (p:Placement) (members:List (String × CType)) :
  p.extent kind ≤ (members.foldl (r.addMember kind) p).extent kind := by
 induction members generalizing p with
 | nil => exact Nat.le_refl _
 | cons m members ih => exact (extent_le_addMember hr p m).trans (ih _)

lemma placeAll_eq_ok_iff (hr:r.Bounded) {p':Placement}
  (hp:p.extent kind ≤ maxObjectSize) :
  r.placeAll kind p members = .ok p' ↔
   (∀ m ∈ members, ∃ n, r.sizeOf? m.2 = some n) ∧
    (members.foldl (r.addMember kind) p).extent kind ≤ maxObjectSize ∧
    p' = members.foldl (r.addMember kind) p := by
 induction members generalizing p with
 | nil =>
  unfold placeAll
  simp [hp,eq_comm]
 | cons m members ih =>
  obtain ⟨name,type⟩:=m
  unfold placeAll
  cases hsize : r.sizeOf? type with
  | none =>
   rw [place_unsized p name hsize]
   simp [hsize]
  | some n =>
   rw [place_eq hr hp hsize,List.foldl_cons]
   by_cases hfits : (r.addMember kind p (name,type)).extent kind ≤ maxObjectSize
   · rw [if_pos hfits]
     simp [hsize,ih hfits]
   · -- a record that is too large stays so
     rw [if_neg hfits]
     constructor
     · intro h
       cases h
     · rintro ⟨-,hle,-⟩
       exact absurd ((extent_le_foldl hr _ members).trans hle) hfits

lemma exactLayout_fields (r:Registry) (kind:RecordKind) (members:List (String × CType)) :
  (r.exactLayout kind members).fields.map (fun f => (f.name,f.type)) = members := by
 induction members using List.reverseRecOn with
 | nil => rfl
 | append_singleton members m ih =>
  unfold exactLayout at ih ⊢
  rw [List.foldl_append,List.foldl_cons,List.foldl_nil]
  cases kind <;> simp [addMember,Placement.add,ih]

/-! ### Completing records -/

def completed (r:Registry) (d:RecordDef) (members:List (String × CType)) : RecordDef :=
 { d with
   fields := some (r.exactLayout d.kind members).fields
   size := r.exactRecordSize d.kind members
   align := (r.exactLayout d.kind members).align }

lemma Placement.Right.align_pos (hp:p.Right r kind) : 0 < p.align :=
 Nat.pos_of_dvd_of_pos hp.align_dvd (by decide)

lemma Placement.Right.word (hp:p.Right r kind)
  (hle:p.extent kind ≤ maxObjectSize) : p.extent kind + (p.align - 1) < UInt64.size := by
 have halign:p.align ≤ 16:=Nat.le_of_dvd (by decide) hp.align_dvd
 unfold maxObjectSize at hle
 unfold UInt64.size
 omega

lemma exactRecordSize_eq (hr:r.Bounded)
  (hmembers:∀ m ∈ members, ∃ n, r.sizeOf? m.2 = some n)
  (hle:(r.exactLayout kind members).extent kind ≤ maxObjectSize) :
  alignUp? ((r.exactLayout kind members).extent kind) (r.exactLayout kind members).align =
   some (r.exactRecordSize kind members) := by
 have hright:(r.exactLayout kind members).Right r kind:=
  Placement.right_exactLayout hr hmembers
 exact alignUp?_eq hright.align_pos (hright.word hle)

lemma extent_le_exactRecordSize (hr:r.Bounded)
  (hmembers:∀ m ∈ members, ∃ n, r.sizeOf? m.2 = some n) :
  (r.exactLayout kind members).extent kind ≤ r.exactRecordSize kind members :=
 le_roundUp _ (Placement.right_exactLayout hr hmembers).align_pos

lemma placeAll_start_iff (hr:r.Bounded) :
  r.placeAll kind .start members = .ok p ↔
   (∀ m ∈ members, ∃ n, r.sizeOf? m.2 = some n) ∧
    (r.exactLayout kind members).extent kind ≤ maxObjectSize ∧
    p = r.exactLayout kind members :=
 placeAll_eq_ok_iff hr (by cases kind <;> exact Nat.zero_le _)

lemma complete_eq_ok_iff (hr:r.Bounded)
  {r':Registry} :
  r.complete id members = .ok r' ↔
   ∃ d, r.get? id = some d ∧ d.isComplete = false ∧
    (∀ m ∈ members, ∃ n, r.sizeOf? m.2 = some n) ∧
    r.exactRecordSize d.kind members ≤ maxObjectSize ∧
    r' = ⟨r.records.set id (r.completed d members)⟩ := by
 unfold complete
 cases hget : r.get? id with
 | none => simp
 | some d =>
  simp only [Option.some.injEq,exists_eq_left']
  by_cases hcomplete : d.isComplete = true
  · simp [hcomplete]
  · rw [if_neg hcomplete]
    cases hplace : r.placeAll d.kind .start members with
    | error e =>
     -- nothing but a missing size or a too large extent stops the placing
     constructor
     · intro h
       cases h
     · rintro ⟨-,hmembers,hsize,-⟩
       have hle:=(extent_le_exactRecordSize hr hmembers).trans hsize
       rw [(placeAll_start_iff hr).mpr ⟨hmembers,hle,rfl⟩] at hplace
       cases hplace
    | ok p =>
     obtain ⟨hmembers,hle,rfl⟩:=(placeAll_start_iff hr).mp hplace
     dsimp only
     rw [exactRecordSize_eq hr hmembers hle,Option.bind_some]
     by_cases hsize : r.exactRecordSize d.kind members ≤ maxObjectSize
     · rw [objectSize?_eq_some.mpr ⟨rfl,hsize⟩]
       constructor
       · intro h
         exact ⟨Bool.eq_false_iff.mpr hcomplete,hmembers,hsize,(Except.ok.inj h).symm⟩
       · rintro ⟨-,-,-,rfl⟩
         rfl
     · have hobject:objectSize? (r.exactRecordSize d.kind members) = none:=if_neg hsize
       rw [hobject]
       simp [hsize]

/-! ### Reachable registries -/

inductive Reachable : Registry → Prop where
 | empty : Reachable .empty
 | declare {r:Registry} (kind:RecordKind) (tag:Option String) (h:Reachable r) :
    Reachable (r.declare kind tag).2
 | complete {r r':Registry} (id:Nat) (members:List (String × CType)) (h:Reachable r)
    (hr:r.complete id members = .ok r') : Reachable r'

lemma get?_declare {tag:Option String}
  (h:(r.declare kind tag).2.get? id = some d) :
  r.get? id = some d ∨ d = ⟨kind,tag,none,0,1⟩ := by
 unfold get? declare at h
 rw [List.getElem?_append] at h
 split at h
 · exact .inl h
 · exact .inr (List.mem_singleton.mp (List.mem_of_getElem? h))

lemma get?_set {id':Nat} {d':RecordDef}
  (h:(Registry.mk (r.records.set id d')).get? id' = some d) :
  r.get? id' = some d ∧ id' ≠ id ∨ id' = id ∧ d = d' := by
 unfold get? at h
 rw [List.getElem?_set] at h
 split at h
 · rename_i hid
   split at h
   · exact .inr ⟨hid.symm,(Option.some.inj h).symm⟩
   · cases h
 · rename_i hid
   exact .inl ⟨h,fun heq => hid heq.symm⟩

lemma extends_declare (r:Registry) (kind:RecordKind) (tag:Option String) :
  (r.declare kind tag).2.Extends r := by
 intro id d hd _
 exact (List.getElem?_append_left (List.getElem?_eq_some_iff.mp hd).1).trans hd

lemma extends_set (hd:r.get? id = some d)
  (hcomplete:d.isComplete = false) (new:RecordDef) :
  Extends ⟨r.records.set id new⟩ r := by
 intro id' d' hd' hcomplete'
 have hne:id ≠ id' := by
  rintro rfl
  rw [hd] at hd'
  rw [Option.some.inj hd',hcomplete'] at hcomplete
  cases hcomplete
 exact (List.getElem?_set_ne hne).trans hd'

lemma Bounded.laidOut_completed (hr:r.Bounded)
  (hmembers:∀ m ∈ members, ∃ n, r.sizeOf? m.2 = some n)
  (hsize:r.exactRecordSize d.kind members ≤ maxObjectSize) :
  r.LaidOut (r.completed d members) (r.exactLayout d.kind members).fields := by
 have hright:(r.exactLayout d.kind members).Right r d.kind:=
  Placement.right_exactLayout hr hmembers
 refine Arranged.laidOut hright.arranged hright.align_eq hright.align_dvd ?_ hsize
 show roundUp _ _ = roundUp _ _
 rw [hright.extent_eq]
 rfl

namespace Reachable

lemma bounded (h:r.Reachable) : r.Bounded := by
 induction h with
 | empty =>
  intro id d hd
  cases hd
 | declare kind tag _ ih =>
  intro id d hd hcomplete
  obtain hd | rfl:=get?_declare hd
  · exact ih id d hd hcomplete
  · cases hcomplete
 | complete id members _ hr ih =>
  obtain ⟨d,hd,hcomplete,hmembers,hsize,rfl⟩:=(complete_eq_ok_iff ih).mp hr
  intro id' d' hd' hcomplete'
  obtain ⟨hd',-⟩ | ⟨-,rfl⟩:=get?_set hd'
  · exact ih id' d' hd' hcomplete'
  · exact ⟨(Placement.right_exactLayout ih hmembers).align_dvd,dvd_roundUp _ _,hsize⟩

lemma laidOut (h:r.Reachable) (hd:r.get? id = some d)
  (hfields:d.fields = some fields) : r.LaidOut d fields := by
 induction h generalizing id d fields with
 | empty => cases hd
 | declare kind tag _ ih =>
  obtain hd | rfl:=get?_declare hd
  · exact (ih hd hfields).later (extends_declare _ kind tag)
  · cases hfields
 | complete id' members h hr ih =>
  obtain ⟨d',hd',hcomplete,hmembers,hsize,rfl⟩:=(complete_eq_ok_iff h.bounded).mp hr
  have hextends:=extends_set hd' hcomplete
  obtain ⟨hd,-⟩ | ⟨-,rfl⟩:=get?_set hd
  · exact (ih hd hfields).later (hextends _)
  · obtain rfl:=Option.some.inj hfields
    exact (h.bounded.laidOut_completed hmembers hsize).later (hextends _)

end Reachable

/-- What holds of the records of a registry, of the sizes of types, and of the numbers that
come up while a record is laid out. -/
structure Consistent (r:Registry) : Prop where
 laidOut : ∀ id d fields, r.get? id = some d → d.fields = some fields → r.LaidOut d fields
 size_exact : ∀ t n, r.sizeOf? t = some n → r.exactSize? t = some n ∧ n ≤ maxObjectSize
 offset_fits : ∀ members p t n a, r.placeAll .struct .start members = .ok p →
  r.sizeOf? t = some n → r.alignOf? t = some a →
  p.stop + (a - 1) < UInt64.size ∧ roundUp p.stop a + n < UInt64.size
 size_fits : ∀ kind members p, r.placeAll kind .start members = .ok p →
  p.extent kind + (p.align - 1) < UInt64.size
 /-- It is an error to complete a record that is unknown or complete, that has a member
 without a size, or whose exact size or that of an array in it is too large; and no other. -/
 complete_iff : ∀ id members, (∃ r', r.complete id members = .ok r') ↔
  ∃ d, r.get? id = some d ∧ d.isComplete = false ∧
   (∀ m ∈ members, (∃ n, r.exactSize? m.2 = some n) ∧ r.Fits m.2) ∧
   r.exactRecordSize d.kind members ≤ maxObjectSize
 stored : ∀ id members r', r.complete id members = .ok r' → ∃ d fields,
  r'.get? id = some d ∧ d.fields = some fields ∧
   fields.map (fun f => (f.name,f.type)) = members

lemma sized_iff :
  (∀ m ∈ members, ∃ n, r.sizeOf? m.2 = some n) ↔
   ∀ m ∈ members, (∃ n, r.exactSize? m.2 = some n) ∧ r.Fits m.2 := by
 simp only [sizeOf?_eq_some_iff,exists_and_right]

lemma Bounded.offset_fits (hr:r.Bounded)
  (hp:r.placeAll .struct .start members = .ok p) {t:CType} {n a:Nat}
  (hn:r.sizeOf? t = some n) (ha:r.alignOf? t = some a) :
  p.stop + (a - 1) < UInt64.size ∧ roundUp p.stop a + n < UInt64.size := by
 obtain ⟨-,hle,rfl⟩:=(placeAll_start_iff hr).mp hp
 have hbounds:=hr.bounds hn ha
 refine ⟨?_,roundUp_add_lt hle hbounds⟩
 have halign:=Nat.le_of_dvd (by decide) hbounds.align_dvd
 have hstop:(r.exactLayout .struct members).stop ≤ 0x7fffffffffffffff:=hle
 unfold UInt64.size
 omega

lemma Bounded.size_fits (hr:r.Bounded)
  (hp:r.placeAll kind .start members = .ok p) :
  p.extent kind + (p.align - 1) < UInt64.size := by
 obtain ⟨hmembers,hle,rfl⟩:=(placeAll_start_iff hr).mp hp
 exact (Placement.right_exactLayout hr hmembers).word hle

lemma Bounded.stored (hr:r.Bounded)
  {r':Registry} (h:r.complete id members = .ok r') :
  ∃ d fields, r'.get? id = some d ∧ d.fields = some fields ∧
   fields.map (fun f => (f.name,f.type)) = members := by
 obtain ⟨d,hd,-,-,-,rfl⟩:=(complete_eq_ok_iff hr).mp h
 refine ⟨r.completed d members,_,?_,rfl,r.exactLayout_fields d.kind members⟩
 have hid:id < r.records.length:=(List.getElem?_eq_some_iff.mp hd).1
 exact List.getElem?_set_self hid

/-- However records are declared and completed, the layouts are right. -/
theorem consistent_of_reachable (h:r.Reachable) : r.Consistent where
 laidOut _ _ _ hd hfields := h.laidOut hd hfields
 size_exact _ _ hn := ⟨(sizeOf?_eq_some_iff.mp hn).1,h.bounded.sizeOf?_le hn⟩
 offset_fits _ _ _ _ _ hp hn ha := h.bounded.offset_fits hp hn ha
 size_fits _ _ _ hp := h.bounded.size_fits hp
 complete_iff id members := by
  constructor
  · rintro ⟨r',hr'⟩
    obtain ⟨d,hd,hcomplete,hmembers,hsize,-⟩:=(complete_eq_ok_iff h.bounded).mp hr'
    exact ⟨d,hd,hcomplete,sized_iff.mp hmembers,hsize⟩
  · rintro ⟨d,hd,hcomplete,hmembers,hsize⟩
    refine ⟨⟨r.records.set id (r.completed d members)⟩,?_⟩
    exact (complete_eq_ok_iff h.bounded).mpr
     ⟨d,hd,hcomplete,sized_iff.mpr hmembers,hsize,rfl⟩
 stored _ _ _ hr := h.bounded.stored hr

/-- A struct of a character and a number, in a union with an array of five integers. -/
theorem consistent_nested :
  let r : Registry:=
   ⟨[⟨.struct,some "pair",some [⟨"c",.char,0⟩,⟨"x",.double,8⟩],16,8⟩,
    ⟨.union,none,some [⟨"a",.array .int (some 5),0⟩,⟨"p",.record 0,0⟩],24,8⟩]⟩
  r.Reachable ∧ r.Consistent := by
 have hpair := (Reachable.declare .struct (some "pair") .empty).complete 0
  [("c",.char),("x",.double)] rfl
 have hunion:=(hpair.declare .union none).complete 1
  [("a",.array .int (some 5)),("p",.record 0)] rfl
 exact ⟨hunion,consistent_of_reachable hunion⟩

end Registry

end CCheck
