import Mathlib.Data.List.Basic
import CCheck.Proofs.Parsing.Charges
import CCheck.Proofs.Parsing.UnitRules
import CCheck.Proofs.Naming.Walk

/-! # Books on what is read

The tokens that are passed for the pieces of a tree pay for them. What is booked of a tree is left
open. -/

set_option autoImplicit false

namespace CCheck

def Declaration.Headed : Declaration → Prop
 | .func d => d.type.isFunction = true
 | .var _ | .record _ | .enum _ | .typedef _ => True

def External.Headed : External → Prop
 | .declaration d => d.Headed
 | .definition _ _ => True

def Piece.isPlain : Piece → Bool
 | expr (.ident _) | expr (.call ..) | stmt (.labeled ..) => false
 | form (.record spec) => spec.members.isNone
 | form (.enum spec) => spec.enumerators.isNone
 | _ => true

lemma Piece.isPlain_of_isSimple {x:Piece} (h:x.isSimple = true) : x.isPlain = true := by
 cases x with
 | expr e => cases e <;> exact h
 | form f => cases h
 | stmt s => cases s <;> first | rfl | exact h
 | _ => rfl

def Suffix.pieces : Suffix → List Piece
 | .array size _ _ => size.toList.map .expr
 | .function params _ _ _ => params.map .param

variable {p n m k:Nat}

structure Books (p:Nat) where
 Paid : Nat → List Piece → Nat → Prop
 Within : List Piece → List Piece → Prop
 nil : ∀ {n m}, n ≤ m → Paid n [] m
 append : ∀ {n m k xs ys}, Paid n xs m → Paid m ys k → Paid n (xs ++ ys) k
 within : ∀ {n m xs ys}, Paid n ys m → Within xs ys → Paid n xs m
 of_sublist : ∀ {xs ys}, xs.Sublist ys → Within xs ys
 trans : ∀ {xs ys zs}, Within xs ys → Within ys zs → Within xs zs
 both : ∀ {xs xs' ys ys'}, Within xs ys → Within xs' ys' → Within (xs ++ xs') (ys ++ ys')
 swap : ∀ xs ys, Within (xs ++ ys) (ys ++ xs)
 children : ∀ {x:Piece}, x.isPlain = true → Within [x] x.children
 head : ∀ d : FunctionDecl, Within [.form d.type.form] [.declaration (.func d)]
 ident : ∀ n (i:Ident), Paid n [.expr (.ident i)] (n + i.span.credit p)
 call : ∀ {n m} {e:Expr} {args:List Expr} (last:Span),
  Paid n (.expr e :: args.map .argument) m →
  Paid n [.expr (.call e args (e.span.merge last))] (m + last.credit p)
 record : ∀ {n m} {ms:List Member} {first:Span} (kind:RecordKind) (tag:Option Ident)
  (last:Span),
  Paid (n + first.credit p) (ms.map .member) m →
  Paid n [.form (.record ⟨kind,tag,some ms,first.merge last⟩)] (m + last.credit p)
 enum : ∀ {n m} {es:List Enumerator} {first:Span} (tag:Option Ident) (last:Span),
  Paid (n + first.credit p) (es.map .enumerator) m →
  Paid n [.form (.enum ⟨tag,some es,first.merge last⟩)] (m + last.credit p)
 labeled : ∀ {n m} {s:Stmt} (label:Ident) (span:Span),
  Paid (n + label.span.credit p) [.stmt s] m → Paid n [.stmt (.labeled label s span)] m
 share : ∀ {n m k} {f:TypeForm} {xs ys x}, f.IsSpecifier → Paid n (.form f :: xs) m →
  Paid m ys k → Within [x] (.form f :: ys) → Paid n (.form f :: (xs ++ [x])) k
 Whole : Nat → List External → Nat → Prop
 whole_nil : ∀ {n m}, n ≤ m → Whole n [] m
 whole_append : ∀ {n m k es fs}, Whole n es m → Whole m fs k → Whole n (es ++ fs) k
 whole_declarations : ∀ {n m} {ds:List Declaration}, Paid n (ds.map .declaration) m →
  Whole n (ds.map .declaration) m
 whole_definition : ∀ {n m k} {head:FunctionDecl} {body:Block},
  Paid n [.form head.type.form] m → Paid m (body.stmts.map .stmt) k →
  Whole n [.definition head body] k

namespace Books

variable (B:Books p)

lemma refl (xs:List Piece) : B.Within xs xs := B.of_sublist (.refl xs)

lemma right (xs ys:List Piece) : B.Within ys (xs ++ ys) :=
 B.of_sublist (List.sublist_append_right xs ys)

lemma paid_nil (n:Nat) : B.Paid n [] n := B.nil (Nat.le_refl n)

variable {B}

lemma paid_of_children {x:Piece} (hx:x.isPlain = true) (h:B.Paid n x.children m) :
  B.Paid n [x] m :=
 B.within h (B.children hx)

lemma within_addSuffix (t:TypeExpr) (s:Suffix) :
  B.Within [.form (t.addSuffix s).form] (.form t.form :: s.pieces) := by
 cases s with
 | array size vla span => exact B.children rfl
 | function params variadic prototyped span => exact B.children rfl

lemma within_addPointers (pointers:List (Qualifiers × Span)) (t:TypeExpr) :
  B.Within [.form (pointers.foldl (fun t q => t.addPointer q.1 q.2) t).form] [.form t.form] := by
 induction pointers generalizing t with
 | nil => exact B.refl _
 | cons q qs ih => exact B.trans (ih _) (B.children rfl)

lemma within_addSuffixes (suffixes:List Suffix) (t:TypeExpr) :
  B.Within [.form (suffixes.foldr (fun s t => t.addSuffix s) t).form]
   (.form t.form :: suffixes.flatMap Suffix.pieces) := by
 induction suffixes with
 | nil => exact B.refl _
 | cons s ss ih =>
  refine B.trans (within_addSuffix _ s) (B.trans (B.both ih (B.refl s.pieces)) ?_)
  rw [List.flatMap_cons,List.cons_append]
  exact B.both (B.refl [.form t.form]) (B.swap _ _)

lemma within_wrap (suffixes:List Suffix) (pointers:List (Qualifiers × Span)) (t:TypeExpr) :
  B.Within [.form (suffixes.foldr (fun s t => t.addSuffix s)
   (pointers.foldl (fun t q => t.addPointer q.1 q.2) t)).form]
   (.form t.form :: suffixes.flatMap Suffix.pieces) :=
 B.trans (within_addSuffixes suffixes _) (B.both (within_addPointers pointers t) (B.refl _))

lemma within_apply : ∀ (d:Declarator) (t:TypeExpr),
  B.Within [.form (d.apply t).2.form] (.form t.form :: d.all.flatMap Suffix.pieces)
 | ⟨name,pointers,suffixes,none⟩, t => by
  rw [Declarator.apply,Declarator.all]
  exact within_wrap suffixes pointers t
 | ⟨name,pointers,suffixes,some inner⟩, t => by
  rw [Declarator.apply,Declarator.all,List.flatMap_append]
  refine B.trans (within_apply inner _) (B.trans (B.both (within_wrap suffixes pointers t)
   (B.refl (inner.all.flatMap Suffix.pieces))) ?_)
  rw [List.cons_append]
  exact B.both (B.refl [.form t.form]) (B.swap _ _)

lemma within_applied {d:Declarator} {t u:TypeExpr} {name:Option Ident}
  (h:d.apply t = (name,u)) :
  B.Within [.form u.form] (.form t.form :: d.all.flatMap Suffix.pieces) := by
 have happly:B.Within _ _:=within_apply d t
 rwa [h] at happly

/-! ### The journal of books -/

structure SpecifiersPaid (B:Books p) (n:Nat) (f:TypeForm) (m:Nat) : Prop where
 paid : B.Paid n [.form f] m
 isSpecifier : f.IsSpecifier

structure MembersPaid (B:Books p) (n:Nat) (t:TypeExpr) (ms:List Member) (m:Nat) :
  Prop where
 paid : B.Paid n (.form t.form :: ms.map .member) m
 isSpecifier : t.form.IsSpecifier

structure DeclarationsPaid (B:Books p) (n:Nat) (ds:List Declaration) (m:Nat) : Prop where
 paid : B.Paid n (ds.map .declaration) m
 headed : ∀ d ∈ ds, d.Headed

structure GroupPaid (B:Books p) (n:Nat) (t:TypeExpr) (ds:List Declaration) (m:Nat) :
  Prop where
 paid : B.Paid n (.form t.form :: ds.map .declaration) m
 isSpecifier : t.form.IsSpecifier
 headed : ∀ d ∈ ds, d.Headed

/-- What stands at file scope is paid for, and its declarations of functions have the types of
functions. -/
structure WholePaid (B:Books p) (n:Nat) (es:List External) (m:Nat) : Prop where
 paid : B.Whole n es m
 headed : ∀ e ∈ es, e.Headed

lemma SpecifiersPaid.group {t:TypeExpr} (h:B.SpecifiersPaid n t.form m) :
  B.GroupPaid n t [] m :=
 ⟨h.paid,h.isSpecifier,fun _ hd => nomatch hd⟩

lemma GroupPaid.snoc {t:TypeExpr} {ys:List Piece} {ds:List Declaration} {d:Declaration}
  (h:B.GroupPaid n t ds m) (hys:B.Paid m ys k)
  (hd:B.Within [.declaration d] (.form t.form :: ys)) (headed:d.Headed) :
  B.GroupPaid n t (ds ++ [d]) k := by
 refine ⟨?_,h.isSpecifier,
  List.forall_mem_append.mpr ⟨h.headed,List.forall_mem_singleton.mpr headed⟩⟩
 rw [List.map_append]
 exact B.share h.isSpecifier h.paid hys hd

lemma GroupPaid.done {t:TypeExpr} {ds:List Declaration} (h:B.GroupPaid n t ds m) :
  B.DeclarationsPaid n ds m :=
 ⟨B.within h.paid (B.right [_] _),h.headed⟩

lemma SpecifiersPaid.bare {specs:Specifiers} (h:B.SpecifiersPaid n specs.type.form m) :
  B.DeclarationsPaid n (Grammar.bareDeclaration specs) m := by
 obtain ⟨storage,isInline,⟨form,quals,span⟩⟩:=specs
 cases form with
 | record spec =>
  exact (h.group.snoc (d := .record spec) (B.paid_nil m) (B.children rfl) trivial).done
 | enum spec =>
  exact (h.group.snoc (d := .enum spec) (B.paid_nil m) (B.children rfl) trivial).done
 | _ => exact h.group.done

def journal (B:Books p) : Journal where
 State := Nat
 Reach _ _ := True
 earn span n := n + span.credit p
 note _ n := n
 enroll _ _ n := n
 enter _ n := n
 leave n := n
 Knows _ _ := True
 Noted _ _ := True
 Paid := B.Paid
 Specified := B.SpecifiersPaid
 Suffixes n ss m := B.Paid n (ss.flatMap Suffix.pieces) m
 Members := B.MembersPaid
 Group := B.GroupPaid
 Declared := B.DeclarationsPaid
 Whole := B.WholePaid
 reach_refl _ := trivial
 reach_trans _ _ := trivial
 reach_earn _ _ := trivial
 reach_note _ _ := trivial
 reach_enroll _ _ := trivial
 reach_leave _ := trivial
 noted _ _ := trivial
 noted_paid _ _ := trivial
 noted_suffixes _ _ := trivial
 paid_note h := h
 suffixes_note h := h
 nil := B.paid_nil
 append := B.append
 children hx h := paid_of_children (Piece.isPlain_of_isSimple hx) h
 ident := B.ident
 call := B.call
 base n _ := ⟨paid_of_children rfl (B.paid_nil n),trivial⟩
 named _ := ⟨paid_of_children rfl (B.paid_nil _),trivial⟩
 record kind tag last h := ⟨B.record kind tag last h,trivial⟩
 recordTag _ _ _ _ _ := ⟨paid_of_children rfl (B.nil (Nat.le_add_right _ _)),trivial⟩
 enum tag last h := ⟨B.enum tag last h,trivial⟩
 enumTag _ _ _ _ := ⟨paid_of_children rfl (B.nil (Nat.le_add_right _ _)),trivial⟩
 enumerator _ _ h _ := paid_of_children rfl h
 suffixes_nil := B.paid_nil
 suffixes_append h h' := by
  rw [List.flatMap_append]
  exact B.append h h'
 array _ _ h := by
  rw [List.flatMap_singleton]
  exact h
 function _ _ _ h := by
  rw [List.flatMap_singleton]
  exact h
 noParams n _ _ _ := B.paid_nil n
 typeName hs hd := B.within (B.append hs.paid hd) (within_apply _ _)
 param {_ _ _ t d} _ hs hd _ := by
  refine paid_of_children rfl (B.within ?_ (within_apply d t))
  cases (d.apply t).1 <;> exact B.append hs.paid hd
 members_nil hs := ⟨hs.paid,hs.isSpecifier⟩
 members_snoc _ h hd happly := by
  refine ⟨?_,h.isSpecifier⟩
  rw [List.map_append]
  exact B.share h.isSpecifier h.paid hd (B.trans (B.children rfl) (within_applied happly))
 members_done h _ := B.within h.paid (B.right [_] _)
 group_nil hs := hs.group
 group_var _ _ h hd _ happly hinit := h.snoc (B.append hd hinit)
  (B.trans (B.children rfl) (B.both (within_applied happly) (B.refl _))) trivial
 group_func _ _ _ h hd _ happly hfunction :=
  h.snoc hd (B.trans (B.children rfl) (within_applied happly)) hfunction
 group_typedef _ h hd _ happly :=
  h.snoc hd (B.trans (B.children rfl) (within_applied happly)) trivial
 group_done h _ := h.done
 bare hs := hs.bare
 decls _ h := paid_of_children rfl h.paid
 forDecls h := paid_of_children rfl h.paid
 compound _ h := paid_of_children rfl h
 forLoop _ h := paid_of_children rfl h
 labeled := B.labeled
 whole_nil n := ⟨B.whole_nil (Nat.le_refl n),fun _ h => nomatch h⟩
 whole_append h h' := ⟨B.whole_append h.paid h'.paid,
  List.forall_mem_append.mpr ⟨h.headed,h'.headed⟩⟩
 whole_declared h := ⟨B.whole_declarations h.paid,List.forall_mem_map.mpr h.headed⟩
 definition {_ m _ _ head _} _ _ h hss := by
  have hhead:B.Paid _ [.form head.type.form] m:=
   B.within h.paid (B.trans (B.head head) (B.right [_] _))
  exact ⟨B.whole_definition hhead hss,List.forall_mem_singleton.mpr trivial⟩

/-- The credit, and what is still to be earned by passing tokens that start at a place, come to no
more than `C`. -/
def session (B:Books p) (C:Nat) : Session .identity :=
 { Parser.Simulation.same,B.journal with
   Holds := fun (n:Nat) s => n + s.stream.left p ≤ C
   passed := fun {_ s} h => Nat.le_trans (Nat.add_le_add_left (s.stream.left_advance_le p) _) h
   earned := fun {n s} h heof => by
    rw [← s.stream.left_advance p heof,Nat.add_comm (s.stream.advance.left p)] at h
    exact Nat.add_assoc n _ _ ▸ h
   notes := fun {_ s _} h _ => Nat.le_trans (Nat.add_le_add_left (s.stream.left_advance_le p) _) h
   enrolled := fun h _ _ => h
   entered := fun h _ => h
   left := fun h => h
   known := fun _ _ => trivial }

lemma whole_of_parseTokens (B:Books p) {ts:List Token} {u:ProgramUnit}
  (h:parseTokens ts = .ok u) :
  ∃ m, m ≤ ts.countP (·.span.start == p) ∧ B.WholePaid 0 u.externals m := by
 have hstart:0 + (ParserState.ofTokens ts).stream.left p ≤ ts.countP (·.span.start == p):=
  Nat.zero_add _ ▸ TokenStream.left_ofTokens_le p ts
 obtain ⟨v,m,s,hv,hpaid,hm⟩ | ⟨f,hf,_⟩:=(B.session _).parseTokens ts rfl hstart
 · cases h.symm.trans hv
   exact ⟨m,Nat.le_trans (Nat.le_add_right _ _) hm,hpaid⟩
 · cases h.symm.trans hf

end Books

end CCheck
