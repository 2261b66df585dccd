import CCheck.Verdict
import CCheck.Proofs.Constants.Words
import CCheck.Proofs.Constants.Runs

/-! # Constants and their types

A value lies outside the range of its type only where an operation has a result that its type does
not hold or a negative number meets an unsigned one, and where the value of an enumerator or a
character is no `int`. -/

set_option autoImplicit false

namespace CCheck

open Check

variable {c c' d d':Checker} {s:SymbolTable} {t:CType} {v:Int64} {n:Int}

variable {a b:CType} {c₁:Checker} {op:BinOp} {x y:Int64}
variable {e l r test yes no:Expr} {span:Span}

/-- The last operation of the expression is one of the integers, with this result. -/
inductive Ideal (d:Checker) : Expr → Int → Prop
 | unary {op:UnaryOp} {e:Expr} {span:Span} {x:Int64} {d':Checker} {n:Int}
    (hx:evalConst e d = .ok x d') (hn:op.ideal? x.toInt = some n) :
    Ideal d (.unary op e span) n
 | binary {op:BinOp} {l r:Expr} {span:Span} {x y:Int64} {d₁ d₂:Checker} {n:Int}
    (hx:evalConst l d = .ok x d₁) (hy:evalConst r d₁ = .ok y d₂)
    (hn:op.ideal? x.toInt y.toInt = some n) : Ideal d (.binary op l r span) n

def BinOp.isConfined (op:BinOp) : Bool := op matches .mod | .shr | .bitAnd | .bitOr | .bitXor

/-- Somewhere on the way to the value of an expression, which is checked in the state `c` and
computed in `d`, a number is not held by the type it is given. -/
inductive Strays : Checker → Checker → Expr → Prop
 | char {c d:Checker} {code:Nat} {span:Span} (h:¬ CType.int.Holds code) :
    Strays c d (.literal (.char code span))
 | enumerator {c d:Checker} {i:Ident} {v:Int64}
    (hv:(d.symbols.lookup? i.name).map Symbol.kind = some (.constant v))
    (h:¬ CType.int.Holds v.toInt) : Strays c d (.ident i)
 | redeclared {c d:Checker} {i:Ident} {v:Int64}
    (hv:(d.symbols.lookup? i.name).map Symbol.kind = some (.constant v))
    (h:∀ w, (c.symbols.lookup? i.name).map Symbol.kind ≠ some (.constant w)) :
    Strays c d (.ident i)
 | operation {c c' d:Checker} {e:Expr} {t:CType} {n:Int} (ht:checkExpr e c = .ok t c')
    (hn:Ideal d e n) (h:¬ t.Holds n) : Strays c d e
 | plus {c d:Checker} {e:Expr} {span:Span} (h:Strays c d e) :
    Strays c d (.unary .plus e span)
 | left {c d:Checker} {op:BinOp} {l r:Expr} {span:Span} (hop:op.isConfined = true)
    (h:Strays c d l) : Strays c d (.binary op l r span)
 | right {c c₁ d d₁:Checker} {op:BinOp} {l r:Expr} {span:Span} {a:CType} {x:Int64}
    (hop:op.isBitwise = true) (ha:checkExpr l c = .ok a c₁) (hx:evalConst l d = .ok x d₁)
    (h:Strays c₁ d₁ r) : Strays c d (.binary op l r span)
 | converted {c c' d d₁ d₂:Checker} {op:BinOp} {l r:Expr} {span:Span} {x y:Int64}
    (ht:checkExpr (.binary op l r span) c = .ok .uint c') (hx:evalConst l d = .ok x d₁)
    (hy:evalConst r d₁ = .ok y d₂) (h:op.CarriesSign x.toInt y.toInt) :
    Strays c d (.binary op l r span)
 | yes {c c₁ d d₁:Checker} {test yes no:Expr} {span:Span} {w:CType} {x:Int64}
    (hw:checkExpr test c = .ok w c₁) (hx:evalConst test d = .ok x d₁) (hne:x ≠ 0)
    (h:Strays c₁ d₁ yes) : Strays c d (.cond test yes no span)
 | no {c c₁ c₂ d d₁:Checker} {test yes no:Expr} {span:Span} {w a:CType}
    (hw:checkExpr test c = .ok w c₁) (ha:checkExpr yes c₁ = .ok a c₂)
    (hx:evalConst test d = .ok 0 d₁) (h:Strays c₂ d₁ no) :
    Strays c d (.cond test yes no span)
 | chosen {c c' d d':Checker} {test yes no:Expr} {span:Span} {v:Int64}
    (ht:checkExpr (.cond test yes no span) c = .ok .uint c')
    (hv:evalConst (.cond test yes no span) d = .ok v d') (h:v.toInt < 0) :
    Strays c d (.cond test yes no span)

/-! ### Values that fit -/

/-- Wherever the expression is checked and computed, a narrow type holds its value unless it
strays. -/
def InRange (s:SymbolTable) (e:Expr) : Prop :=
 ∀ {c d c' d':Checker} {t:CType} {v:Int64}, (unchanged s).holds c → (unchanged s).holds d →
  checkExpr e c = .ok t c' → evalConst e d = .ok v d' → t.isNarrow = true →
  ¬ Strays c d e → t.Holds v.toInt

lemma InRange.value (h:InRange s e) (hc:(unchanged s).holds c) (hd:(unchanged s).holds d)
  (hcheck:checkExpr e c = .ok t c') (heval:evalConst e d = .ok v d')
  (hnarrow:t.value.isNarrow = true) (hstray:¬ Strays c d e) : t.value.Holds v.toInt := by
 have hkind:=CType.value_kind_of_isNarrow hnarrow
 rw [CType.holds_congr hkind]
 exact h hc hd hcheck heval (CType.isNarrow_congr hkind ▸ hnarrow) hstray

lemma holds_of_ideal (hnarrow:t.isNarrow = true) (hcheck:checkExpr e c = .ok t c')
  (hideal:Ideal d e n) (hstray:¬ Strays c d e) (hv:v.toInt = n.bmod Int64.size) :
  t.Holds v.toInt := by
 have hn:t.Holds n:=Decidable.not_not.mp fun h => hstray (.operation hcheck hideal h)
 rw [hv,hn.bmod hnarrow]
 exact hn

lemma inRange_unary (h:InRange s e) (op:UnaryOp) (span:Span) :
  InRange s (.unary op e span) := by
 intro c d c' d' t v hc hd hcheck heval hnarrow hstray
 obtain ⟨x,hx,hv⟩:=evalConst_unary heval
 obtain ⟨a,records,ha,htype⟩:=checkExpr_unary hv hcheck
 cases op with
 | neg | bitNot =>
  exact holds_of_ideal hnarrow hcheck (.unary hx rfl) hstray (UnaryOp.toInt_eval hv rfl)
 | plus =>
  cases hv
  rw [UnaryOp.type?] at htype
  split at htype
  · cases htype
    have hvalue:=CType.isNarrow_of_promote hnarrow
    exact (h.value hc hd ha hx hvalue fun hs => hstray (.plus hs)).promote hvalue
  · cases htype
 | not =>
  cases hv
  rw [UnaryOp.type?] at htype
  split at htype
  · cases htype
    exact holds_ofBool _
  · cases htype
 | _ => cases hv

def BinOp.isTruth (op:BinOp) : Bool :=
 op matches .eq | .ne | .lt | .le | .gt | .ge | .and | .or

lemma BinOp.type_truth {records:Registry} {m k:Bool}
  (hop:op.isTruth = true) (h:op.type? records a b m k = some t) : t = .int := by
 cases op with
 | eq | ne | lt | le | gt | ge | and | or =>
  rw [type?] at h
  split at h
  · cases h
    rfl
  · cases h
 | _ => cases hop

lemma BinOp.eval_truth (hop:op.isTruth = true)
  (h:op.eval? x y = some v) : ∃ b, v = ofBool b := by
 cases op with
 | eq | ne | lt | le | gt | ge | and | or => exact ⟨_,(Option.some.inj h).symm⟩
 | _ => cases hop

lemma inRange_truth (hop:op.isTruth = true) :
  InRange s (.binary op l r span) := by
 intro c d c' d' t v hc hd hcheck heval hnarrow hstray
 obtain ⟨a,b,c₁,c₂,ha,hb,records,m,k,htype⟩:=checkExpr_binary hcheck
 have hvalue:∃ b, v = ofBool b := by
  obtain ⟨x,d₁,hx,⟨-,rfl⟩ | ⟨-,rfl⟩ | ⟨y,hy,hv⟩⟩:=evalConst_binary heval
  · exact ⟨false,rfl⟩
  · exact ⟨true,rfl⟩
  · exact BinOp.eval_truth hop hv
 obtain ⟨b,rfl⟩:=hvalue
 rw [BinOp.type_truth hop htype]
 exact holds_ofBool b

lemma evalConst_operands (hop:op.isTruth = false)
  (h:evalConst (.binary op l r span) d = .ok v d') :
  ∃ x y d₁, evalConst l d = .ok x d₁ ∧ evalConst r d₁ = .ok y d' ∧ op.eval? x y = some v := by
 obtain ⟨x,d₁,hx,⟨rfl,-⟩ | ⟨rfl,-⟩ | ⟨y,hy,hv⟩⟩:=evalConst_binary h
 · cases hop
 · cases hop
 · exact ⟨x,y,d₁,hx,hy,hv⟩

lemma inRange_shiftRight (hl:InRange s l) : InRange s (.binary .shr l r span) := by
 intro c d c' d' t v hc hd hcheck heval hnarrow hstray
 obtain ⟨a,b,c₁,c₂,ha,hb,records,m,k,htype⟩:=checkExpr_binary hcheck
 obtain ⟨x,y,d₁,hx,hy,hv⟩:=evalConst_operands rfl heval
 cases hv
 rw [BinOp.type?] at htype
 split at htype
 · cases htype
   have hvalue:=CType.isNarrow_of_promote hnarrow
   have hleft:=hl.value hc hd ha hx hvalue fun hs => hstray (.left rfl hs)
   exact (hleft.promote hvalue).between (toInt_shiftRight_between x y)
 · cases htype

lemma inRange_mod (hl:InRange s l) : InRange s (.binary .mod l r span) := by
 intro c d c' d' t v hc hd hcheck heval hnarrow hstray
 obtain ⟨a,b,c₁,c₂,ha,hb,records,m,k,htype⟩:=checkExpr_binary hcheck
 obtain ⟨x,y,d₁,hx,hy,hv⟩:=evalConst_operands rfl heval
 obtain ⟨harith,harith',rfl⟩:=BinOp.type_common rfl htype hnarrow
 have hvalue:=(CType.common_narrow harith harith' hnarrow).1
 have hleft:=hl.value hc hd ha hx hvalue fun hs => hstray (.left rfl hs)
 rw [BinOp.eval?] at hv
 split at hv
 · cases hv
 · cases hv
   refine holds_mod harith harith' hnarrow hleft fun huint hsign => hstray ?_
   rw [huint] at hcheck
   exact .converted hcheck hx hy hsign

lemma inRange_bitwise (hl:InRange s l) (hr:InRange s r)
  (hop:op.isBitwise = true) : InRange s (.binary op l r span) := by
 intro c d c' d' t v hc hd hcheck heval hnarrow hstray
 obtain ⟨hconverting,hconfined,htruth⟩ :
   op.isConverting = true ∧ op.isConfined = true ∧ op.isTruth = false := by
  cases op <;> first | exact ⟨rfl,rfl,rfl⟩ | cases hop
 obtain ⟨a,b,c₁,c₂,ha,hb,records,m,k,htype⟩:=checkExpr_binary hcheck
 obtain ⟨x,y,d₁,hx,hy,hv⟩:=evalConst_operands htruth heval
 obtain ⟨harith,harith',rfl⟩:=BinOp.type_common hconverting htype hnarrow
 obtain ⟨hvalue,hvalue',-⟩:=CType.common_narrow harith harith' hnarrow
 have hleft:=hl.value hc hd ha hx hvalue fun hs => hstray (.left hconfined hs)
 have hright:=hr.value (unchanged_checkExpr hc ha) (unchanged_evalConst hd hx) hb hy hvalue'
  fun hs => hstray (.right hop ha hx hs)
 refine BinOp.holds_bitwise hop harith harith' hnarrow hleft hright (fun huint hsign => ?_) hv
 rw [huint] at hcheck
 exact hstray (.converted hcheck hx hy hsign)

lemma inRange_binary (hl:InRange s l) (hr:InRange s r) (op:BinOp) (span:Span) :
  InRange s (.binary op l r span) := by
 cases op with
 | eq | ne | lt | le | gt | ge | and | or => exact inRange_truth rfl
 | bitAnd | bitOr | bitXor => exact inRange_bitwise hl hr rfl
 | mod => exact inRange_mod hl
 | shr => exact inRange_shiftRight hl
 | add | sub | mul | div | shl =>
  intro c d c' d' t v hc hd hcheck heval hnarrow hstray
  obtain ⟨x,y,d₁,hx,hy,hv⟩:=evalConst_operands rfl heval
  exact holds_of_ideal hnarrow hcheck (.binary hx hy rfl) hstray (BinOp.toInt_eval hv rfl)

lemma inRange_cond (hyes:InRange s yes) (hno:InRange s no) :
  InRange s (.cond test yes no span) := by
 intro c d c' d' t v hc hd hcheck heval hnarrow hstray
 obtain ⟨w,a,b,c₁,c₂,c₃,hw,ha,hb,m,k,htype⟩:=checkExpr_cond hcheck
 obtain ⟨x,d₁,hx,hbranch⟩:=evalConst_cond heval
 obtain ⟨harith,harith',rfl⟩:=CType.conditional_common htype hnarrow
 obtain ⟨hvalue,hvalue',-⟩:=CType.common_narrow harith harith' hnarrow
 have hc₁:=unchanged_checkExpr hc hw
 have hd₁:=unchanged_evalConst hd hx
 refine CType.Holds.common harith harith' hnarrow ?_ fun huint => Int.not_lt.mp fun hneg => ?_
 · obtain ⟨hne,hv⟩ | ⟨rfl,hv⟩:=hbranch
   · exact .inl (hyes.value hc₁ hd₁ ha hv hvalue fun hs => hstray (.yes hw hx hne hs))
   · exact .inr (hno.value (unchanged_checkExpr hc₁ ha) hd₁ hb hv hvalue' fun hs =>
      hstray (.no hw ha hx hs))
 · rw [huint] at hcheck
   exact hstray (.chosen hcheck heval hneg)

lemma inRange_cast (type:TypeExpr) (e:Expr) (span:Span) :
  InRange s (.cast type e span) := by
 intro c d c' d' t v hc hd hcheck heval hnarrow _
 obtain ⟨a,c₁,ha,rfl⟩:=checkExpr_cast hcheck
 obtain ⟨u,d₁,x,hu,hx,rfl⟩:=evalConst_cast heval
 have hint:a.isInteger = true:=CType.isInteger_of_isNarrow hnarrow
 rw [resolveType_agrees hc hd ha hu hint]
 exact holds_truncate hnarrow x

lemma inRange_ident (i:Ident) : InRange s (.ident i) := by
 intro c d c' d' t v hc hd hcheck heval hnarrow hstray
 have hv:=evalConst_ident heval
 have hconstant:∃ w, (c.symbols.lookup? i.name).map Symbol.kind = some (.constant w) := by
  refine Classical.byContradiction fun hnone => hstray (.redeclared hv fun w hw => ?_)
  exact hnone ⟨w,hw⟩
 obtain ⟨w,hw⟩:=hconstant
 rw [checkExpr_constant hw hcheck]
 exact Decidable.not_not.mp fun h => hstray (.enumerator hv h)

lemma inRange_literal (x:Literal) : InRange s (.literal x) := by
 intro c d c' d' t v hc hd hcheck heval hnarrow hstray
 cases hcheck
 cases x with
 | int n span =>
  cases heval
  exact n.holds_type hnarrow
 | char code span =>
  cases heval
  have hcode:CType.int.Holds code:=Decidable.not_not.mp fun h => hstray (.char h)
  rw [Int64.toInt_ofNat',hcode.bmod rfl]
  exact hcode
 | float | string => cases heval

lemma inRange_sizeof {x:Check CType}
  (h:checkExpr e = (do let _ ← Check.sizeOf (← x) span; return .ulong)) : InRange s e := by
 intro c d c' d' t v _ _ hcheck _ hnarrow _
 rw [h] at hcheck
 obtain ⟨_,_,-,hcheck⟩:=bind_eq_ok hcheck
 obtain ⟨_,_,-,hcheck⟩:=bind_eq_ok hcheck
 cases hcheck
 cases hnarrow

lemma inRange_of_no_value (h:∀ d v d', evalConst e d ≠ .ok v d') : InRange s e :=
 fun _ _ _ heval => (h _ _ _ heval).elim

lemma inRange : ∀ e : Expr, InRange s e
 | .literal x => inRange_literal x
 | .ident i => inRange_ident i
 | .unary op e span => inRange_unary (inRange e) op span
 | .binary op l r span => inRange_binary (inRange l) (inRange r) op span
 | .cond _ yes no _ => inRange_cond (inRange yes) (inRange no)
 | .cast type e span => inRange_cast type e span
 | .sizeofType .. | .sizeofExpr .. => inRange_sizeof rfl
 | .assign .. | .call .. | .index .. | .member .. | .comma .. =>
  inRange_of_no_value (by intro _ _ _ heval; cases heval)

/-- The operands of the last operation have values of their types. -/
inductive OperandsHold (c d:Checker) : Expr → Prop
 | unary {op:UnaryOp} {e:Expr} {span:Span} {a:CType} {x:Int64} {c' d':Checker}
    (ha:checkExpr e c = .ok a c') (hx:evalConst e d = .ok x d') (h:a.Holds x.toInt) :
    OperandsHold c d (.unary op e span)
 | binary {op:BinOp} {l r:Expr} {span:Span} {a b:CType} {x y:Int64}
    {c₁ c₂ d₁ d₂:Checker} (ha:checkExpr l c = .ok a c₁) (hb:checkExpr r c₁ = .ok b c₂)
    (hx:evalConst l d = .ok x d₁) (hy:evalConst r d₁ = .ok y d₂)
    (hleft:a.Holds x.toInt) (hright:b.Holds y.toInt) : OperandsHold c d (.binary op l r span)

lemma bounds_of_value (hvalue:t.value.isNarrow = true) (h:t.Holds n) :
  -2147483648 ≤ n ∧ n < 4294967296 := by
 rw [← CType.holds_congr (CType.value_kind_of_isNarrow hvalue)] at h
 exact h.bounds hvalue

lemma holds_iff_unary {op:UnaryOp}
  (hcheck:checkExpr (.unary op e span) c = .ok t c') (ha:checkExpr e c = .ok a c₁)
  (hv:op.eval? x = some v) (hn:op.ideal? x.toInt = some n) (hnarrow:t.isNarrow = true)
  (h:a.Holds x.toInt) : t.Holds v.toInt ↔ t.Holds n := by
 obtain ⟨a',records,ha',htype⟩:=checkExpr_unary hv hcheck
 rw [ha] at ha'
 cases ha'
 have hpromote:t = a.value.promote := by
  cases op with
  | neg | bitNot =>
   rw [UnaryOp.type?] at htype
   split at htype
   · exact (Option.some.inj htype).symm
   · cases htype
  | _ => cases hn
 rw [hpromote] at hnarrow
 have hbounds:=bounds_of_value (CType.isNarrow_of_promote hnarrow) h
 rw [UnaryOp.toInt_eval hv hn,hpromote]
 exact CType.holds_bmod_iff hnarrow (UnaryOp.ideal_bounds hbounds hn)

lemma holds_iff_binary {c₂:Checker}
  (hop:op ≠ .shl) (hcheck:checkExpr (.binary op l r span) c = .ok t c')
  (ha:checkExpr l c = .ok a c₁) (hb:checkExpr r c₁ = .ok b c₂)
  (hv:op.eval? x y = some v) (hn:op.ideal? x.toInt y.toInt = some n)
  (hnarrow:t.isNarrow = true) (hleft:a.Holds x.toInt) (hright:b.Holds y.toInt) :
  t.Holds v.toInt ↔ t.Holds n := by
 obtain ⟨a',b',_,_,ha',hb',records,m,k,htype⟩:=checkExpr_binary hcheck
 rw [ha] at ha'
 cases ha'
 rw [hb] at hb'
 cases hb'
 have hconverting:op.isConverting = true := by
  cases op with
  | add | sub | mul | div => rfl
  | shl => exact (hop rfl).elim
  | _ => cases hn
 obtain ⟨harith,harith',rfl⟩:=BinOp.type_common hconverting htype hnarrow
 obtain ⟨hvalue,hvalue',-⟩:=CType.common_narrow harith harith' hnarrow
 rw [BinOp.toInt_eval hv hn]
 exact CType.holds_bmod_iff hnarrow
  (BinOp.ideal_bounds hop (bounds_of_value hvalue hleft) (bounds_of_value hvalue' hright) hn)

/-- An operation other than a left shift whose operands have values of their types has one of its
own type exactly if that type holds its result. -/
lemma holds_iff_ideal (hcheck:checkExpr e c = .ok t c') (heval:evalConst e d = .ok v d')
  (hnarrow:t.isNarrow = true) (hshift:∀ l r span, e ≠ .binary .shl l r span)
  (hoperands:OperandsHold c d e) (hideal:Ideal d e n) : t.Holds v.toInt ↔ t.Holds n := by
 cases hideal with
 | unary hx hn =>
  cases hoperands with
  | unary ha hx' hhold =>
   obtain ⟨_,hx'',hv⟩:=evalConst_unary heval
   rw [hx] at hx' hx''
   cases hx'
   cases hx''
   exact holds_iff_unary hcheck ha hv hn hnarrow hhold
 | @binary op l r span x y _ _ _ hx hy hn =>
  cases hoperands with
  | binary ha hb hx' hy' hleft hright =>
   have hop:op ≠ .shl:=fun hop => hshift l r span (hop ▸ rfl)
   have htruth:op.isTruth = false := by
    cases op <;> first | rfl | cases hn
   obtain ⟨_,_,_,hx'',hy'',hv⟩:=evalConst_operands htruth heval
   rw [hx] at hx' hx''
   cases hx'
   cases hx''
   rw [hy] at hy' hy''
   cases hy'
   cases hy''
   exact holds_iff_binary hop hcheck ha hb hv hn hnarrow hleft hright

/-! ### Types and values of one state -/

/-- An expression that is checked in a state and computed there, or in the state after the check,
has a value of its type unless it strays. An operation whose operands have values of their types
strays whenever its type does not hold the result, left shifts apart. -/
theorem constant_fits_type {s c d d':Checker} {e:Expr} {t:CType} {v:Int64}
  (hcheck:checkExpr e s = .ok t c) (hstart:d = s ∨ d = c)
  (heval:evalConst e d = .ok v d') (hnarrow:t.isNarrow = true) :
  (¬ Strays s d e → t.Holds v.toInt) ∧
   ∀ n, (∀ l r span, e ≠ .binary .shl l r span) → OperandsHold s d e → Ideal d e n →
    (t.Holds v.toInt ↔ t.Holds n) := by
 have hs:=unchanged_self s
 have hd:(unchanged s.symbols).holds d := by
  obtain rfl | rfl:=hstart
  · exact hs
  · exact unchanged_checkExpr hs hcheck
 exact ⟨inRange e hs hd hcheck heval hnarrow,
  fun n hshift hoperands => holds_iff_ideal hcheck heval hnarrow hshift hoperands⟩

def decimalLiteral (n:UInt64) : Expr := .literal (.int ⟨n,.decimal,false,0⟩ .nowhere)

def negativeRemainder : Expr :=
 .binary .mod (.binary .sub (decimalLiteral 5) (decimalLiteral 8) .nowhere) (decimalLiteral 2)
  .nowhere

def beyondInt : Expr :=
 .binary .add (decimalLiteral 2147483647) (decimalLiteral 1) .nowhere

lemma not_strays_negativeRemainder :
  ¬ Strays (.start true) (.start true) negativeRemainder := by
 have hsub:¬ Strays (.start true) (.start true)
   (.binary .sub (decimalLiteral 5) (decimalLiteral 8) .nowhere) := by
  intro h
  cases h with
  | operation ht hn h =>
   cases ht
   cases hn with
   | binary hx hy hn =>
    cases hx
    cases hy
    cases hn
    exact h (by decide)
  | left hop => cases hop
  | right hop => cases hop
  | converted ht => cases ht
 intro h
 cases h with
 | operation _ hn =>
  cases hn with
  | binary _ _ hn => cases hn
 | left _ h => exact hsub h
 | right hop => cases hop
 | converted ht => cases ht

/-- A negative remainder is an `int`, and a sum that is none is computed as it is. -/
theorem constant_fits_type_int :
  evalConst negativeRemainder (.start true) = .ok (-1) (.start true) ∧ CType.int.Holds (-1) ∧
   evalConst beyondInt (.start true) = .ok 2147483648 (.start true) ∧
   ¬ CType.int.Holds 2147483648 := by
 have hremainder:checkExpr negativeRemainder (.start true) = .ok .int (.start true):=rfl
 have hsum:checkExpr beyondInt (.start true) = .ok .int (.start true):=rfl
 refine ⟨rfl,?_,rfl,?_⟩
 · exact (constant_fits_type hremainder (.inl rfl) rfl rfl).1 not_strays_negativeRemainder
 · have hoperands:OperandsHold (.start true) (.start true) beyondInt:=
    .binary rfl rfl rfl rfl (show CType.int.Holds 2147483647 by decide)
     (show CType.int.Holds 1 by decide)
   have hiff:=(constant_fits_type hsum (.inl rfl) rfl rfl).2 2147483648 nofun hoperands
    (.binary rfl rfl rfl)
   exact fun h => (by decide:¬ CType.int.Holds 2147483648) (hiff.mp h)

def unsignedComplement : Expr :=
 .unary .bitNot (.literal (.int ⟨0,.decimal,true,0⟩ .nowhere)) .nowhere

/-- The complement of an unsigned zero is computed to be negative, so that it is no value of its
type and compares as less than zero. -/
theorem unsigned_complement_negative :
  checkExpr unsignedComplement (.start true) = .ok .uint (.start true) ∧
   evalConst unsignedComplement (.start true) = .ok (-1) (.start true) ∧
   ¬ CType.uint.Holds (-1) ∧
   (check "int a[~0u > 0 ? 1 : -1];" "" true).report.diagnostics.map (·.message) =
    [(Cause.invalidArraySize (.negative (-1))).message] := by
 refine ⟨rfl,rfl,by decide,?_⟩
 decide +kernel

end CCheck
