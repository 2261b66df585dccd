import CCheck.Analysis.Expression
import CCheck.Proofs.Constants.Words
import Mathlib.Data.Int.Bitwise

/-! # Constants over the integers

A constant expression has the value that it has over the integers, as long as nothing on the way
leaves the range of words. -/

set_option autoImplicit false

namespace CCheck

open Check

inductive Mishap
 | zeroDivision (span:Span)
 | outOfRange
 | foreign

def inWord (n:Int) : Except Mishap Int :=
 if -9223372036854775808 ≤ n ∧ n < 9223372036854775808 then .ok n else .error .outOfRange

def truth (p:Prop) [Decidable p] : Except Mishap Int := .ok (if p then 1 else 0)

def UnaryOp.exact (op:UnaryOp) (n:Int) : Except Mishap Int :=
 match op with
 | .neg => inWord (-n)
 | .plus => .ok n
 | .not => truth (n = 0)
 | .bitNot => inWord n.lnot
 | _ => .error .foreign

def BinOp.exact (op:BinOp) (span:Span) (n k:Int) : Except Mishap Int :=
 match op with
 | .add => inWord (n + k)
 | .sub => inWord (n - k)
 | .mul => inWord (n * k)
 | .div => if k = 0 then .error (.zeroDivision span) else inWord (n.tdiv k)
 | .mod => if k = 0 then .error (.zeroDivision span) else inWord (n.tmod k)
 | .shl => if 0 ≤ k ∧ k ≤ 63 then inWord (n * (Nat.pow 2 k.toNat : Nat)) else .error .outOfRange
 | .shr => if 0 ≤ k ∧ k ≤ 63 then inWord (n / (Nat.pow 2 k.toNat : Nat)) else .error .outOfRange
 | .bitAnd => inWord (n.land k)
 | .bitOr => inWord (n.lor k)
 | .bitXor => inWord (n.xor k)
 | .eq => truth (n = k)
 | .ne => truth (n ≠ k)
 | .lt => truth (n < k)
 | .le => truth (n ≤ k)
 | .gt => truth (k < n)
 | .ge => truth (k ≤ n)
 | .and => truth (n ≠ 0 ∧ k ≠ 0)
 | .or => truth (n ≠ 0 ∨ k ≠ 0)

/-- The value of an expression over the integers, with every number that is computed checked to be
one of a word. What the left operand or the condition settles is not computed. -/
def Expr.exact : Expr → Except Mishap Int
 | .literal (.int n _) => inWord n.value.toNat
 | .literal (.char code _) => inWord code
 | .unary op e _ => do op.exact (← e.exact)
 | .binary op l r span => do
  let n ← l.exact
  if op = .and ∧ n = 0 then return 0
  else if op = .or ∧ n ≠ 0 then return 1
  else op.exact span n (← r.exact)
 | .cond test yes no _ => do if (← test.exact) ≠ 0 then yes.exact else no.exact
 | _ => .error .foreign
termination_by structural e => e


lemma toInt_eq (x:BitVec 64) :
  x.toInt = if x.msb then Int.negSucc (~~~x).toNat else Int.ofNat x.toNat := by
 have hcond:=x.toInt_eq_msb_cond
 have hlt:=x.isLt
 have hnot:=BitVec.toNat_not (x := x)
 rw [hcond]
 split
 · rw [hnot,Int.negSucc_eq]
   omega
 · rfl

lemma ldiff_not (x y:BitVec 64) : Nat.ldiff x.toNat (~~~y).toNat = (x &&& y).toNat := by
 refine Nat.eq_of_testBit_eq fun i => ?_
 rw [Nat.testBit_ldiff,BitVec.testBit_toNat,BitVec.testBit_toNat,BitVec.testBit_toNat,
  BitVec.getLsbD_and,BitVec.getLsbD_not]
 by_cases hi : i < 64
 · simp [hi]
 · simp [BitVec.getLsbD_of_ge x i (by omega)]

lemma toInt_and (x y:BitVec 64) : (x &&& y).toInt = x.toInt.land y.toInt := by
 rw [toInt_eq,toInt_eq x,toInt_eq y,BitVec.msb_and]
 cases x.msb <;> cases y.msb
 · exact congrArg Int.ofNat (BitVec.toNat_and x y)
 · exact congrArg Int.ofNat (ldiff_not x y).symm
 · exact congrArg Int.ofNat (((ldiff_not y x).trans (by rw [BitVec.and_comm])).symm)
 · exact congrArg Int.negSucc (by rw [BitVec.not_and,BitVec.toNat_or])

lemma toInt_or (x y:BitVec 64) : (x ||| y).toInt = x.toInt.lor y.toInt := by
 have hnot:∀ x y : BitVec 64, Nat.ldiff (~~~x).toNat y.toNat = (~~~(x ||| y)).toNat := by
  intro x y
  have h:=ldiff_not (~~~x) (~~~y)
  rwa [BitVec.not_not,← BitVec.not_or] at h
 rw [toInt_eq,toInt_eq x,toInt_eq y,BitVec.msb_or]
 cases x.msb <;> cases y.msb
 · exact congrArg Int.ofNat (BitVec.toNat_or x y)
 · exact congrArg Int.negSucc ((hnot y x).trans (by rw [BitVec.or_comm])).symm
 · exact congrArg Int.negSucc (hnot x y).symm
 · exact congrArg Int.negSucc (by rw [BitVec.not_or,BitVec.toNat_and])

lemma toInt_xor (x y:BitVec 64) : (x ^^^ y).toInt = x.toInt.xor y.toInt := by
 rw [toInt_eq,toInt_eq x,toInt_eq y,BitVec.msb_xor]
 cases x.msb <;> cases y.msb
 · exact congrArg Int.ofNat (BitVec.toNat_xor x y)
 · exact congrArg Int.negSucc (by rw [← BitVec.toNat_xor,BitVec.not_xor_right])
 · exact congrArg Int.negSucc (by rw [← BitVec.toNat_xor,BitVec.not_xor_left])
 · exact congrArg Int.ofNat (by
    rw [← BitVec.toNat_xor,← BitVec.not_xor_left,← BitVec.not_xor_right,BitVec.not_not])
/-! ### Runs beside the integers -/

variable {c:Checker} {v w x:Int64} {n k:Int} {span:Span}

/-- From the state the run finds the outcome of an exact computation, if there is one, and refuses
what this divides by zero. The state stays. -/
structure Mirrors (c:Checker) (run:Check Int64) (o:Except Mishap Int) : Prop where
 value : ∀ n, o = .ok n → ∃ v, run c = .ok v c ∧ v.toInt = n
 division : ∀ s, o = .error (.zeroDivision s) → run c = .error ⟨.notIntegerConstant,s⟩ c

namespace Mirrors

lemma outOfRange (run:Check Int64) : Mirrors c run (.error .outOfRange) := ⟨nofun,nofun⟩

lemma foreign (run:Check Int64) : Mirrors c run (.error .foreign) := ⟨nofun,nofun⟩

lemma zeroDivision : Mirrors c (constant none span) (.error (.zeroDivision span)) where
 value := nofun
 division s hs := by
  cases hs
  rfl

lemma ok (hx:x.toInt = n) : Mirrors c (pure x) (.ok n) where
 value _ hk := ⟨x,rfl,hx.trans (Except.ok.inj hk)⟩
 division := nofun

lemma bind {run:Check Int64} {o:Except Mishap Int} {f:Int64 → Check Int64}
  {g:Int → Except Mishap Int} (h:Mirrors c run o) (hf:∀ v, Mirrors c (f v) (g v.toInt)) :
  Mirrors c (run >>= f) (o >>= g) := by
 cases o with
 | ok n =>
  obtain ⟨v,hv,rfl⟩:=h.value n rfl
  have hrun:(run >>= f) c = f v c := by simp only [Bind.bind,EStateM.bind,hv]
  refine ⟨fun k hk => ?_,fun s hs => ?_⟩
  · rw [hrun]
    exact (hf v).value k hk
  · rw [hrun]
    exact (hf v).division s hs
 | error m =>
  refine ⟨nofun,fun s hs => ?_⟩
  cases hs
  simp only [Bind.bind,EStateM.bind,h.division s rfl]

lemma wrapped (hx:x.toInt = n.bmod Int64.size) : Mirrors c (pure x) (inWord n) := by
 unfold inWord
 split
 · refine ok ?_
   rw [hx,Int.bmod_eq_of_le] <;> simp only [Int64.size] <;> omega
 · exact outOfRange _

lemma same (hx:x.toInt = n) : Mirrors c (pure x) (inWord n) :=
 wrapped (by rw [← hx,Int64.toInt_bmod_size])

lemma truth {p:Prop} [Decidable p] {b:Bool} (h:b = true ↔ p) :
  Mirrors c (pure (ofBool b)) (truth p) := by
 refine ok ?_
 by_cases hp : p
 · rw [if_pos hp,h.mpr hp]
   rfl
 · rw [if_neg hp,Bool.eq_false_iff.mpr (mt h.mp hp)]
   rfl

lemma toInt_eq_zero : x = 0 ↔ x.toInt = 0 := by
 rw [← Int64.toInt_inj]
 rfl

lemma unary (op:UnaryOp) (v:Int64) : Mirrors c (constant (op.eval? v) span) (op.exact v.toInt) := by
 cases op with
 | neg => exact wrapped v.toInt_neg
 | plus => exact ok rfl
 | not => exact truth (by rw [beq_iff_eq,toInt_eq_zero])
 | bitNot =>
  have hnot:∀ n : Int, -n - 1 = n.lnot := by
   rintro (n | n) <;> simp only [Int.lnot,Int.ofNat_eq_natCast] <;> omega
  exact wrapped (v.toInt_not.trans (congrArg (Int.bmod · _) (hnot _)))
 | _ => exact foreign _

lemma binary (op:BinOp) (v w:Int64) :
  Mirrors c (constant (op.eval? v w) span) (op.exact span v.toInt w.toInt) := by
 cases op with
 | add => exact wrapped (v.toInt_add w)
 | sub => exact wrapped (v.toInt_sub w)
 | mul => exact wrapped (v.toInt_mul w)
 | div | mod =>
  dsimp only [BinOp.eval?,BinOp.exact]
  by_cases hw : w = 0
  · rw [if_pos hw,if_pos (toInt_eq_zero.mp hw)]
    exact zeroDivision
  · rw [if_neg hw,if_neg (mt toInt_eq_zero.mpr hw)]
    first | exact wrapped (v.toInt_div w) | exact same (v.toInt_mod w)
 | shl =>
  dsimp only [BinOp.eval?,BinOp.exact]
  split
  · refine wrapped ?_
    rw [toInt_shiftLeft,Int.emod_eq_of_lt] <;> omega
  · exact outOfRange _
 | shr =>
  dsimp only [BinOp.eval?,BinOp.exact]
  split
  · refine same ?_
    rw [toInt_shiftRight,Int.emod_eq_of_lt] <;> omega
  · exact outOfRange _
 | bitAnd => exact same (toInt_and v.toBitVec w.toBitVec)
 | bitOr => exact same (toInt_or v.toBitVec w.toBitVec)
 | bitXor => exact same (toInt_xor v.toBitVec w.toBitVec)
 | eq => exact truth (by rw [beq_iff_eq,Int64.toInt_inj])
 | ne => exact truth (by rw [bne_iff_ne,ne_eq,ne_eq,Int64.toInt_inj])
 | lt | gt => exact truth (by rw [decide_eq_true_iff,Int64.lt_iff_toInt_lt])
 | le | ge => exact truth (by rw [decide_eq_true_iff,Int64.le_iff_toInt_le])
 | and => exact truth (by rw [Bool.and_eq_true,bne_iff_ne,bne_iff_ne,ne_eq,ne_eq,toInt_eq_zero,
   toInt_eq_zero])
 | or => exact truth (by rw [Bool.or_eq_true,bne_iff_ne,bne_iff_ne,ne_eq,ne_eq,toInt_eq_zero,
   toInt_eq_zero])

lemma evalConst (c:Checker) : ∀ e : Expr, Mirrors c (evalConst e) e.exact
 | .literal (.int n _) => by
  unfold Expr.exact
  by_cases h : n.value.toNat < 9223372036854775808
  · exact same (toInt_toInt64 h)
  · rw [inWord,if_neg (by omega)]
    exact outOfRange _
 | .literal (.char code _) => wrapped (Int64.toInt_ofNat' ..)
 | .unary op e _ => (evalConst c e).bind (unary op)
 | .binary op l r span => by
  refine (evalConst c l).bind fun v => ?_
  simp only [Bool.and_eq_true,decide_eq_true_eq,ne_eq,toInt_eq_zero (x := v)]
  split
  · exact ok rfl
  · split
    · exact ok rfl
    · exact (evalConst c r).bind (binary op v)
 | .cond test yes no _ => by
  refine (evalConst c test).bind fun v => ?_
  simp only [ne_eq,toInt_eq_zero (x := v)]
  split
  · exact evalConst c yes
  · exact evalConst c no
 | .literal (.float ..) | .literal (.string ..) | .ident _ | .assign .. | .call .. | .index ..
 | .member .. | .cast .. | .sizeofType .. | .sizeofExpr .. | .comma .. => foreign _
termination_by structural e => e

end Mirrors

/-- Where nothing goes wrong over the integers, an expression is computed to its exact value; where
a division by zero is the first thing to go wrong, it is refused there. What is skipped may be
anything. -/
theorem evalConst_exact (c:Checker) (e:Expr) :
  (∀ n, e.exact = .ok n → ∃ v, evalConst e c = .ok v c ∧ v.toInt = n) ∧
  (∀ span, e.exact = .error (.zeroDivision span) →
   evalConst e c = .error ⟨.notIntegerConstant,span⟩ c) ∧
  ∀ n, e.exact = .ok n → ∀ (other other':Expr) (span:Span),
   (n = 0 → evalConst (.binary .and e other span) c = .ok 0 c ∧
    evalConst (.cond e other other' span) c = evalConst other' c) ∧
   (n ≠ 0 → evalConst (.binary .or e other span) c = .ok 1 c ∧
    evalConst (.cond e other other' span) c = evalConst other c) := by
 have htracks:=Mirrors.evalConst c e
 refine ⟨htracks.value,htracks.division,fun n hn other other' span => ?_⟩
 obtain ⟨v,hv,rfl⟩:=htracks.value n hn
 have hzero:=Mirrors.toInt_eq_zero (x := v)
 refine ⟨fun h => ?_,fun h => ?_⟩
 · obtain rfl:=hzero.mpr h
   simp only [evalConst,bind,EStateM.bind,hv]
   exact ⟨rfl,rfl⟩
 · have hne:v ≠ 0:=mt hzero.mp h
   simp only [evalConst,bind,EStateM.bind,hv,reduceCtorEq,decide_false,decide_true,Bool.false_and,
    Bool.true_and,Bool.false_eq_true,if_false,if_pos hne,if_pos (decide_eq_true hne)]
   exact ⟨rfl,trivial⟩

end CCheck
