import CCheck.Analysis
import CCheck.Proofs.Checking.ConstPaths

/-! # The state after a step

Whether a step succeeds or fails, it leaves a state behind. What leads from one state to another is
put together from steps by the rules below. -/

set_option autoImplicit false

namespace CCheck

open Check

variable {α β:Type}

lemma Check.bind_eq_ok {x:Check α} {k:α → Check β} {b:β} {c c':Checker}
  (h:(x >>= k) c = .ok b c') :
  ∃ a c₁, x c = .ok a c₁ ∧ k a c₁ = .ok b c' := by
 cases hx : x c with
 | ok a c₁ =>
  rw [bind_ok hx] at h
  exact ⟨a,c₁,rfl,h⟩
 | error f c₁ =>
  simp only [bind,EStateM.bind,hx] at h
  cases h

/-- The state in which a step ends, whatever its outcome. -/
def Check.after (x:Check α) (c:Checker) : Checker :=
 match x c with
 | .ok _ d => d
 | .error _ d => d

/-- The step between a change of the state and one that undoes it. -/
def Check.between (enter:Checker → Checker) (leave:Checker → Checker → Checker)
  (x:Check α) : Check α := fun c =>
 match x (enter c) with
 | .ok a d => .ok a (leave c d)
 | .error f d => .error f (leave c d)

lemma inScope_eq (x:Check α) :
  inScope x = between Checker.enterScope (fun _ => Checker.leaveScope) x := rfl

lemma withFlow_eq (change:Flow → Flow) (x:Check α) :
  withFlow change x = between (fun c => { c with flow := change c.flow })
   (fun c d => { d with flow := c.flow }) x := rfl

lemma inSwitch_eq (frame:SwitchFrame) (x:Check α) :
  inSwitch frame x = between (fun c => { c with switches := frame :: c.switches })
   (fun _ d => { d with switches := d.switches.tail }) x := rfl

lemma Check.after_between (enter:Checker → Checker) (leave:Checker → Checker → Checker)
  (x:Check α) (c:Checker) : (between enter leave x).after c = leave c (x.after (enter c)) := by
 unfold Check.after Check.between
 cases x (enter c) <;> rfl

def Check.Follows (R:Checker → Checker → Prop) (x:Check α) : Prop := ∀ c, R c (x.after c)

namespace Check.Follows

variable {R:Checker → Checker → Prop} {x:Check α} {k:α → Check β}

lemma bind (trans:∀ {a b c}, R a b → R b c → R a c) (hx:Follows R x)
  (hk:∀ a, Follows R (k a)) : Follows R (x >>= k) := by
 intro c
 have hc:=hx c
 unfold Check.after at hc ⊢
 simp only [Bind.bind,EStateM.bind]
 cases h : x c with
 | ok a d =>
  rw [h] at hc
  exact trans hc (hk a d)
 | error f d =>
  rw [h] at hc
  exact hc

lemma reporting (report:∀ {c d}, R c d → ∀ f, R c (d.report f)) {x:Check Unit}
  (hx:Follows R x) : Follows R (reporting x) := by
 intro c
 have hc:=hx c
 unfold Check.after Check.reporting at *
 cases h : x c with
 | ok a d =>
  rw [h] at hc
  exact hc
 | error f d =>
  rw [h] at hc
  exact report hc f

end Check.Follows

lemma reporting_eq_ok (x:Check Unit) (c:Checker) :
  reporting x c = .ok () ((reporting x).after c) := by
 unfold Check.after Check.reporting
 cases x c <;> rfl

lemma after_checkExternals_cons (x:External) (xs:List External) (c:Checker) :
  (checkExternals (x :: xs)).after c =
   (checkExternals xs).after ((reporting (checkExternal x)).after c) := by
 unfold Check.after
 simp only [checkExternals,Check.reporting,Bind.bind,EStateM.bind]
 cases checkExternal x c <;> rfl

lemma after_checkExternals_append (xs ys:List External) (c:Checker) :
  (checkExternals (xs ++ ys)).after c =
   (checkExternals ys).after ((checkExternals xs).after c) := by
 induction xs generalizing c with
 | nil => rfl
 | cons x xs ih => rw [List.cons_append,after_checkExternals_cons,ih,after_checkExternals_cons]

lemma checkExternals_eq_ok (es:List External) (c:Checker) :
  checkExternals es c = .ok () ((checkExternals es).after c) := by
 induction es generalizing c with
 | nil => rfl
 | cons e es ih =>
  rw [after_checkExternals_cons,checkExternals,bind_ok (reporting_eq_ok _ _),ih]

lemma Checker.analyze_eq (c:Checker) (u:ProgramUnit) :
  c.analyze u = (checkExternals u.externals).after c := by
 rw [Checker.analyze,checkExternals_eq_ok]

lemma foldl_analyze (us:List ProgramUnit) (c:Checker) :
  us.foldl Checker.analyze c = (checkExternals (us.flatMap (·.externals))).after c := by
 induction us generalizing c with
 | nil => rfl
 | cons u us ih =>
  rw [List.foldl_cons,ih,List.flatMap_cons,after_checkExternals_append,Checker.analyze_eq]

lemma after_checkExternals_keeps {P:Checker → Prop}
  (hstep:∀ e c, P c → P ((reporting (checkExternal e)).after c)) {c:Checker} (hc:P c)
  (es:List External) : P ((checkExternals es).after c) := by
 induction es generalizing c with
 | nil => exact hc
 | cons e es ih =>
  rw [after_checkExternals_cons]
  exact ih (hstep e c hc)

end CCheck
