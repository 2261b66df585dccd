import CCheck.Proofs.Specifiers.Bodies

/-! # Specifiers in expressions and types

Checking an expression and resolving a type meet all specifiers that stand in them. -/

set_option autoImplicit false

namespace CCheck

open Check
open Site (topsAll sureAll)

namespace Setting

variable {α β:Type} {Γ:Setting} {ss ss':List Site} {pre:List Node}
 {x:Check α} {k:α → Check β}

/-- With success the step meets all specifiers of the sites. -/
def Resolves (Γ:Setting) (ss:List Site) (x:Check α) : Prop :=
 ∀ pre, Γ.Does false pre ss (topsAll ss) x

def Evaluates (Γ:Setting) (ss:List Site) (x:Check α) : Prop :=
 ∀ inSize pre, Γ.Does inSize pre ss (sureAll ss) x

/-! ### Rules for resolving -/

namespace Resolves

lemma calm (hx:Γ.Calms x) : Γ.Resolves [] x := fun _ => hx.does

lemma look (hx:undisturbing.Looks [] x) : Γ.Resolves [] x := calm (.look hx)

lemma pure (a:α) : Γ.Resolves [] (pure a) := look (.pure a)

lemma fail (cause:Cause) (span:Span) :
  Γ.Resolves ss (Check.fail cause span:Check α) := fun _ => .fail cause span

lemma bind (hx:Γ.Resolves ss x) (hk:∀ a, Γ.Resolves ss' (k a)) :
  Γ.Resolves (ss ++ ss') (x >>= k) := by
 intro pre
 rw [Site.topsAll_append]
 exact (hx pre).bind fun a => hk a _

lemma last (hx:Γ.Resolves ss x) (hk:∀ a, Γ.Resolves [] (k a)) : Γ.Resolves ss (x >>= k) :=
 fun pre => (hx pre).last fun a => hk a _

lemma first (hx:Γ.Resolves [] x) (hk:∀ a, Γ.Resolves ss (k a)) : Γ.Resolves ss (x >>= k) :=
 fun pre => (hx pre).first fun a => hk a pre

lemma ite {p:Prop} [Decidable p] {y:Check α} (yes:Γ.Resolves ss x)
  (no:Γ.Resolves ss y) : Γ.Resolves ss (if p then x else y) :=
 fun pre => (yes pre).ite (no pre)

lemma value {x:Check CType} (hx:Γ.Resolves ss x) : Γ.Resolves ss (value x) :=
 fun pre => (hx pre).value

lemma of_subset (ss':List Site) (h:∀ pre, Γ.Does false pre ss' (topsAll ss) x)
  (hss:ss' ⊆ ss) :
  Γ.Resolves ss x :=
 fun pre => (h pre).mono hss (List.Subset.refl _)

end Resolves

/-! ### Rules for evaluation -/

namespace Evaluates

lemma look (hx:undisturbing.Looks [] x) : Γ.Evaluates [] x := fun _ _ => .look hx

lemma pure (a:α) : Γ.Evaluates [] (pure a) := look (.pure a)

lemma fail (cause:Cause) (span:Span) :
  Γ.Evaluates ss (Check.fail cause span:Check α) := fun _ _ => .fail cause span

lemma ite {p:Prop} [Decidable p] {y:Check α} (yes:Γ.Evaluates ss x)
  (no:Γ.Evaluates ss y) : Γ.Evaluates ss (if p then x else y) :=
 fun inSize pre => (yes inSize pre).ite (no inSize pre)

lemma skippable (hx:Γ.Evaluates ss x) (hss:ss ⊆ ss') : Γ.Evaluates [.skippable ss'] x :=
 fun inSize pre => ((hx inSize pre).mono hss (List.Subset.refl _)).skippable

lemma of_resolves (hx:Γ.Resolves ss x) : Γ.Evaluates ss x :=
 fun _ pre => ((hx pre).mono (List.Subset.refl _) (Site.sureAll_subset_topsAll ss)).evaluated

lemma bind (hx:Γ.Evaluates ss x) (hk:∀ a, Γ.Evaluates ss' (k a)) :
  Γ.Evaluates (ss ++ ss') (x >>= k) := by
 intro inSize pre
 rw [Site.sureAll_append]
 exact (hx inSize pre).bind fun a => hk a inSize _

lemma last (hx:Γ.Evaluates ss x) (hk:∀ a, Γ.Evaluates [] (k a)) :
  Γ.Evaluates ss (x >>= k) :=
 fun inSize pre => (hx inSize pre).last fun a => hk a inSize _

lemma first (hx:Γ.Calms x) (hk:∀ a, Γ.Evaluates ss (k a)) : Γ.Evaluates ss (x >>= k) :=
 fun inSize pre => hx.does.first fun a => hk a inSize pre

end Evaluates

/-! ### Steps with parts -/

section Parts

variable {t:Check CType} {u:Check Int64} {e:Expr}

lemma Evaluates.isNull (hu:Γ.Evaluates e.constants u) (type:CType)
  (hpre:topsAll e.sites ⊆ pre) : Γ.Does false pre e.sites [] (isNull e type u) :=
 Does.isNull (hu false pre) hpre

lemma Resolves.compared {k:CType → Bool → Check β} (ht:Γ.Resolves e.sites t)
  (hu:Γ.Evaluates e.constants u) (hk:∀ source null, undisturbing.Looks [] (k source null)) :
  Γ.Resolves e.sites (do
   let source ← Check.value t
   k source (← Check.isNull e source u)) := by
 refine .of_subset (e.sites ++ e.sites) (fun pre => ?_) (by simp)
 rw [← List.append_nil (topsAll e.sites)]
 refine (ht pre).value.bind fun source => ?_
 exact (hu.isNull source (List.subset_append_right _ _)).last fun null => .look (hk source null)

lemma Resolves.convert (target:CType) (ht:Γ.Resolves e.sites t)
  (hu:Γ.Evaluates e.constants u) : Γ.Resolves e.sites (convert target e t u) :=
 ht.compared hu fun _ _ => .ite (.pure _) (.failNamingBoth _ _ (fun _ _ => rfl) _)

lemma Resolves.argument (name:String) (index:Nat) (param:Option CType)
  (ht:Γ.Resolves e.sites t) (hu:Γ.Evaluates e.constants u) :
  Γ.Resolves e.sites (argument name index param e t u) := by
 cases param with
 | none => exact ht.value.last fun _ => .pure _
 | some p =>
  exact ht.compared hu fun _ _ => .ite (.pure _) (.failNamingBoth _ _ (fun _ _ => rfl) _)

lemma Resolves.identType (i:Ident) : Γ.Resolves [] (identType i) := by
 refine .look fun c => ?_
 have hstays:=Account.Looks.identType (A := undisturbing) i c
 generalize Check.identType i c = o at hstays
 cases hstays with
 | ok a => exact .ok a
 | error state => exact .error state

lemma Resolves.referEnum (tag:Option Ident) : Γ.Resolves [] (referEnum tag) := by
 refine .look ?_
 cases tag with
 | none => exact .pure _
 | some tag =>
  refine .get fun c => ?_
  split
  · exact .pure _
  · exact .fail rfl _
  · exact .fail rfl _

lemma Resolves.storeType (ht:Γ.Resolves e.sites t) : Γ.Resolves e.sites (storeType e t) := by
 cases e with
 | ident i => exact .identType i
 | _ => exact ht

lemma Resolves.modifiable (target:Expr) (ht:Γ.Resolves ss t) :
  Γ.Resolves ss (modifiable target t) := by
 refine ht.last fun t => (look (.of (.designatesObject fun _ _ => trivial))).first fun b => ?_
 refine .ite (.fail _ _) (.ite ?_ (.pure _))
 exact .look (.failNaming _ (fun _ => rfl) _)

lemma Resolves.condition (test:Expr) (ht:Γ.Resolves ss t) :
  Γ.Resolves ss (condition test t) := by
 refine ht.value.last fun t => .ite (.pure _) ?_
 exact .look (.failNaming _ (fun _ => rfl) _)

lemma Resolves.calleeType (span:Span) (ht:Γ.Resolves e.sites t) :
  Γ.Resolves e.sites (calleeType e t span) := by
 cases e with
 | ident i =>
  have hcallee:undisturbing.Looks [] (libraryCallee? (.ident i)) := by
   refine .lookup fun y => ?_
   cases y <;> exact .pure _
  refine (look hcallee).first fun f => ?_
  cases f with
  | none => exact ht.value
  | some f => exact (calm (.recordCall f span)).first fun _ => .pure _
 | _ => exact ht.value

lemma Resolves.operands {l r:Expr} {tl tr:Check CType} {ul ur:Check Int64}
  {k:CType → CType → Bool → Bool → Check CType} (htl:Γ.Resolves l.sites tl)
  (htr:Γ.Resolves r.sites tr) (hul:Γ.Evaluates l.constants ul)
  (hur:Γ.Evaluates r.constants ur) (hk:∀ a b m n, undisturbing.Looks [] (k a b m n)) :
  Γ.Resolves (l.sites ++ r.sites) (do
   let a ← Check.value tl
   let b ← Check.value tr
   let m ← Check.isNull l a ul
   let n ← Check.isNull r b ur
   k a b m n) := by
 refine .of_subset (l.sites ++ (r.sites ++ (l.sites ++ r.sites))) (fun pre => ?_) (by simp)
 rw [Site.topsAll_append,← List.append_nil (topsAll r.sites)]
 refine (htl pre).value.bind fun a => (htr _).value.bind fun b => ?_
 refine (hul.isNull a (by simp)).bind fun m => ?_
 exact (hur.isNull b (by simp)).last fun n => .look (hk a b m n)

end Parts

/-! ### Trees -/

variable (Γ)

mutual

lemma resolves_checkExpr : ∀ e : Expr, Γ.Resolves e.sites (checkExpr e)
 | .literal l => .pure _
 | .ident i => (Resolves.identType i).first fun _ =>
  (Resolves.calm (.markUsed i.name)).first fun _ => .pure _
 | .binary op l r span => by
  have hl:=resolves_checkExpr l
  have hr:=resolves_checkExpr r
  rw [checkExpr,Expr.sites]
  cases op.takesNull with
  | true =>
   exact hl.operands hr (evaluates_evalConst l) (evaluates_evalConst r)
    fun a b m n => .of (.binaryType op a b m n span False.elim)
  | false =>
   refine hl.value.bind fun a => hr.value.last fun b => ?_
   exact .look (.of (.binaryType op a b false false span False.elim))
 | .unary op e span => by
  have he:=resolves_checkExpr e
  rw [checkExpr,Expr.sites]
  refine .ite ?_ (.ite ?_ ?_)
  · exact he.last fun t => .look (.of (.addressType (fun _ _ => trivial) t False.elim))
  · exact (he.modifiable e).last fun t => .look (.of (.unaryType op t span False.elim))
  · exact he.value.last fun t => .look (.of (.unaryType op t span False.elim))
 | .assign op target e span => by
  have htarget:=resolves_checkExpr target
  have he:=resolves_checkExpr e
  rw [checkExpr,Expr.sites]
  cases op.binary? with
  | none =>
   refine (htarget.storeType.modifiable target).bind fun t => ?_
   exact (he.convert t (evaluates_evalConst e)).last fun _ => .pure _
  | some op =>
   refine (htarget.modifiable target).bind fun t => ?_
   exact he.value.last fun u => .look (.of (.compound op t u span False.elim))
 | .cond test yes no _ =>
  ((resolves_checkExpr test).condition test).bind fun _ =>
   (resolves_checkExpr yes).operands (resolves_checkExpr no) (evaluates_evalConst yes)
    (evaluates_evalConst no) fun a b m n => .of (.conditionalType a b m n no.span False.elim)
 | .call callee args span => by
  refine ((resolves_checkExpr callee).calleeType span).bind fun t => ?_
  refine (Resolves.look (.of (.signature callee t False.elim))).first fun f => ?_
  refine (Resolves.look (.of (.argumentCount _ f _ span))).first fun _ => ?_
  exact (resolves_checkArgs _ 1 (comparedParams f) args).last fun _ => .pure _
 | .index base index span => by
  refine (resolves_checkExpr base).value.bind fun a => ?_
  exact (resolves_checkExpr index).value.last fun b =>
   .look (.of (.elementType base a b span False.elim))
 | .member base name arrow span => by
  have hbase:=resolves_checkExpr base
  rw [checkExpr,Expr.sites]
  refine .ite ?_ ?_
  · refine hbase.value.last fun t => (Resolves.look (.of (.arrowTarget t span False.elim))).first ?_
    exact fun u => .look (.of (.memberType u name span))
  · exact hbase.last fun t => .look (.of (.memberType t name span))
 | .cast type e span => by
  refine (resolves_resolveType type).bind fun target => ?_
  exact (resolves_checkExpr e).value.last fun source =>
   .look (.of (.castType source target span False.elim))
 | .sizeofType type span => (resolves_resolveType type).last fun t =>
  (Resolves.look (.of (.sizeOf t span))).first fun _ => .pure _
 | .sizeofExpr e span => (resolves_checkExpr e).last fun t =>
  (Resolves.look (.of (.sizeOf t span))).first fun _ => .pure _
 | .comma l r span => (resolves_checkExpr l).bind fun _ => (resolves_checkExpr r).value
termination_by structural e => e

lemma resolves_checkArgs (name:String) (index:Nat) (params:List CType) :
  ∀ es : List Expr, Γ.Resolves (Expr.sitesAll es) (checkArgs name index params es)
 | [] => .pure _
 | e :: es =>
  ((resolves_checkExpr e).argument name index params.head? (evaluates_evalConst e)).bind
   fun _ => resolves_checkArgs name (index + 1) params.tail es

lemma evaluates_evalConst : ∀ e : Expr, Γ.Evaluates e.constants (evalConst e)
 | .literal (.int n _) => .pure _
 | .literal (.char code _) => .pure _
 | .literal (.float x s) => .fail _ s
 | .literal (.string value s) => .fail _ s
 | .ident i => .look (.of (.identConstant trivial))
 | .unary op e span =>
  (evaluates_evalConst e).last fun v => .look (.of (.constant (op.eval? v) span))
 | .binary op l r span => by
  refine (evaluates_evalConst l).bind fun a => ?_
  have hr:Γ.Evaluates r.constants (do constant (op.eval? a (← evalConst r)) span):=
   (evaluates_evalConst r).last fun b => .look (.of (.constant (op.eval? a b) span))
  -- The logical operators alone skip the right operand.
  by_cases hlogical : (op = .and || op = .or) = true
  · rw [BinOp.operandSites,if_pos hlogical]
    have hskipped:∀ v, Γ.Evaluates [.skippable r.constants] (Pure.pure v:Check Int64):=
     fun v => (Evaluates.pure v).skippable (List.nil_subset _)
    exact .ite (hskipped 0) (.ite (hskipped 1) (hr.skippable (List.Subset.refl _)))
  · rw [BinOp.operandSites,if_neg hlogical]
    rw [Bool.or_eq_true,decide_eq_true_eq,decide_eq_true_eq,not_or] at hlogical
    rw [decide_eq_false hlogical.1,decide_eq_false hlogical.2,Bool.false_and,Bool.false_and]
    exact hr
 | .cond test yes no _ =>
  (evaluates_evalConst test).bind fun v =>
   .ite ((evaluates_evalConst yes).skippable (List.subset_append_left _ _))
    ((evaluates_evalConst no).skippable (List.subset_append_right _ _))
 | .cast type e span =>
  (Evaluates.of_resolves (resolves_resolveType type)).bind fun t =>
   .ite ((evaluates_evalConst e).last fun v => .pure _) (.fail _ span)
 | .sizeofType type span => (Evaluates.of_resolves (resolves_resolveType type)).last fun t =>
  .look (.of (.sizeConstant t span))
 | .sizeofExpr e span => (Evaluates.of_resolves (resolves_checkExpr e)).last fun t =>
  .look (.of (.sizeConstant t span))
 | .assign _ _ _ span => .fail _ span
 | .call _ _ span => .fail _ span
 | .index _ _ span => .fail _ span
 | .member _ _ _ span => .fail _ span
 | .comma _ _ span => .fail _ span

lemma resolves_resolveType : ∀ t : TypeExpr, Γ.Resolves t.sites (resolveType t)
 | ⟨form,_,span⟩ => (resolves_resolveForm span form).last fun _ => .pure _

lemma resolves_resolveForm (span:Span) :
  ∀ form : TypeForm, Γ.Resolves form.sites (resolveForm span form)
 | .base b => .pure _
 | .record spec => (resolves_resolveRecord spec).last fun _ => .pure _
 | .enum spec => (resolves_resolveEnum spec).last fun _ => .pure _
 | .named name => .look (.namedType name span)
 | .pointer t => (resolves_resolveType t).last fun _ => .pure _
 | .array elem none vla => (resolves_resolveType elem).last fun t =>
  (Resolves.look (.of (.arrayElement t elem.span False.elim))).first fun _ => .pure _
 | .array elem (some size) vla => by
  refine (resolves_resolveType elem).bind fun t => ?_
  refine (Resolves.look (.of (.arrayElement t elem.span False.elim))).first fun t => ?_
  refine Resolves.last (fun pre => ?_) fun n => .look (.of (.sizedArray t n size.span False.elim))
  rw [Site.topsAll_singleton]
  exact .arrayLength (evaluates_evalConst size) (resolves_checkExpr size)
 | .function ret params variadic prototyped => by
  refine (resolves_resolveType ret).bind fun t => ?_
  refine (Resolves.look (.of (.returnable t span False.elim))).first fun t => ?_
  exact (resolves_resolveParams params).last fun ps => .pure _

lemma resolves_resolveParams :
  ∀ ps : List Param, Γ.Resolves (Param.sitesAll ps) (resolveParams ps)
 | [] => .pure _
 | p :: ps =>
  (resolves_resolveParam p).bind fun _ => (resolves_resolveParams ps).last fun _ => .pure _

lemma resolves_resolveParam : ∀ p : Param, Γ.Resolves p.sites (resolveParam p)
 | ⟨name,⟨form,quals,s⟩,span⟩ => by
  cases form with
  | array elem size vla =>
   exact (resolves_resolveType elem).last fun _ => .look (.of (.paramType name _ span False.elim))
  | _ =>
   exact (resolves_resolveType ⟨_,quals,s⟩).last fun _ =>
    .look (.of (.paramType name _ span False.elim))

lemma resolves_resolveRecord : ∀ spec : RecordSpec, Γ.Resolves spec.sites (resolveRecord spec)
 | ⟨kind,tag,none,_⟩ => .calm (.referRecord kind tag)
 | ⟨kind,tag,some members,span⟩ => fun pre => by
  rw [RecordSpec.sites,Site.topsAll_singleton]
  exact .resolveRecord (resolves_resolveMembers [] members)

lemma resolves_resolveMembers (seen:List String) :
  ∀ ms : List Member, Γ.Resolves (Member.sitesAll ms) (resolveMembers seen ms)
 | [] => .pure _
 | ⟨name,type,span⟩ :: ms => by
  refine (Resolves.look (.of (.freshMember seen name))).first fun _ => ?_
  refine (resolves_resolveType type).bind fun t => ?_
  refine (Resolves.look (.of (.memberOk t ms.isEmpty span))).first fun _ => ?_
  exact (resolves_resolveMembers (name.name :: seen) ms).last fun _ => .pure _

lemma resolves_resolveEnum : ∀ spec : EnumSpec, Γ.Resolves spec.sites (resolveEnum spec)
 | ⟨tag,none,_⟩ => .referEnum tag
 | ⟨tag,some es,span⟩ => fun pre => by
  rw [EnumSpec.sites,Site.topsAll_singleton]
  exact .resolveEnum (evaluates_declareEnumerators 0 es false)

lemma evaluates_declareEnumerators (next:Int64) :
  ∀ es : List Enumerator, Γ.Evaluates (Enumerator.sitesAll es) (declareEnumerators next es)
 | [] => .pure _
 | ⟨_,none,_⟩ :: es =>
  .first (.declare _) fun _ => evaluates_declareEnumerators (next + 1) es
 | ⟨_,some e,_⟩ :: es =>
  (evaluates_evalConst e).bind fun v =>
   .first (.declare _) fun _ => evaluates_declareEnumerators (v + 1) es

end

end Setting

end CCheck
