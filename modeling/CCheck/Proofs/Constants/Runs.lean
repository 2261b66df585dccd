import CCheck.Proofs.Checking.After
import CCheck.Proofs.Checking.Lockstep
import CCheck.Proofs.Scoping.Views

/-! # Successful runs over an expression

What the type and the constant value of an expression say about those of its parts, where both are
found. -/

set_option autoImplicit false

namespace CCheck

open Check

variable {α β:Type} {c c' d d':Checker} {s:SymbolTable} {t u:CType} {v:Int64}

variable {a b:CType} {m n:Bool} {name:String} {op:UnaryOp} {x:Check CType}
variable {e l r test yes no:Expr} {i:Ident} {type:TypeExpr} {span:Span}

def Symbol.entity (x:Symbol) : SymbolKind × CType := (x.kind,x.type)

def unchanged (s:SymbolTable) : Assertion (fun _ _ => True) :=
 .ofSymbols
  (fun t => ∀ name, (t.lookup? name).map Symbol.entity = (s.lookup? name).map Symbol.entity ∨
   ∃ v u, (t.lookup? name).map Symbol.entity = some (.constant v,u))
  (fun {t} h name other => by
   have hviews:=SymbolTable.views_markUsed (f := Symbol.entity) t name fun _ => rfl
   rw [SymbolTable.map_lookup?,hviews,← SymbolTable.map_lookup?]
   exact h other)
  (fun {t t' name v} h _ ht other => by
   rw [SymbolTable.map_lookup?_declare ht]
   split
   · exact .inr ⟨_,_,rfl⟩
   · exact h other)
  (fun {t t' name tag span} h ht other => by
   rw [SymbolTable.map_lookup?,SymbolTable.views_declareTag ht,← SymbolTable.map_lookup?]
   exact h other)

lemma unchanged_self (c:Checker) : (unchanged c.symbols).holds c := fun _ => .inl rfl

lemma unchanged_checkExpr (hc:(unchanged s).holds c) (h:checkExpr e c = .ok t c') :
  (unchanged s).holds c' :=
 (Assertion.Kept.checkExpr (A := unchanged s) fun _ _ => trivial).of_ok hc h

lemma unchanged_evalConst (hc:(unchanged s).holds c) (h:evalConst e c = .ok v c') :
  (unchanged s).holds c' :=
 (Assertion.Kept.evalConst (A := unchanged s) fun _ _ => trivial).of_ok hc h

lemma namedType_eq_ok (h:namedType name span c = .ok t c') :
  (c.symbols.lookup? name).map Symbol.entity = some (.type,t) := by
 have hlookup:lookup? name c = .ok (c.symbols.lookup? name) c:=rfl
 rw [namedType,bind_ok hlookup] at h
 cases hx : c.symbols.lookup? name with
 | none =>
  rw [hx] at h
  cases h
 | some x =>
  rw [hx] at h
  dsimp only at h
  split at h
  · rename_i hkind
    cases h
    exact congrArg (fun k => some (k,x.type)) (beq_iff_eq.mp hkind)
  · cases h

lemma typedef_of_unchanged (hc:(unchanged s).holds c)
  (h:(c.symbols.lookup? name).map Symbol.entity = some (.type,t)) :
  (s.lookup? name).map Symbol.entity = some (.type,t) := by
 obtain hsame | ⟨v,u,hconstant⟩:=hc name
 · exact hsame.symm.trans h
 · rw [h] at hconstant
   cases hconstant

lemma sizedArray_eq_ok {elem:CType} {length:Option Nat}
  (h:sizedArray elem length span c = .ok t c') :
  t = .plain (.array elem length length.isNone) := by
 obtain ⟨_,_,-,h⟩:=bind_eq_ok h
 split at h
 · cases h
 · cases h
   rfl

lemma resolveForm_agrees {form:TypeForm} (hc:(unchanged s).holds c)
  (hd:(unchanged s).holds d) (h:resolveForm span form c = .ok t c')
  (h':resolveForm span form d = .ok u d') (hint:t.isInteger = true) : u = t := by
 cases form with
 | base b =>
  cases h
  cases h'
  rfl
 | named name =>
  have hnamed:=typedef_of_unchanged hc (namedType_eq_ok h)
  have hnamed':=typedef_of_unchanged hd (namedType_eq_ok h')
  rw [hnamed] at hnamed'
  cases hnamed'
  rfl
 | enum spec =>
  rw [resolveForm] at h h'
  obtain ⟨_,c₁,-,h⟩:=bind_eq_ok h
  obtain ⟨_,d₁,-,h'⟩:=bind_eq_ok h'
  cases h
  cases h'
  rfl
 | record spec =>
  rw [resolveForm] at h
  obtain ⟨id,c₁,-,h⟩:=bind_eq_ok h
  cases h
  cases hint
 | pointer type =>
  rw [resolveForm] at h
  obtain ⟨_,c₁,-,h⟩:=bind_eq_ok h
  cases h
  cases hint
 | array elem size vla =>
  cases size with
  | none =>
   rw [resolveForm] at h
   obtain ⟨_,_,-,h⟩:=bind_eq_ok h
   obtain ⟨_,_,-,h⟩:=bind_eq_ok h
   cases h
   cases hint
  | some size =>
   rw [resolveForm] at h
   obtain ⟨_,_,-,h⟩:=bind_eq_ok h
   obtain ⟨_,_,-,h⟩:=bind_eq_ok h
   obtain ⟨_,_,-,h⟩:=bind_eq_ok h
   rw [sizedArray_eq_ok h] at hint
   cases hint
 | function ret params variadic prototyped =>
  rw [resolveForm] at h
  obtain ⟨_,_,-,h⟩:=bind_eq_ok h
  obtain ⟨_,_,-,h⟩:=bind_eq_ok h
  obtain ⟨_,_,-,h⟩:=bind_eq_ok h
  cases h
  cases hint

lemma resolveType_agrees (hc:(unchanged s).holds c) (hd:(unchanged s).holds d)
  (h:resolveType type c = .ok t c') (h':resolveType type d = .ok u d')
  (hint:t.isInteger = true) : u = t := by
 obtain ⟨form,quals,span⟩:=type
 rw [resolveType] at h h'
 obtain ⟨t₁,_,hform,h⟩:=bind_eq_ok h
 obtain ⟨u₁,_,hform',h'⟩:=bind_eq_ok h'
 cases h
 cases h'
 rw [resolveForm_agrees hc hd hform hform' hint]

/-! ### Successful runs -/

lemma eq_value_of_ok (h:value x c = .ok t c') :
  ∃ a, x c = .ok a c' ∧ t = a.value := by
 obtain ⟨a,c₁,hx,h⟩:=bind_eq_ok h
 cases h
 exact ⟨a,hx,rfl⟩

lemma constant_eq_ok {o:Option Int64} (h:constant o span c = .ok v c') :
  o = some v ∧ c' = c := by
 cases o with
 | none => cases h
 | some w =>
  cases h
  exact ⟨rfl,rfl⟩

lemma evalConst_unary (h:evalConst (.unary op e span) d = .ok v d') :
  ∃ x, evalConst e d = .ok x d' ∧ op.eval? x = some v := by
 rw [evalConst] at h
 obtain ⟨x,d₁,hx,h⟩:=bind_eq_ok h
 obtain ⟨hop,rfl⟩:=constant_eq_ok h
 exact ⟨x,hx,hop⟩

lemma unaryType_eq_ok (h:unaryType op a span c = .ok t c') :
  c' = c ∧ ∃ records, op.type? records a = some t := by
 obtain ⟨_,_,hget,h⟩:=bind_eq_ok h
 cases hget
 cases htype : op.type? c.records a with
 | none =>
  rw [htype] at h
  cases h
 | some u =>
  rw [htype] at h
  cases h
  exact ⟨rfl,_,htype⟩

lemma binaryType_eq_ok {op:BinOp}
  (h:binaryType op a b m n span c = .ok t c') :
  ∃ records, op.type? records a b m n = some t := by
 obtain ⟨_,_,hget,h⟩:=bind_eq_ok h
 cases hget
 cases htype : op.type? c.records a b m n with
 | none =>
  rw [htype] at h
  cases h
 | some u =>
  rw [htype] at h
  cases h
  exact ⟨_,htype⟩

lemma checkExpr_unary {x y:Int64} (hop:op.eval? x = some y)
  (h:checkExpr (.unary op e span) c = .ok t c') :
  ∃ a records, checkExpr e c = .ok a c' ∧ op.type? records a.value = some t := by
 have hplain:op ≠ .addrOf ∧ op.isIncrement = false := by
  cases op with
  | neg | plus | not | bitNot => exact ⟨nofun,rfl⟩
  | _ => cases hop
 rw [checkExpr,if_neg hplain.1,hplain.2] at h
 obtain ⟨_,c₁,hvalue,h⟩:=bind_eq_ok h
 obtain ⟨a,ha,rfl⟩:=eq_value_of_ok hvalue
 obtain ⟨rfl,records,htype⟩:=unaryType_eq_ok h
 exact ⟨a,records,ha,htype⟩

lemma evalConst_binary {op:BinOp} (h:evalConst (.binary op l r span) d = .ok v d') :
  ∃ x d₁, evalConst l d = .ok x d₁ ∧ (op = .and ∧ v = 0 ∨ op = .or ∧ v = 1 ∨
   ∃ y, evalConst r d₁ = .ok y d' ∧ op.eval? x y = some v) := by
 rw [evalConst] at h
 obtain ⟨x,d₁,hx,h⟩:=bind_eq_ok h
 refine ⟨x,d₁,hx,?_⟩
 split at h
 · rename_i hand
   cases h
   simp only [Bool.and_eq_true,decide_eq_true_eq] at hand
   exact .inl ⟨hand.1,rfl⟩
 split at h
 · rename_i hor
   cases h
   simp only [Bool.and_eq_true,decide_eq_true_eq] at hor
   exact .inr (.inl ⟨hor.1,rfl⟩)
 · obtain ⟨y,d₂,hy,h⟩:=bind_eq_ok h
   obtain ⟨hop,rfl⟩:=constant_eq_ok h
   exact .inr (.inr ⟨y,hy,hop⟩)

lemma checkExpr_binary {op:BinOp} (h:checkExpr (.binary op l r span) c = .ok t c') :
  ∃ a b c₁ c₂, checkExpr l c = .ok a c₁ ∧ checkExpr r c₁ = .ok b c₂ ∧
   ∃ records m n, op.type? records a.value b.value m n = some t := by
 rw [checkExpr] at h
 obtain ⟨_,c₁,hleft,h⟩:=bind_eq_ok h
 obtain ⟨_,c₂,hright,h⟩:=bind_eq_ok h
 obtain ⟨a,ha,rfl⟩:=eq_value_of_ok hleft
 obtain ⟨b,hb,rfl⟩:=eq_value_of_ok hright
 refine ⟨a,b,c₁,c₂,ha,hb,?_⟩
 split at h
 · obtain ⟨m,_,-,h⟩:=bind_eq_ok h
   obtain ⟨n,_,-,h⟩:=bind_eq_ok h
   obtain ⟨records,htype⟩:=binaryType_eq_ok h
   exact ⟨records,m,n,htype⟩
 · obtain ⟨records,htype⟩:=binaryType_eq_ok h
   exact ⟨records,false,false,htype⟩

lemma condition_eq_ok {a:Unit} (h:condition e x c = .ok a c') :
  ∃ t, x c = .ok t c' := by
 obtain ⟨_,c₁,hvalue,h⟩:=bind_eq_ok h
 obtain ⟨t,ht,rfl⟩:=eq_value_of_ok hvalue
 split at h
 · cases h
   exact ⟨t,ht⟩
 · cases h

lemma conditionalType_eq_ok
  (h:conditionalType a b m n span c = .ok t c') : a.conditional? b m n = some t := by
 rw [conditionalType] at h
 cases htype : a.conditional? b m n with
 | none =>
  rw [htype] at h
  cases h
 | some u =>
  rw [htype] at h
  cases h
  rfl

lemma evalConst_cond (h:evalConst (.cond test yes no span) d = .ok v d') :
  ∃ x d₁, evalConst test d = .ok x d₁ ∧
   (x ≠ 0 ∧ evalConst yes d₁ = .ok v d' ∨ x = 0 ∧ evalConst no d₁ = .ok v d') := by
 rw [evalConst] at h
 obtain ⟨x,d₁,hx,h⟩:=bind_eq_ok h
 refine ⟨x,d₁,hx,?_⟩
 split at h
 · rename_i hne
   exact .inl ⟨hne,h⟩
 · rename_i heq
   exact .inr ⟨Decidable.not_not.mp heq,h⟩

lemma checkExpr_cond (h:checkExpr (.cond test yes no span) c = .ok t c') :
  ∃ w a b c₁ c₂ c₃, checkExpr test c = .ok w c₁ ∧ checkExpr yes c₁ = .ok a c₂ ∧
   checkExpr no c₂ = .ok b c₃ ∧ ∃ m n, a.value.conditional? b.value m n = some t := by
 rw [checkExpr] at h
 obtain ⟨_,c₁,htest,h⟩:=bind_eq_ok h
 obtain ⟨_,c₂,hyes,h⟩:=bind_eq_ok h
 obtain ⟨_,c₃,hno,h⟩:=bind_eq_ok h
 obtain ⟨m,_,-,h⟩:=bind_eq_ok h
 obtain ⟨n,_,-,h⟩:=bind_eq_ok h
 obtain ⟨w,hw⟩:=condition_eq_ok htest
 obtain ⟨a,ha,rfl⟩:=eq_value_of_ok hyes
 obtain ⟨b,hb,rfl⟩:=eq_value_of_ok hno
 exact ⟨w,a,b,c₁,c₂,c₃,hw,ha,hb,m,n,conditionalType_eq_ok h⟩

lemma evalConst_cast (h:evalConst (.cast type e span) d = .ok v d') :
  ∃ u d₁ x, resolveType type d = .ok u d₁ ∧ evalConst e d₁ = .ok x d' ∧ v = truncate x u := by
 rw [evalConst] at h
 obtain ⟨u,d₁,hu,h⟩:=bind_eq_ok h
 split at h
 · obtain ⟨x,d₂,hx,h⟩:=bind_eq_ok h
   cases h
   exact ⟨u,d₁,x,hu,hx,rfl⟩
 · cases h

lemma checkExpr_cast (h:checkExpr (.cast type e span) c = .ok t c') :
  ∃ a c₁, resolveType type c = .ok a c₁ ∧ t = a.unqualified := by
 rw [checkExpr] at h
 obtain ⟨a,c₁,ha,h⟩:=bind_eq_ok h
 obtain ⟨b,c₂,-,h⟩:=bind_eq_ok h
 refine ⟨a,c₁,ha,?_⟩
 rw [castType] at h
 split at h
 · cases h
 · cases h
   rfl

lemma checkExpr_constant {w:Int64}
  (hi:(c.symbols.lookup? i.name).map Symbol.kind = some (.constant w))
  (h:checkExpr (.ident i) c = .ok t c') : t = .int := by
 obtain ⟨x,hx,hkind⟩:=Option.map_eq_some_iff.mp hi
 have hlookup:lookup? i.name c = .ok (some x) c := by
  rw [← hx]
  rfl
 rw [checkExpr] at h
 obtain ⟨u,c₁,htype,h⟩:=bind_eq_ok h
 rw [identType,bind_ok hlookup] at htype
 dsimp only at htype
 rw [hkind] at htype
 cases htype
 cases h
 rfl

lemma evalConst_ident (h:evalConst (.ident i) d = .ok v d') :
  (d.symbols.lookup? i.name).map Symbol.kind = some (.constant v) := by
 have hlookup:lookup? i.name d = .ok (d.symbols.lookup? i.name) d:=rfl
 rw [evalConst,identConstant,bind_ok hlookup] at h
 cases hkind : (d.symbols.lookup? i.name).map Symbol.kind with
 | none =>
  rw [hkind] at h
  cases h
 | some kind =>
  rw [hkind] at h
  cases kind with
  | constant w =>
   cases h
   rfl
  | _ => cases h

end CCheck
