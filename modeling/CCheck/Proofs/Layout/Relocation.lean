import Mathlib.Order.Monotone.Basic
import CCheck.Grammar
import CCheck.Analysis

/-! # Moving trees to other places

`mapSpans f` puts every span of a tree through `f` and leaves the rest alone. -/

set_option autoImplicit false

namespace CCheck

/-! ### Leaves -/

def Ident.mapSpan (f:Span → Span) (i:Ident) : Ident := ⟨i.name,f i.span⟩

@[simp] lemma Ident.mapSpan_name (f:Span → Span) (i:Ident) :
  (i.mapSpan f).name = i.name := rfl

@[simp] lemma Ident.mapSpan_span (f:Span → Span) (i:Ident) :
  (i.mapSpan f).span = f i.span := rfl

def Fault.mapSpan (f:Span → Span) (x:Fault) : Fault := ⟨x.cause,f x.span⟩

def Symbol.mapSpan (f:Span → Span) (x:Symbol) : Symbol := { x with span := f x.span }

@[simp] lemma Symbol.mapSpan_name (f:Span → Span) (x:Symbol) :
  (x.mapSpan f).name = x.name := rfl

def LibraryCall.mapSpan (f:Span → Span) (c:LibraryCall) : LibraryCall :=
 { c with span := f c.span }

def Literal.mapSpan (f:Span → Span) : Literal → Literal
 | .int n s => .int n (f s)
 | .float x s => .float x (f s)
 | .char code s => .char code (f s)
 | .string value s => .string value (f s)

/-! ### Expressions and types -/

mutual

def Expr.mapSpans (f:Span → Span) : Expr → Expr
 | .literal l => .literal (l.mapSpan f)
 | .ident i => .ident (i.mapSpan f)
 | .binary op l r s => .binary op (l.mapSpans f) (r.mapSpans f) (f s)
 | .unary op e s => .unary op (e.mapSpans f) (f s)
 | .assign op t e s => .assign op (t.mapSpans f) (e.mapSpans f) (f s)
 | .cond c a b s => .cond (c.mapSpans f) (a.mapSpans f) (b.mapSpans f) (f s)
 | .call e es s => .call (e.mapSpans f) (Expr.mapSpansAll f es) (f s)
 | .index e i s => .index (e.mapSpans f) (i.mapSpans f) (f s)
 | .member e m arrow s => .member (e.mapSpans f) (m.mapSpan f) arrow (f s)
 | .cast t e s => .cast (t.mapSpans f) (e.mapSpans f) (f s)
 | .sizeofType t s => .sizeofType (t.mapSpans f) (f s)
 | .sizeofExpr e s => .sizeofExpr (e.mapSpans f) (f s)
 | .comma l r s => .comma (l.mapSpans f) (r.mapSpans f) (f s)
termination_by structural e => e

def Expr.mapSpansAll (f:Span → Span) : List Expr → List Expr
 | [] => []
 | e :: es => e.mapSpans f :: Expr.mapSpansAll f es

def TypeExpr.mapSpans (f:Span → Span) : TypeExpr → TypeExpr
 | ⟨form,quals,s⟩ => ⟨form.mapSpans f,quals,f s⟩

def TypeForm.mapSpans (f:Span → Span) : TypeForm → TypeForm
 | .base b => .base b
 | .record spec => .record (spec.mapSpans f)
 | .enum spec => .enum (spec.mapSpans f)
 | .named name => .named name
 | .pointer t => .pointer (t.mapSpans f)
 | .array t none vla => .array (t.mapSpans f) none vla
 | .array t (some e) vla => .array (t.mapSpans f) (some (e.mapSpans f)) vla
 | .function t ps variadic prototyped =>
  .function (t.mapSpans f) (Param.mapSpansAll f ps) variadic prototyped

def RecordSpec.mapSpans (f:Span → Span) : RecordSpec → RecordSpec
 | ⟨kind,tag,none,s⟩ => ⟨kind,tag.map (·.mapSpan f),none,f s⟩
 | ⟨kind,tag,some ms,s⟩ =>
  ⟨kind,tag.map (·.mapSpan f),some (Member.mapSpansAll f ms),f s⟩

def Member.mapSpans (f:Span → Span) : Member → Member
 | ⟨name,type,s⟩ => ⟨name.mapSpan f,type.mapSpans f,f s⟩

def Member.mapSpansAll (f:Span → Span) : List Member → List Member
 | [] => []
 | m :: ms => m.mapSpans f :: Member.mapSpansAll f ms

def EnumSpec.mapSpans (f:Span → Span) : EnumSpec → EnumSpec
 | ⟨tag,none,s⟩ => ⟨tag.map (·.mapSpan f),none,f s⟩
 | ⟨tag,some es,s⟩ =>
  ⟨tag.map (·.mapSpan f),some (Enumerator.mapSpansAll f es),f s⟩

def Enumerator.mapSpans (f:Span → Span) : Enumerator → Enumerator
 | ⟨name,none,s⟩ => ⟨name.mapSpan f,none,f s⟩
 | ⟨name,some e,s⟩ => ⟨name.mapSpan f,some (e.mapSpans f),f s⟩

def Enumerator.mapSpansAll (f:Span → Span) : List Enumerator → List Enumerator
 | [] => []
 | e :: es => e.mapSpans f :: Enumerator.mapSpansAll f es

def Param.mapSpans (f:Span → Span) : Param → Param
 | ⟨name,type,s⟩ => ⟨name.map (·.mapSpan f),type.mapSpans f,f s⟩

def Param.mapSpansAll (f:Span → Span) : List Param → List Param
 | [] => []
 | p :: ps => p.mapSpans f :: Param.mapSpansAll f ps

end

lemma Expr.mapSpansAll_eq (f:Span → Span) (es:List Expr) :
  Expr.mapSpansAll f es = es.map (·.mapSpans f) := by
 induction es with
 | nil => rfl
 | cons e es ih => rw [Expr.mapSpansAll,ih,List.map_cons]

lemma Expr.mapSpansAll_length (f:Span → Span) (es:List Expr) :
  (Expr.mapSpansAll f es).length = es.length := by
 rw [Expr.mapSpansAll_eq,List.length_map]

lemma Member.mapSpansAll_eq (f:Span → Span) (ms:List Member) :
  Member.mapSpansAll f ms = ms.map (·.mapSpans f) := by
 induction ms with
 | nil => rfl
 | cons m ms ih => rw [Member.mapSpansAll,ih,List.map_cons]

lemma Enumerator.mapSpansAll_eq (f:Span → Span) (es:List Enumerator) :
  Enumerator.mapSpansAll f es = es.map (·.mapSpans f) := by
 induction es with
 | nil => rfl
 | cons e es ih => rw [Enumerator.mapSpansAll,ih,List.map_cons]

lemma Param.mapSpansAll_eq (f:Span → Span) (ps:List Param) :
  Param.mapSpansAll f ps = ps.map (·.mapSpans f) := by
 induction ps with
 | nil => rfl
 | cons p ps ih => rw [Param.mapSpansAll,ih,List.map_cons]

lemma Ident.mapSpan_mapSpan (f g:Span → Span) (i:Ident) :
  (i.mapSpan f).mapSpan g = i.mapSpan (g ∘ f) := rfl

lemma Ident.map_mapSpan_mapSpan (f g:Span → Span) (i:Option Ident) :
  (i.map (·.mapSpan f)).map (·.mapSpan g) = i.map (·.mapSpan (g ∘ f)) := by
 cases i <;> rfl

lemma Literal.mapSpan_mapSpan (f g:Span → Span) (l:Literal) :
  (l.mapSpan f).mapSpan g = l.mapSpan (g ∘ f) := by
 cases l <;> rfl

/-- One map after another is their composition, in each kind of tree: a case opens one node and
rewrites its subtrees. -/
lemma mapSpans_comp (f g:Span → Span) :
  (∀ e : Expr, (e.mapSpans f).mapSpans g = e.mapSpans (g ∘ f)) ∧
  (∀ t : TypeExpr, (t.mapSpans f).mapSpans g = t.mapSpans (g ∘ f)) ∧
  (∀ t : TypeForm, (t.mapSpans f).mapSpans g = t.mapSpans (g ∘ f)) ∧
  (∀ ps, Param.mapSpansAll g (Param.mapSpansAll f ps) = Param.mapSpansAll (g ∘ f) ps) ∧
  (∀ p : Param, (p.mapSpans f).mapSpans g = p.mapSpans (g ∘ f)) ∧
  (∀ r : EnumSpec, (r.mapSpans f).mapSpans g = r.mapSpans (g ∘ f)) ∧
  (∀ es, Enumerator.mapSpansAll g (Enumerator.mapSpansAll f es) =
   Enumerator.mapSpansAll (g ∘ f) es) ∧
  (∀ e : Enumerator, (e.mapSpans f).mapSpans g = e.mapSpans (g ∘ f)) ∧
  (∀ r : RecordSpec, (r.mapSpans f).mapSpans g = r.mapSpans (g ∘ f)) ∧
  (∀ ms, Member.mapSpansAll g (Member.mapSpansAll f ms) = Member.mapSpansAll (g ∘ f) ms) ∧
  (∀ m : Member, (m.mapSpans f).mapSpans g = m.mapSpans (g ∘ f)) ∧
  ∀ es, Expr.mapSpansAll g (Expr.mapSpansAll f es) = Expr.mapSpansAll (g ∘ f) es := by
 apply Expr.mapSpans.mutual_induct
 all_goals
  intros
  simp only [Expr.mapSpans,Expr.mapSpansAll,TypeExpr.mapSpans,TypeForm.mapSpans,
   RecordSpec.mapSpans,Member.mapSpans,Member.mapSpansAll,EnumSpec.mapSpans,
   Enumerator.mapSpans,Enumerator.mapSpansAll,Param.mapSpans,Param.mapSpansAll,
   Literal.mapSpan_mapSpan,Ident.mapSpan_mapSpan,Ident.map_mapSpan_mapSpan,
   Function.comp_apply, *]

lemma Expr.mapSpans_mapSpans (f g:Span → Span) (e:Expr) :
  (e.mapSpans f).mapSpans g = e.mapSpans (g ∘ f) := (mapSpans_comp f g).1 e

lemma TypeExpr.mapSpans_mapSpans (f g:Span → Span) (t:TypeExpr) :
  (t.mapSpans f).mapSpans g = t.mapSpans (g ∘ f) := (mapSpans_comp f g).2.1 t

lemma EnumSpec.mapSpans_mapSpans (f g:Span → Span) (r:EnumSpec) :
  (r.mapSpans f).mapSpans g = r.mapSpans (g ∘ f) := (mapSpans_comp f g).2.2.2.2.2.1 r

lemma RecordSpec.mapSpans_mapSpans (f g:Span → Span) (r:RecordSpec) :
  (r.mapSpans f).mapSpans g = r.mapSpans (g ∘ f) := (mapSpans_comp f g).2.2.2.2.2.2.2.2.1 r

/-! ### Initializers, declarations and statements -/

mutual

def Initializer.mapSpans (f:Span → Span) : Initializer → Initializer
 | .expr e => .expr (e.mapSpans f)
 | .list items s => .list (Initializer.mapSpansAll f items) (f s)
termination_by structural i => i

def Initializer.mapSpansAll (f:Span → Span) : List Initializer → List Initializer
 | [] => []
 | i :: is => i.mapSpans f :: Initializer.mapSpansAll f is

end

lemma Initializer.mapSpansAll_eq (f:Span → Span) (is:List Initializer) :
  Initializer.mapSpansAll f is = is.map (·.mapSpans f) := by
 induction is with
 | nil => rfl
 | cons i is ih => rw [Initializer.mapSpansAll,ih,List.map_cons]

lemma Initializer.mapSpansAll_length (f:Span → Span) (is:List Initializer) :
  (Initializer.mapSpansAll f is).length = is.length := by
 rw [Initializer.mapSpansAll_eq,List.length_map]

def VarDecl.mapSpans (f:Span → Span) (d:VarDecl) : VarDecl :=
 ⟨d.name.mapSpan f,d.type.mapSpans f,d.storage,d.init.map (·.mapSpans f),f d.span⟩

def FunctionDecl.mapSpans (f:Span → Span) (d:FunctionDecl) : FunctionDecl :=
 ⟨d.name.mapSpan f,d.type.mapSpans f,d.storage,d.isInline,f d.span⟩

def TypedefDecl.mapSpans (f:Span → Span) (d:TypedefDecl) : TypedefDecl :=
 ⟨d.name.mapSpan f,d.type.mapSpans f,f d.span⟩

def Declaration.mapSpans (f:Span → Span) : Declaration → Declaration
 | .var d => .var (d.mapSpans f)
 | .func d => .func (d.mapSpans f)
 | .record spec => .record (spec.mapSpans f)
 | .enum spec => .enum (spec.mapSpans f)
 | .typedef d => .typedef (d.mapSpans f)

def ForInit.mapSpans (f:Span → Span) : ForInit → ForInit
 | .decls ds => .decls (ds.map (·.mapSpans f))
 | .expr e => .expr (e.mapSpans f)

mutual

def Stmt.mapSpans (f:Span → Span) : Stmt → Stmt
 | .compound ss s => .compound (Stmt.mapSpansAll f ss) (f s)
 | .decls ds s => .decls (ds.map (·.mapSpans f)) (f s)
 | .expr e s => .expr (e.mapSpans f) (f s)
 | .ifElse c yes none s => .ifElse (c.mapSpans f) (yes.mapSpans f) none (f s)
 | .ifElse c yes (some no) s =>
  .ifElse (c.mapSpans f) (yes.mapSpans f) (some (no.mapSpans f)) (f s)
 | .whileLoop c body s => .whileLoop (c.mapSpans f) (body.mapSpans f) (f s)
 | .doLoop body c s => .doLoop (body.mapSpans f) (c.mapSpans f) (f s)
 | .forLoop init c step body s =>
  .forLoop (init.map (·.mapSpans f)) (c.map (·.mapSpans f)) (step.map (·.mapSpans f))
   (body.mapSpans f) (f s)
 | .switch e body s => .switch (e.mapSpans f) (body.mapSpans f) (f s)
 | .caseLabel e body s => .caseLabel (e.mapSpans f) (body.mapSpans f) (f s)
 | .defaultLabel body s => .defaultLabel (body.mapSpans f) (f s)
 | .breakJump s => .breakJump (f s)
 | .continueJump s => .continueJump (f s)
 | .returnJump e s => .returnJump (e.map (·.mapSpans f)) (f s)
 | .gotoJump label s => .gotoJump (label.mapSpan f) (f s)
 | .labeled label body s => .labeled (label.mapSpan f) (body.mapSpans f) (f s)
 | .empty s => .empty (f s)
termination_by structural s => s

def Stmt.mapSpansAll (f:Span → Span) : List Stmt → List Stmt
 | [] => []
 | s :: ss => s.mapSpans f :: Stmt.mapSpansAll f ss

end

lemma Stmt.mapSpansAll_eq (f:Span → Span) (ss:List Stmt) :
  Stmt.mapSpansAll f ss = ss.map (·.mapSpans f) := by
 induction ss with
 | nil => rfl
 | cons s ss ih => rw [Stmt.mapSpansAll,ih,List.map_cons]

def Block.mapSpans (f:Span → Span) (b:Block) : Block :=
 ⟨b.stmts.map (·.mapSpans f),f b.span⟩

def External.mapSpans (f:Span → Span) : External → External
 | .declaration d => .declaration (d.mapSpans f)
 | .definition head body => .definition (head.mapSpans f) (body.mapSpans f)

def ProgramUnit.mapSpans (f:Span → Span) (u:ProgramUnit) : ProgramUnit :=
 ⟨u.externals.map (·.mapSpans f)⟩

/-! ### One map after another -/

mutual

lemma Initializer.mapSpans_mapSpans (f g:Span → Span) : ∀ i : Initializer,
  (i.mapSpans f).mapSpans g = i.mapSpans (g ∘ f)
 | .expr e => by simp only [Initializer.mapSpans,Expr.mapSpans_mapSpans]
 | .list items s => by
  simp only [Initializer.mapSpans,Function.comp_apply,
   Initializer.mapSpansAll_mapSpansAll f g items]
termination_by structural i => i

lemma Initializer.mapSpansAll_mapSpansAll (f g:Span → Span) : ∀ is : List Initializer,
  Initializer.mapSpansAll g (Initializer.mapSpansAll f is) =
   Initializer.mapSpansAll (g ∘ f) is
 | [] => rfl
 | i :: is => by
  simp only [Initializer.mapSpansAll,Initializer.mapSpans_mapSpans f g i,
   Initializer.mapSpansAll_mapSpansAll f g is]

end

lemma FunctionDecl.mapSpans_mapSpans (f g:Span → Span) (d:FunctionDecl) :
  (d.mapSpans f).mapSpans g = d.mapSpans (g ∘ f) := by
 simp only [FunctionDecl.mapSpans,TypeExpr.mapSpans_mapSpans,Function.comp_apply]
 rfl

lemma Declaration.mapSpans_mapSpans (f g:Span → Span) (d:Declaration) :
  (d.mapSpans f).mapSpans g = d.mapSpans (g ∘ f) := by
 cases d with
 | var d =>
  simp only [Declaration.mapSpans,VarDecl.mapSpans,TypeExpr.mapSpans_mapSpans,
   Option.map_map,Function.comp_def,Initializer.mapSpans_mapSpans]
  rfl
 | func d => simp only [Declaration.mapSpans,FunctionDecl.mapSpans_mapSpans]
 | record spec => simp only [Declaration.mapSpans,RecordSpec.mapSpans_mapSpans]
 | enum spec => simp only [Declaration.mapSpans,EnumSpec.mapSpans_mapSpans]
 | typedef d =>
  simp only [Declaration.mapSpans,TypedefDecl.mapSpans,TypeExpr.mapSpans_mapSpans,
   Function.comp_apply]
  rfl

lemma ForInit.mapSpans_mapSpans (f g:Span → Span) (i:ForInit) :
  (i.mapSpans f).mapSpans g = i.mapSpans (g ∘ f) := by
 cases i with
 | decls ds =>
  simp only [ForInit.mapSpans,List.map_map,Function.comp_def,
   Declaration.mapSpans_mapSpans]
 | expr e => simp only [ForInit.mapSpans,Expr.mapSpans_mapSpans]

lemma Stmt.mapSpans_mapSpans (f g:Span → Span) (s:Stmt) :
  (s.mapSpans f).mapSpans g = s.mapSpans (g ∘ f) := by
 refine Stmt.mapSpans.induct (fun s => (s.mapSpans f).mapSpans g = s.mapSpans (g ∘ f))
  (fun ss => Stmt.mapSpansAll g (Stmt.mapSpansAll f ss) = Stmt.mapSpansAll (g ∘ f) ss)
  ?_ ?_ ?_ ?_ ?_ ?_ ?_ ?_ ?_ ?_ ?_ ?_ ?_ ?_ ?_ ?_ ?_ ?_ ?_ s
 all_goals
  intros
  simp only [Stmt.mapSpans,Stmt.mapSpansAll,Option.map_map,List.map_map,Function.comp_def,
   Expr.mapSpans_mapSpans,Declaration.mapSpans_mapSpans,ForInit.mapSpans_mapSpans,
   Ident.mapSpan_mapSpan, *]

lemma External.mapSpans_mapSpans (f g:Span → Span) (e:External) :
  (e.mapSpans f).mapSpans g = e.mapSpans (g ∘ f) := by
 cases e with
 | declaration d => simp only [External.mapSpans,Declaration.mapSpans_mapSpans]
 | definition head body =>
  simp only [External.mapSpans,FunctionDecl.mapSpans_mapSpans,Block.mapSpans,List.map_map,
   Function.comp_def,Stmt.mapSpans_mapSpans]

lemma ProgramUnit.mapSpans_mapSpans (f g:Span → Span) (u:ProgramUnit) :
  (u.mapSpans f).mapSpans g = u.mapSpans (g ∘ f) := by
 simp only [ProgramUnit.mapSpans,List.map_map,Function.comp_def,External.mapSpans_mapSpans]

/-! ### Trees that stay where they are -/

@[simp] lemma Ident.mapSpan_id (i:Ident) : i.mapSpan id = i := rfl

lemma Literal.mapSpan_id (l:Literal) : l.mapSpan id = l := by
 cases l <;> rfl

lemma mapSpans_fixed :
  (∀ e : Expr, e.mapSpans id = e) ∧ (∀ t : TypeExpr, t.mapSpans id = t) ∧
  (∀ t : TypeForm, t.mapSpans id = t) ∧ (∀ ps, Param.mapSpansAll id ps = ps) ∧
  (∀ p : Param, p.mapSpans id = p) ∧ (∀ r : EnumSpec, r.mapSpans id = r) ∧
  (∀ es, Enumerator.mapSpansAll id es = es) ∧ (∀ e : Enumerator, e.mapSpans id = e) ∧
  (∀ r : RecordSpec, r.mapSpans id = r) ∧ (∀ ms, Member.mapSpansAll id ms = ms) ∧
  (∀ m : Member, m.mapSpans id = m) ∧ ∀ es, Expr.mapSpansAll id es = es := by
 apply Expr.mapSpans.mutual_induct
 all_goals
  intros
  simp only [Expr.mapSpans,Expr.mapSpansAll,TypeExpr.mapSpans,TypeForm.mapSpans,
   RecordSpec.mapSpans,Member.mapSpans,Member.mapSpansAll,EnumSpec.mapSpans,
   Enumerator.mapSpans,Enumerator.mapSpansAll,Param.mapSpans,Param.mapSpansAll,
   Literal.mapSpan_id,Ident.mapSpan_id,Option.map_id_fun',id, *]

lemma Expr.mapSpans_id (e:Expr) : e.mapSpans id = e := mapSpans_fixed.1 e

lemma TypeExpr.mapSpans_id (t:TypeExpr) : t.mapSpans id = t := mapSpans_fixed.2.1 t

lemma EnumSpec.mapSpans_id (r:EnumSpec) : r.mapSpans id = r := mapSpans_fixed.2.2.2.2.2.1 r

lemma RecordSpec.mapSpans_id (r:RecordSpec) : r.mapSpans id = r :=
 mapSpans_fixed.2.2.2.2.2.2.2.2.1 r

mutual

lemma Initializer.mapSpans_id : ∀ i : Initializer, i.mapSpans id = i
 | .expr e => by rw [Initializer.mapSpans,Expr.mapSpans_id e]
 | .list items s => by rw [Initializer.mapSpans,Initializer.mapSpansAll_id items,id]
termination_by structural i => i

lemma Initializer.mapSpansAll_id : ∀ is : List Initializer, Initializer.mapSpansAll id is = is
 | [] => rfl
 | i :: is => by
  rw [Initializer.mapSpansAll,Initializer.mapSpans_id i,Initializer.mapSpansAll_id is]

end

lemma FunctionDecl.mapSpans_id (d:FunctionDecl) : d.mapSpans id = d := by
 rw [FunctionDecl.mapSpans,TypeExpr.mapSpans_id,Ident.mapSpan_id,id]

lemma Declaration.mapSpans_id (d:Declaration) : d.mapSpans id = d := by
 cases d with
 | var d =>
  simp only [Declaration.mapSpans,VarDecl.mapSpans,TypeExpr.mapSpans_id,
   Initializer.mapSpans_id,Ident.mapSpan_id,Option.map_id_fun',id]
 | func d => rw [Declaration.mapSpans,FunctionDecl.mapSpans_id]
 | record spec => rw [Declaration.mapSpans,RecordSpec.mapSpans_id]
 | enum spec => rw [Declaration.mapSpans,EnumSpec.mapSpans_id]
 | typedef d =>
  rw [Declaration.mapSpans,TypedefDecl.mapSpans,TypeExpr.mapSpans_id,Ident.mapSpan_id,id]

lemma ForInit.mapSpans_id (i:ForInit) : i.mapSpans id = i := by
 cases i with
 | decls ds => simp only [ForInit.mapSpans,Declaration.mapSpans_id,List.map_id_fun',id]
 | expr e => rw [ForInit.mapSpans,Expr.mapSpans_id]

lemma Stmt.mapSpans_id (s:Stmt) : s.mapSpans id = s := by
 refine Stmt.mapSpans.induct (fun s => s.mapSpans id = s) (fun ss => Stmt.mapSpansAll id ss = ss)
  ?_ ?_ ?_ ?_ ?_ ?_ ?_ ?_ ?_ ?_ ?_ ?_ ?_ ?_ ?_ ?_ ?_ ?_ ?_ s
 all_goals
  intros
  simp only [Stmt.mapSpans,Stmt.mapSpansAll,Option.map_id_fun',List.map_id_fun',id,
   Expr.mapSpans_id,Declaration.mapSpans_id,ForInit.mapSpans_id,Ident.mapSpan_id, *]

lemma ProgramUnit.mapSpans_id (u:ProgramUnit) : u.mapSpans id = u := by
 have external (e:External) : e.mapSpans id = e := by
  cases e with
  | declaration d => rw [External.mapSpans,Declaration.mapSpans_id]
  | definition head body =>
   simp only [External.mapSpans,FunctionDecl.mapSpans_id,Block.mapSpans,Stmt.mapSpans_id,
    List.map_id_fun',id]
 simp only [ProgramUnit.mapSpans,external,List.map_id_fun',id]

/-! ### What does not depend on places -/

lemma Expr.mapSpans_span (f:Span → Span) (e:Expr) : (e.mapSpans f).span = f e.span := by
 cases e with
 | literal l => cases l <;> rfl
 | _ => rfl

@[simp] lemma Expr.mapSpans_isSyntacticConstant (f:Span → Span) : ∀ e : Expr,
  (e.mapSpans f).isSyntacticConstant = e.isSyntacticConstant
 | .literal l => by cases l <;> rfl
 | .unary op e _ => by
  simp only [Expr.mapSpans,isSyntacticConstant,mapSpans_isSyntacticConstant f e]
 | .binary _ l r _ => by
  simp only [Expr.mapSpans,isSyntacticConstant,mapSpans_isSyntacticConstant f l,
   mapSpans_isSyntacticConstant f r]
 | .cond c a b _ => by
  simp only [Expr.mapSpans,isSyntacticConstant,mapSpans_isSyntacticConstant f c,
   mapSpans_isSyntacticConstant f a,mapSpans_isSyntacticConstant f b]
 | .cast _ e _ => by
  simp only [Expr.mapSpans,isSyntacticConstant,mapSpans_isSyntacticConstant f e]
 | .ident _ | .assign .. | .call .. | .index .. | .member .. | .sizeofType ..
 | .sizeofExpr .. | .comma .. => rfl

@[simp] lemma Expr.mapSpans_mayBeNull (f:Span → Span) : ∀ e : Expr,
  (e.mapSpans f).mayBeNull = e.mayBeNull
 | .literal l => by cases l <;> rfl
 | .unary op e _ => by simp only [Expr.mapSpans,mayBeNull,mapSpans_mayBeNull f e]
 | .binary _ l r _ => by
  simp only [Expr.mapSpans,mayBeNull,mapSpans_mayBeNull f l,mapSpans_mayBeNull f r]
 | .cast _ e _ => by simp only [Expr.mapSpans,mayBeNull,mapSpans_mayBeNull f e]
 | .cond .. | .ident _ | .assign .. | .call .. | .index .. | .member .. | .sizeofType ..
 | .sizeofExpr .. | .comma .. => rfl

lemma Initializer.mapSpans_span (f:Span → Span) (i:Initializer) :
  (i.mapSpans f).span = f i.span := by
 cases i with
 | expr e => exact Expr.mapSpans_span f e
 | list items s => rfl

lemma TypeExpr.mapSpans_span (f:Span → Span) (t:TypeExpr) :
  (t.mapSpans f).span = f t.span := by
 cases t
 rfl

@[simp] lemma TypeExpr.mapSpans_isFunction (f:Span → Span) (t:TypeExpr) :
  (t.mapSpans f).isFunction = t.isFunction := by
 obtain ⟨form,quals,s⟩:=t
 cases form with
 | array t size vla => cases size <;> rfl
 | _ => rfl

lemma TypeExpr.mapSpans_params (f:Span → Span) (t:TypeExpr) :
  (t.mapSpans f).params = t.params.map (·.mapSpans f) := by
 obtain ⟨form,quals,s⟩:=t
 cases form with
 | array t size vla => cases size <;> rfl
 | function t ps variadic prototyped =>
  exact Param.mapSpansAll_eq f ps
 | _ => rfl

lemma Stmt.mapSpans_span (f:Span → Span) (s:Stmt) : (s.mapSpans f).span = f s.span := by
 cases s with
 | ifElse c yes no s => cases no <;> rfl
 | _ => rfl

/-- A change of places that keeps which of two begins first, and the range that two
places span together. -/
structure Relocation where
 move : Span → Span
 merge : ∀ a b, move (a.merge b) = (move a).merge (move b)
 start_le : ∀ a b, (move a).start ≤ (move b).start ↔ a.start ≤ b.start

instance : CoeFun Relocation fun _ => Span → Span := ⟨Relocation.move⟩

lemma Relocation.start_eq (ρ:Relocation) (a b:Span) :
  (ρ a).start = (ρ b).start ↔ a.start = b.start := by
 have hab:=ρ.start_le a b
 have hba:=ρ.start_le b a
 omega

def Relocation.identity : Relocation where
 move := id
 merge _ _ := rfl
 start_le _ _ := Iff.rfl

/-- The relocation that keeps only the order of beginnings, by a growing renumbering of
offsets. -/
def Relocation.ofStrictMono (φ:Nat → Nat) (h:StrictMono φ) : Relocation where
 move s := ⟨φ s.start,0,0,0⟩
 merge a b := by
  unfold Span.merge
  by_cases hab : b.start < a.start
  · rw [if_pos hab,if_pos (h.lt_iff_lt.mpr hab)]
    rfl
  · rw [if_neg hab,if_neg fun hlt => hab (h.lt_iff_lt.mp hlt)]
    rfl
 start_le _ _ := h.le_iff_le

end CCheck
