import CCheck.Grammar
import CCheck.Proofs.Naming.Mentions

/-! # Journals of what is read

While a text is read, books may be kept on the side: on tokens that are passed for something, on the
names that are declared, on the scopes that are open. A journal says what the pieces of a tree do to
such books, piece by piece in the order in which they are read. -/

set_option autoImplicit false

namespace CCheck

/-! ### Pieces of trees -/

inductive Piece where
 | expr (e:Expr)
 | argument (e:Expr)
 | form (f:TypeForm)
 | param (q:Param)
 | member (m:Member)
 | enumerator (e:Enumerator)
 | initializer (i:Initializer)
 | declaration (d:Declaration)
 | forInit (i:ForInit)
 | stmt (s:Stmt)

namespace Piece

@[simp] def children : Piece → List Piece
 | expr (.literal _) | expr (.ident _) => []
 | expr (.binary _ l r _) | expr (.assign _ l r _) | expr (.index l r _) | expr (.comma l r _) =>
  [expr l,expr r]
 | expr (.unary _ e _) | expr (.member e _ _ _) | expr (.sizeofExpr e _) => [expr e]
 | expr (.cond test yes no _) => [expr test,expr yes,expr no]
 | expr (.call callee args _) => expr callee :: args.map argument
 | expr (.cast t e _) => [form t.form,expr e]
 | expr (.sizeofType t _) => [form t.form]
 | argument e => [expr e]
 | form (.base _) | form (.named _) => []
 | form (.record spec) => (spec.members.getD []).map member
 | form (.enum spec) => (spec.enumerators.getD []).map enumerator
 | form (.pointer t) => [form t.form]
 | form (.array t size _) => form t.form :: size.toList.map expr
 | form (.function t params _ _) => form t.form :: params.map param
 | param q => [form q.type.form]
 | member m => [form m.type.form]
 | enumerator e => e.value.toList.map expr
 | initializer (.expr e) => [expr e]
 | initializer (.list items _) => items.map initializer
 | declaration (.var d) => form d.type.form :: d.init.toList.map initializer
 | declaration (.func d) => [form d.type.form]
 | declaration (.record spec) => [form (.record spec)]
 | declaration (.enum spec) => [form (.enum spec)]
 | declaration (.typedef d) => [form d.type.form]
 | forInit (.decls ds) => ds.map declaration
 | forInit (.expr e) => [expr e]
 | stmt (.compound ss _) => ss.map stmt
 | stmt (.decls ds _) => ds.map declaration
 | stmt (.expr e _) => [expr e]
 | stmt (.ifElse e yes no _) => expr e :: stmt yes :: no.toList.map stmt
 | stmt (.whileLoop e s _) | stmt (.switch e s _) | stmt (.caseLabel e s _) => [expr e,stmt s]
 | stmt (.doLoop s e _) => [stmt s,expr e]
 | stmt (.forLoop init test step s _) =>
  init.toList.map forInit ++ (test.toList.map expr ++ (step.toList.map expr ++ [stmt s]))
 | stmt (.returnJump e _) => e.toList.map expr
 | stmt (.defaultLabel s _) | stmt (.labeled _ s _) => [stmt s]
 | stmt (.breakJump _) | stmt (.continueJump _) | stmt (.gotoJump _ _) | stmt (.empty _) => []

def isSimple : Piece → Bool
 | expr (.ident _) | expr (.call ..) => false
 | expr _ | argument _ | initializer _ | forInit (.expr _) => true
 | stmt (.compound ..) | stmt (.decls ..) | stmt (.forLoop ..) | stmt (.labeled ..) => false
 | stmt _ => true
 | _ => false

end Piece

lemma Piece.collect_eq {α γ:Type} {entries:Piece → List γ} {collect:List α → List γ}
  (f:α → Piece) (hnil:collect [] = [])
  (hcons:∀ a as, collect (a :: as) = entries (f a) ++ collect as) (as:List α) :
  collect as = (as.map f).flatMap entries := by
 induction as with
 | nil => exact hnil
 | cons a as ih => rw [hcons,ih,List.map_cons,List.flatMap_cons]

/-- The suffixes of a declarator, in the order in which they are read. -/
def Declarator.all : Declarator → List Suffix
 | ⟨_,_,suffixes,none⟩ => suffixes
 | ⟨_,_,suffixes,some inner⟩ => inner.all ++ suffixes
termination_by structural d => d

def TypeNames.declareParams (n:TypeNames) (ps:List Param) : TypeNames :=
 ps.foldl (fun n p => p.name.elim n fun i => n.declare i.name false) n

structure Journal where
 State : Type
 /-- While a phrase is read, or until it is given up, the first state may become the second. -/
 Reach : State → State → Prop
 earn : Span → State → State
 /-- A name that may be declared is passed. -/
 note : Ident → State → State
 enroll : String → Bool → State → State
 /-- A scope is opened, with the names of parameters in it. -/
 enter : List Param → State → State
 leave : State → State
 Knows : State → String → Prop
 Noted : State → String → Prop
 Paid : State → List Piece → State → Prop
 Specified : State → TypeForm → State → Prop
 Suffixes : State → List Suffix → State → Prop
 Members : State → TypeExpr → List Member → State → Prop
 Group : State → TypeExpr → List Declaration → State → Prop
 Declared : State → List Declaration → State → Prop
 Whole : State → List External → State → Prop
 reach_refl : ∀ n, Reach n n
 reach_trans : ∀ {n m k}, Reach n m → Reach m k → Reach n k
 reach_earn : ∀ n span, Reach n (earn span n)
 reach_note : ∀ n name, Reach n (note name n)
 reach_enroll : ∀ {n name}, Noted n name → ∀ isType, Reach n (enroll name isType n)
 reach_leave : ∀ {n m ps}, Reach (enter ps n) m → Reach n (leave m)
 noted : ∀ n (i:Ident), Noted (note i n) i.name
 noted_paid : ∀ {n m xs name}, Noted n name → Paid n xs m → Noted m name
 noted_suffixes : ∀ {n m ss name}, Noted n name → Suffixes n ss m → Noted m name
 paid_note : ∀ {n m xs i}, Paid (note i n) xs m → Paid n xs m
 suffixes_note : ∀ {n m ss i}, Suffixes (note i n) ss m → Suffixes n ss m
 nil : ∀ n, Paid n [] n
 append : ∀ {n m k xs ys}, Paid n xs m → Paid m ys k → Paid n (xs ++ ys) k
 children : ∀ {n m} {x:Piece}, x.isSimple = true → Paid n x.children m → Paid n [x] m
 ident : ∀ n (i:Ident), Paid n [.expr (.ident i)] (earn i.span n)
 call : ∀ {n m} {e:Expr} {args:List Expr} (last:Span),
  Paid n (.expr e :: args.map .argument) m →
  Paid n [.expr (.call e args (e.span.merge last))] (earn last m)
 base : ∀ n b, Specified n (.base b) n
 named : ∀ {n name}, Knows n name → Specified n (.named name) n
 record : ∀ {n m} {ms:List Member} {first:Span} (kind:RecordKind) (tag:Option Ident)
  (last:Span), Paid (earn first n) (ms.map .member) m →
  Specified n (.record ⟨kind,tag,some ms,first.merge last⟩) (earn last m)
 recordTag : ∀ n first kind tag span, Specified n (.record ⟨kind,tag,none,span⟩) (earn first n)
 enum : ∀ {n m} {es:List Enumerator} {first:Span} (tag:Option Ident) (last:Span),
  Paid (earn first n) (es.map .enumerator) m →
  Specified n (.enum ⟨tag,some es,first.merge last⟩) (earn last m)
 enumTag : ∀ n first tag span, Specified n (.enum ⟨tag,none,span⟩) (earn first n)
 enumerator : ∀ {n m} {value:Option Expr} (name:Ident) (span:Span),
  Paid n (value.toList.map .expr) m → Noted m name.name →
  Paid n [.enumerator ⟨name,value,span⟩] (enroll name.name false m)
 suffixes_nil : ∀ n, Suffixes n [] n
 suffixes_append : ∀ {n m k ss ss'}, Suffixes n ss m → Suffixes m ss' k → Suffixes n (ss ++ ss') k
 array : ∀ {n m} {size:Option Expr} (vla:Bool) (span:Span),
  Paid n (size.toList.map .expr) m → Suffixes n [.array size vla span] m
 function : ∀ {n m} {ps:List Param} (variadic prototyped:Bool) (span:Span),
  Paid (enter [] n) (ps.map .param) m → Suffixes n [.function ps variadic prototyped span] (leave m)
 noParams : ∀ n variadic prototyped span, Suffixes n [.function [] variadic prototyped span] n
 typeName : ∀ {n m k} {t:TypeExpr} {d:Declarator}, Specified n t.form m →
  Suffixes m d.all k → Paid n [.form (d.apply t).2.form] k
 param : ∀ {n m k} {t:TypeExpr} {d:Declarator} (span:Span), Specified n t.form m →
  Suffixes m d.all k → (∀ i ∈ (d.apply t).1, Noted k i.name) →
  Paid n [.param ⟨(d.apply t).1,(d.apply t).2,span⟩]
   ((d.apply t).1.elim k fun i => enroll i.name false k)
 members_nil : ∀ {n m} {t:TypeExpr}, Specified n t.form m → Members n t [] m
 members_snoc : ∀ {n m k t ms} {d:Declarator} {name:Ident} {u:TypeExpr} (span:Span),
  Members n t ms m → Suffixes m d.all k → d.apply t = (some name,u) →
  Members n t (ms ++ [⟨name,u,span⟩]) k
 members_done : ∀ {n m t ms}, Members n t ms m → ms ≠ [] → Paid n (ms.map .member) m
 group_nil : ∀ {n m} {t:TypeExpr}, Specified n t.form m → Group n t [] m
 group_var : ∀ {n m k l t ds} {d:Declarator} {name:Ident} {u:TypeExpr}
  {init:Option Initializer} (storage:Option StorageClass) (span:Span), Group n t ds m →
  Suffixes m d.all k → Noted k name.name → d.apply t = (some name,u) →
  Paid (enroll name.name false k) (init.toList.map .initializer) l →
  Group n t (ds ++ [.var ⟨name,u,storage,init,span⟩]) l
 group_func : ∀ {n m k t ds} {d:Declarator} {name:Ident} {u:TypeExpr}
  (storage:Option StorageClass) (isInline:Bool) (span:Span), Group n t ds m →
  Suffixes m d.all k → Noted k name.name → d.apply t = (some name,u) → u.isFunction = true →
  Group n t (ds ++ [.func ⟨name,u,storage,isInline,span⟩]) (enroll name.name false k)
 group_typedef : ∀ {n m k t ds} {d:Declarator} {name:Ident} {u:TypeExpr} (span:Span),
  Group n t ds m → Suffixes m d.all k → Noted k name.name → d.apply t = (some name,u) →
  Group n t (ds ++ [.typedef ⟨name,u,span⟩]) (enroll name.name true k)
 group_done : ∀ {n m t ds}, Group n t ds m → ds ≠ [] → Declared n ds m
 bare : ∀ {n m} {specs:Specifiers}, Specified n specs.type.form m →
  Declared n (Grammar.bareDeclaration specs) m
 decls : ∀ {n m ds} (span:Span), Declared n ds m → Paid n [.stmt (.decls ds span)] m
 forDecls : ∀ {n m ds}, Declared n ds m → Paid n [.forInit (.decls ds)] m
 compound : ∀ {n m} {ss:List Stmt} (span:Span), Paid (enter [] n) (ss.map .stmt) m →
  Paid n [.stmt (.compound ss span)] (leave m)
 forLoop : ∀ {n m} {init:Option ForInit} {test step:Option Expr} {s:Stmt} (span:Span),
  Paid (enter [] n) (Piece.stmt (.forLoop init test step s span)).children m →
  Paid n [.stmt (.forLoop init test step s span)] (leave m)
 labeled : ∀ {n m} {s:Stmt} (label:Ident) (span:Span), Paid (earn label.span n) [.stmt s] m →
  Paid n [.stmt (.labeled label s span)] m
 whole_nil : ∀ n, Whole n [] n
 whole_append : ∀ {n m k es fs}, Whole n es m → Whole m fs k → Whole n (es ++ fs) k
 whole_declared : ∀ {n m ds}, Declared n ds m → Whole n (ds.map .declaration) m
 definition : ∀ {n m k t} {head:FunctionDecl} {ss:List Stmt} (span span':Span),
  Group n t [.func head] m →
  Paid (enter [] (enter head.type.params m)) (ss.map .stmt) k →
  Whole n [.definition { head with span } ⟨ss,span'⟩] (leave (leave k))

namespace Journal

variable {L:Journal} {α:Type} {n m k:L.State}

lemma append_map {f:α → Piece} {as bs:List α} (h:L.Paid n (as.map f) m)
  (h':L.Paid m (bs.map f) k) : L.Paid n ((as ++ bs).map f) k := by
 rw [List.map_append]
 exact L.append h h'

lemma append_one {f:α → Piece} {as:List α} {a:α} (h:L.Paid n (as.map f) m)
  (ha:L.Paid m [f a] k) : L.Paid n ((as ++ [a]).map f) k :=
 append_map h ha

def blank : Journal := by
 apply Journal.mk Unit (fun _ _ => True) (fun _ n => n) (fun _ n => n) (fun _ _ n => n)
  (fun _ n => n) (fun n => n) (fun _ _ => True) (fun _ _ => True) (fun _ _ _ => True) (fun _ _ _ => True) (fun _ _ _ => True)
  (fun _ _ _ _ => True) (fun _ _ _ _ => True) (fun _ _ _ => True) (fun _ _ _ => True) <;>
 intros <;> trivial

end Journal

end CCheck
