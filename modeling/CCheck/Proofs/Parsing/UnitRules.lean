import CCheck.Proofs.Parsing.Rules

/-! # Statements and programs, read alike

The rules for statements and for what stands at file scope, and the readers of any depth that the
rules make. -/

set_option autoImplicit false

namespace CCheck

open Grammar
open CCheck.Parser (Anywhere Standing)
open CCheck.Session (Peers Goes Reading)
open CCheck.Session.Goes (advance expect expectKeyword ident loop)

variable {α:Type} {ρ:Relocation} {K:Session ρ} {B:Nat} {P:TokenStream → Prop}
 {r r':Reader} {n m:K.State}

attribute [local simp] image_iff mapStep Stmt.mapSpans Block.mapSpans External.mapSpans
 Declaration.mapSpans FunctionDecl.mapSpans Stmt.mapSpansAll_eq Expr.mapSpans_span
 Stmt.mapSpans_span Relocation.merge

lemma Grammar.run_paramsAndBlock (r:Reader) (type:TypeExpr) (s:ParserState) :
  paramsAndBlock r type s = block r { s with names := s.names.declareParams type.params } := by
 unfold paramsAndBlock
 generalize type.params = ps
 induction ps generalizing s with
 | nil => rfl
 | cons p ps ih =>
  obtain ⟨name,type,span⟩:=p
  cases name with
  | none => exact ih s
  | some name => exact ih { s with names := s.names.declare name.name false }

namespace Session

abbrev ReadsStmt (K:Session ρ) (B:Nat) (P:TokenStream → Prop) (n:K.State)
  (x y:Parser Stmt) : Prop :=
 K.Goes B P (fun _ => true) (Image (Stmt.mapSpans ρ)) n (fun m s => K.Paid n [.stmt s] m) x y

namespace Reading

/-! ### Statements -/

lemma blockItemStep (hr:K.Reading B r r') :
  K.Collects B false .stmt (Stmt.mapSpans ρ) (blockItemStep r) (blockItemStep r') := by
 intro n m ss h
 refine (Peers.check _).then fun _ => Peers.atEnd.then fun _ => ?_
 split
 · exact .pure h rfl rfl
 · exact hr.statement.past fun _ _ hs => .pure (K.append_one h hs) rfl (by simp)

lemma block (hr:K.Reading B r r') :
  K.Reads (B + 1) true (Block.mapSpans ρ)
   (fun n b m => ∃ k, m = K.leave k ∧ K.Paid (K.enter [] n) (b.stmts.map .stmt) k) (block r)
   (block r') := by
 refine fun n => (expect _).next fun start _ => ?_
 refine (Goes.inScope (loop (fun _ _ => hr.blockItemStep) (a := []) (K.nil _))).after
  fun ss m hss => ?_
 exact (expect _).past fun _ _ => .previous fun _ => .pure hss rfl (by simp)

lemma parenthesized (hr:K.Reading B r r') :
  K.ReadsExpr (B + 1) (parenthesized r) (parenthesized r') :=
 fun _ => (expect _).past fun _ _ => hr.expression.past fun _ _ he =>
  (expect _).past fun _ _ => .pure he rfl rfl

section Keywords

variable (start:Span) {w:Keyword}

lemma ifStatement (hr:K.Reading B r r') :
  K.ReadsStmt (B + 1) (Standing (.keyword w)) n (ifStatement r start)
   (ifStatement r' (ρ start)) := by
 refine (advance rfl).next fun _ _ => hr.parenthesized.fewer.past fun test m htest => ?_
 refine hr.statement.past fun yes k hyes => ?_
 have hboth:=K.append htest hyes
 refine .checkKeyword ?_ (.pure (K.children rfl hboth) rfl (by simp))
 exact (advance rfl).past fun _ _ => hr.statement.past fun _ _ hno =>
  .pure (K.children rfl (K.append hboth hno)) rfl (by simp)

lemma whileStatement (hr:K.Reading B r r') :
  K.ReadsStmt (B + 1) (Standing (.keyword w)) n (whileStatement r start)
   (whileStatement r' (ρ start)) := by
 refine (advance rfl).next fun _ _ => hr.parenthesized.fewer.past fun test m htest => ?_
 exact hr.statement.past fun _ _ hs => .pure (K.children rfl (K.append htest hs)) rfl (by simp)

lemma doStatement (hr:K.Reading B r r') :
  K.ReadsStmt (B + 1) (Standing (.keyword w)) n (doStatement r start)
   (doStatement r' (ρ start)) := by
 refine (advance rfl).next fun _ _ => hr.statement.past fun body m hbody => ?_
 refine (expectKeyword _).past fun _ _ => hr.parenthesized.fewer.past fun test k htest => ?_
 exact (expect _).past fun _ _ => .previous fun _ =>
  .pure (K.children rfl (K.append hbody htest)) rfl (by simp)

lemma forInit (hr:K.Reading B r r') :
  K.Reads (B + 1) true (Option.map (ForInit.mapSpans ρ))
   (fun n i m => K.Paid n (i.toList.map .forInit) m) (forInit r) (forInit r') := by
 refine fun n => .consume (.pure (K.nil n) rfl rfl) (.kind fun w => ?_)
 refine (Peers.startsDeclaration w).then fun _ => ?_
 split
 · exact hr.declaration.past fun _ _ hds => .pure (K.forDecls hds) rfl rfl
 · exact hr.expression.past fun _ _ he =>
    (expect _).past fun _ _ => .pure (K.children rfl he) rfl rfl

lemma optionalUpTo (hr:K.Reading B r r') (p:Punctuator) :
  K.Reads (B + 1) true (Option.map (Expr.mapSpans ρ))
   (fun n e m => K.Paid n (e.toList.map .expr) m) (optionalUpTo r p) (optionalUpTo r' p) := by
 refine fun n => .check ?_ ?_
 · exact (expect _).past fun _ _ => .pure (K.nil n) rfl rfl
 · simp only [Bool.false_eq_true,if_false,← bind_pure_comp,bind_assoc,pure_bind]
   exact hr.expression.past fun _ _ he => (expect _).past fun _ _ => .pure he rfl rfl

lemma forRest (hr:K.Reading B r r') :
  K.Goes B P (fun _ => true) (Image (Stmt.mapSpans ρ)) (K.enter [] n)
   (fun m s => K.Paid n [.stmt s] (K.leave m)) (forRest r start) (forRest r' (ρ start)) := by
 refine hr.forInit.fewer.past fun init m₁ hinit => ?_
 refine (hr.optionalUpTo _).fewer.past fun test m₂ htest => ?_
 refine (hr.optionalUpTo _).fewer.past fun step m₃ hstep => ?_
 exact hr.statement.past fun _ _ hs =>
  .pure (K.forLoop _ (K.append hinit (K.append htest (K.append hstep hs)))) rfl (by simp)

lemma forStatement (hr:K.Reading B r r') :
  K.ReadsStmt (B + 1) (Standing (.keyword w)) n (forStatement r start)
   (forStatement r' (ρ start)) := by
 refine (advance rfl).next fun _ _ => (expect _).past fun _ _ => ?_
 refine (Goes.inScope (hr.forRest start)).idle.weaken ?_
 rintro m s ⟨k,rfl,hs⟩
 exact hs

lemma switchStatement (hr:K.Reading B r r') :
  K.ReadsStmt (B + 1) (Standing (.keyword w)) n (switchStatement r start)
   (switchStatement r' (ρ start)) := by
 refine (advance rfl).next fun _ _ => hr.parenthesized.fewer.past fun value m hvalue => ?_
 exact hr.statement.past fun _ _ hs => .pure (K.children rfl (K.append hvalue hs)) rfl (by simp)

lemma caseStatement (hr:K.Reading B r r') :
  K.ReadsStmt (B + 1) (Standing (.keyword w)) n (caseStatement r start)
   (caseStatement r' (ρ start)) := by
 refine (advance rfl).next fun _ _ => hr.conditionalRule.fewer.past fun value m hvalue => ?_
 exact (expect _).past fun _ _ => hr.statement.past fun _ _ hs =>
  .pure (K.children rfl (K.append hvalue hs)) rfl (by simp)

lemma defaultStatement (hr:K.Reading B r r') :
  K.ReadsStmt (B + 1) (Standing (.keyword w)) n (defaultStatement r start)
   (defaultStatement r' (ρ start)) :=
 (advance rfl).next fun _ _ => (expect _).past fun _ _ =>
  hr.statement.past fun _ _ hs => .pure (K.children rfl hs) rfl (by simp)

lemma returnStatement (hr:K.Reading B r r') :
  K.ReadsStmt (B + 1) (Standing (.keyword w)) n (returnStatement r start)
   (returnStatement r' (ρ start)) := by
 refine (advance rfl).past fun _ _ => (hr.optionalUpTo _).past fun value m hvalue => ?_
 exact .previous fun _ => .pure (K.children rfl hvalue) rfl (by simp)

lemma gotoStatement :
  K.ReadsStmt B (Standing (.keyword w)) n (gotoStatement start) (gotoStatement (ρ start)) :=
 (advance rfl).past fun _ _ => ident.past fun _ => (expect _).past fun _ _ =>
  .previous fun _ => .pure (K.children rfl (K.nil n)) rfl (by simp)

lemma jump {s:Stmt} (hs:K.Paid n [.stmt s] n) :
  K.ReadsStmt B (Standing (.keyword w)) n (jump s) (jump (s.mapSpans ρ)) :=
 (advance rfl).past fun _ _ => (expect _).past fun _ _ => .pure hs rfl rfl

lemma labeledStatement (hr:K.Reading B r r') {name:String} :
  K.ReadsStmt (B + 1) (fun s => Standing (.ident name) s ∧ s.peek? = some (.punct .colon)) n
   (labeledStatement r start) (labeledStatement r' (ρ start)) :=
 Goes.ident_before fun label => (advance rfl).past fun _ _ =>
  hr.statement.past fun _ _ hs => .pure (K.labeled label _ hs) rfl (by simp)

lemma plainStatement (hr:K.Reading B r r') (k:TokenKind) :
  K.ReadsStmt (B + 1) P n (plainStatement r start k) (plainStatement r' (ρ start) k) := by
 refine (Peers.startsDeclaration k).then fun _ => ?_
 split
 · refine hr.declaration.past fun _ _ hds => .previous fun _ => .pure (K.decls _ hds) rfl ?_
   rw [image_iff,Stmt.mapSpans,ρ.merge]
 · exact hr.expression.past fun _ _ he => (expect _).past fun _ _ => .previous fun _ =>
    .pure (K.children rfl he) rfl (by simp)

end Keywords

lemma statementRule (hr:K.Reading B r r') :
  K.ReadsStmt (B + 1) Anywhere n (Grammar.statement r) (Grammar.statement r') := by
 refine Goes.current fun kind text text' span => ?_
 dsimp only
 split
 · refine hr.block.past ?_
   rintro b _ ⟨k,rfl,hss⟩
   exact .pure (K.compound _ hss) rfl (by simp)
 · exact (advance rfl).past fun _ _ => .pure (K.children rfl (K.nil n)) rfl rfl
 · exact hr.ifStatement span
 · exact hr.whileStatement span
 · exact hr.doStatement span
 · exact hr.forStatement span
 · exact hr.switchStatement span
 · exact hr.caseStatement span
 · exact hr.defaultStatement span
 · exact jump (K.children rfl (K.nil n))
 · exact jump (K.children rfl (K.nil n))
 · exact hr.returnStatement span
 · exact gotoStatement span
 · exact .peeks (hr.labeledStatement span) (hr.plainStatement span _)
 · exact hr.plainStatement span _

/-! ### The grammar -/

lemma rule (hr:K.Reading B r r') : K.Reading (B + 1) (rule r) (rule r') where
 expr := hr.expression
 assignment := hr.assignmentRule
 conditional := hr.conditionalRule
 binary := hr.binaryRule
 cast := hr.castRule
 unary := hr.unaryRule
 specifiers := hr.specifiersRule
 declarator := hr.declaratorRule
 initializer := hr.initializerRule
 statement _ := hr.statementRule

lemma fewer (hr:K.Reading (B + 1) r r') : K.Reading B r r' where
 expr := hr.expr.fewer
 assignment := hr.assignment.fewer
 conditional := hr.conditional.fewer
 binary least := (hr.binary least).fewer
 cast := hr.cast.fewer
 unary := hr.unary.fewer
 specifiers allowed := (hr.specifiers allowed).fewer
 declarator abstract := (hr.declarator abstract).fewer
 initializer := hr.initializer.fewer
 statement := hr.statement.fewer

lemma paramsAndBlock (hr:K.Reading B r r') (type:TypeExpr) {s t:ParserState}
  (hst:K.rel s t) (hs:s.stream.rest.length < B + 1) (hn:K.Holds n s) :
  K.Outcome (K.enter type.params n) s.stream (fun _ => true) (Image (Block.mapSpans ρ))
   (fun m b => ∃ k, m = K.leave k ∧
    K.Paid (K.enter [] (K.enter type.params n)) (b.stmts.map .stmt) k)
   (paramsAndBlock r type { s with names := s.names.openScope })
   (paramsAndBlock r' (type.mapSpans ρ) { t with names := t.names.openScope }) := by
 rw [run_paramsAndBlock,run_paramsAndBlock,TypeExpr.mapSpans_params]
 exact hr.block _ _ _ (K.declareParams (K.openScope hst) _) hs trivial (K.entered hn _)

lemma functionBody (hr:K.Reading B r r') (type:TypeExpr) :
  K.Goes (B + 1) P (fun _ => true) (Image (Block.mapSpans ρ)) n
   (fun m b => ∃ k, m = K.leave (K.leave k) ∧
    K.Paid (K.enter [] (K.enter type.params n)) (b.stmts.map .stmt) k)
   (functionBody r type) (functionBody r' (type.mapSpans ρ)) := by
 refine (Goes.inScopeWith fun _ _ hst hs _ hn => hr.paramsAndBlock type hst hs hn).weaken ?_
 rintro m b ⟨_,rfl,k,rfl,hss⟩
 exact ⟨k,rfl,hss⟩

lemma externalDeclaration (hr:K.Reading B r r') :
  K.Reads (B + 1) true (List.map (External.mapSpans ρ)) K.Whole (externalDeclaration r)
   (externalDeclaration r') := by
 have declarations (ds:List Declaration) :
   (ds.map (·.mapSpans ρ)).map External.declaration =
    (ds.map External.declaration).map (·.mapSpans ρ) := by
  simp only [List.map_map,Function.comp_def,External.mapSpans]
 refine fun n => .here fun start => (hr.specifiersRule true).past fun specs m hs => ?_
 refine .consume (.pure (K.whole_declared (K.bare hs)) rfl ?_) ?_
 · rw [bareDeclaration_mapSpans]
   exact declarations _
 refine (hr.initDeclarator start (K.group_nil hs)).past fun first k hfirst => ?_
 have more {P} : K.Goes (B + 1) P (fun _ => false) (Image (List.map (External.mapSpans ρ))) k
   (fun l es => K.Whole n es l)
   (do return (← Grammar.moreDeclarators r start specs first).map External.declaration)
   (do return (← Grammar.moreDeclarators r' (ρ start) (specs.mapSpans ρ)
    (first.mapSpans ρ)).map External.declaration) :=
  (hr.moreDeclarators start hfirst).past fun ds _ hds =>
   .pure (K.whole_declared hds) rfl (declarations ds)
 cases first with
 | func head =>
  refine .check ?_ more
  refine (hr.functionBody head.type).past ?_
  rintro body _ ⟨l,rfl,hss⟩
  exact .pure (K.definition _ _ hfirst hss) rfl (by simp)
 | var d => exact more
 | record spec => exact more
 | enum spec => exact more
 | typedef d => exact more

lemma externalStep (hr:K.Reading B r r') {es:List External} (h:K.Whole n es m) :
  K.Turns (B + 1) (fun _ => false) (List.map (External.mapSpans ρ)) m
   (fun k es => K.Whole n es k) (fun k es => K.Whole n es k) (externalStep r es)
   (externalStep r' (es.map (External.mapSpans ρ))) := by
 refine Peers.atEnd.then fun _ => ?_
 split
 · exact .pure h rfl rfl
 · exact .consume (.pure h rfl rfl)
    (hr.externalDeclaration.past fun _ _ hes => .pure (K.whole_append h hes) rfl (by simp))

lemma externals (hr:K.Reading B r r') :
  K.Reads (B + 1) false (List.map (External.mapSpans ρ)) K.Whole (externals r) (externals r') :=
 fun n => loop (fun _ _ => hr.externalStep) (a := []) (K.whole_nil n)

end Reading

lemma reading_read (K:Session ρ) (B depth:Nat) : K.Reading B (read depth) (read depth) := by
 induction depth generalizing B with
 | zero => constructor <;> intros <;> exact fun _ => .refuse .expectedExpr fun _ => rfl
 | succ depth ih => exact (ih B).rule.fewer

lemma unit (K:Session ρ) : K.Reads B false (ProgramUnit.mapSpans ρ)
  (fun n u m => K.Whole n u.externals m) Parser.unit Parser.unit := by
 have hunit (depth:Nat) : K.Reads B false (ProgramUnit.mapSpans ρ)
   (fun n u m => K.Whole n u.externals m) (do return ⟨← externals (read depth)⟩)
   (do return ⟨← externals (read depth)⟩) :=
  fun _ => (K.reading_read B depth).externals.fewer.after fun _ _ hes => .pure hes rfl rfl
 intro n s t hst
 unfold Parser.unit Grammar.withReader
 rw [K.length hst]
 exact hunit _ n s t hst

lemma parseTokens (K:Session ρ) (ts:List Token) {n:K.State}
  (hrel:K.rel (.ofTokens ts) (.ofTokens ts)) (hn:K.Holds n (.ofTokens ts)) :
  (∃ u m s, parseTokens ts = .ok u ∧ K.Whole n u.externals m ∧ K.Holds m s) ∨
   ∃ f, parseTokens ts = .error f ∧ f.stage = .grammatical := by
 obtain ⟨q,hrun⟩ : ∃ q, K.Outcome n _ _ _ _ (Parser.unit (.ofTokens ts)) q:=
  ⟨_,K.unit n _ _ hrel (Nat.lt_succ_self _) trivial hn⟩
 unfold CCheck.parseTokens
 generalize Parser.unit (.ofTokens ts) = p at hrun
 cases hrun with
 | ok _ _ _ holds _ paid => exact .inl ⟨_,_,_,rfl,paid,holds⟩
 | error _ _ _ _ stage => exact .inr ⟨_,rfl,stage⟩

end Session

end CCheck
