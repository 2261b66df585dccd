import CCheck.Proofs.Printing.Levels

/-! # Printed expressions are read back

By induction on the expression: if its operands are read back in every position, it is
read back at its own level; then it is read back in every position, at looser levels as
it stands and at tighter ones in parentheses. -/

set_option autoImplicit false

namespace CCheck

open Grammar

variable {names:TypeNames} {rest:List TokenKind}

variable {a:Expr} {args done es:List Expr} {op:UnaryOp} {t:TypeExpr} {ts:List TokenKind}

attribute [local simp] Expr.print Expr.printAt

def Expr.withoutPlaces (e:Expr) : Expr := e.mapSpans fun _ => .nowhere

def Expr.Same (e e':Expr) : Prop := e'.withoutPlaces = e.withoutPlaces

def Expr.Recovered (names:TypeNames) (e:Expr) : Prop :=
 ∀ d rest, e.print.length ≤ d → Stops e.level.follow rest →
  Begins names (read d) e.level e.print rest e.Same

def Expr.RoundTrips (names:TypeNames) (e:Expr) : Prop :=
 ∀ (level:Level) d rest, level.Proper → (e.printAt level).length ≤ d →
  Stops level.follow rest → Begins names (read d) level (e.printAt level) rest e.Same

/-! ### Positions -/

/-- A phrase of the level as other rules read it, through their reader. -/
def Level.inner (r:Reader) : Level → Parser Expr
 | comma => r .expr
 | assignment => r .assignment
 | conditional => r .conditional
 | binary p => r (.binary p)
 | cast => r .cast
 | unary => r .unary
 | level => level.parser r

lemma Level.inner_succ {level:Level} (h:level.rank ≤ 14) (d:Nat) :
  level.inner (read (d + 1)) = level.parser (read d) := by
 cases level with
 | postfixed => exact absurd h (by decide)
 | primary => exact absurd h (by decide)
 | _ => rfl

lemma Level.rank_follow (level:Level) : level.rank ≤ level.follow.rank := by
 cases level <;> simp [Level.follow,Level.rank]

namespace Expr.RoundTrips

variable {e:Expr} {d:Nat}

lemma reads (h:e.RoundTrips names) (level:Level) (hlevel:level.Proper)
  (hd:(e.printAt level).length ≤ d) (hrest:Stops level rest) :
  Reads names (level.parser (read d)) (e.printAt level) rest e.Same :=
 (h level d rest hlevel hd (hrest.mono level.rank_follow)).close hrest

lemma inner (h:e.RoundTrips names) (level:Level) (hlevel:level.Proper)
  (hle:level.rank ≤ 14) (hd:(e.printAt level).length < d) (hrest:Stops level rest) :
  Reads names (level.inner (read d)) (e.printAt level) rest e.Same := by
 obtain ⟨d,rfl⟩ : ∃ m, d = m + 1:=⟨d - 1,by omega⟩
 rw [Level.inner_succ hle]
 exact h.reads level hlevel (by omega) hrest

end Expr.RoundTrips

lemma reads_parenthesized {e:Expr} {d:Nat}
  (h:Reads names (Level.comma.inner (read d)) ts (.punct .rparen :: rest) e.Same) :
  Reads names (primary (read d)) (.punct .lparen :: (ts ++ [.punct .rparen])) rest e.Same := by
 refine Reads.current.look fun t ht => ?_
 have hkind:t.kind = .punct .lparen:=ht
 rw [hkind]
 refine Reads.advance.next fun _ _ => ?_
 refine Reads.bind h fun e' he' => ?_
 exact (Reads.expect .rparen).next fun _ _ => .pure he'

lemma Expr.Recovered.roundTrips {e:Expr} (h:e.Recovered names) (he:e.Printable)
  (hnames:∀ name, names.isType name = false) : e.RoundTrips names := by
 intro level d rest hlevel hd hrest
 unfold Expr.printAt enclosed at hd ⊢
 split at hd
 · rename_i htight
   rw [if_pos htight]
   -- The parentheses make a primary expression of a comma expression, which the reader
   -- for one level of nesting less still reads.
   simp only [List.length_cons,List.length_append,List.length_nil] at hd
   obtain ⟨d,rfl⟩ : ∃ m, d = m + 1:=⟨d - 1,by omega⟩
   have hstops (level:Level) : Stops level (.punct .rparen :: rest):=
    stops_of_none level rest rfl
   have hcomma:Begins names (read d) .comma e.print (.punct .rparen :: rest) e.Same:=
    he.lower hnames trivial (Nat.zero_le _) (hstops _) (h d _ (by omega) (hstops _))
   refine Begins.lower_primary hnames (startsPrimary_paren (he.startsExpr.append _)) ?_ hlevel
    hrest
   exact reads_parenthesized (hcomma.close (hstops _))
 · rename_i hloose
   rw [if_neg hloose]
   have hle:level.rank ≤ e.level.rank := by omega
   exact he.lower hnames hlevel hle hrest (h d rest hd (hrest.follow_mono e.level hlevel hle))

lemma reads_moreStrings (hrest:Stops .primary rest) (value:String) (span:Span) :
  Reads names (moreStrings value span) [] rest fun x => x = (value,span) := by
 refine Reads.loop_done ?_
 refine Reads.kind.look fun k hk => ?_
 cases k with
 | string next =>
  have hlt:=hrest .primary (congrArg TokenKind.continues? hk.symm)
  exact absurd hlt (Nat.lt_irrefl _)
 | _ => exact .pure rfl

lemma recovered_literal (l:Literal) : (Expr.literal l).Recovered names := by
 intro d rest _ hrest
 refine Reads.current.look fun t ht => ?_
 have hkind:t.kind = l.kind:=ht
 rw [hkind]
 cases l with
 | string value span =>
  refine Reads.advance.next fun _ _ => ?_
  refine (reads_moreStrings hrest value t.span).look fun x hx => ?_
  rw [hx]
  exact .pure rfl
 | _ => exact Reads.advance.next fun _ _ => .pure rfl

lemma recovered_ident (i:Ident) : (Expr.ident i).Recovered names := by
 intro d rest _ _
 refine Reads.current.look fun t ht => ?_
 have hkind:t.kind = .ident i.name:=ht
 rw [hkind]
 exact Reads.advance.next fun _ _ => .pure rfl

section Operators

variable {l r:Expr}

lemma recovered_comma (span:Span) (hl:l.RoundTrips names) (hr:r.RoundTrips names) :
  (Expr.comma l r span).Recovered names := by
 intro d rest hd hrest
 have hlength:(l.printAt .comma).length + ((r.printAt .assignment).length + 1) ≤ d := by
  simpa using hd
 have hleft:=hl .comma d (.punct .comma :: r.printAt .assignment ++ rest) trivial (by omega)
  (stops_of_some _ rfl (by decide))
 refine Opens.next hleft (by simp) fun e he => ?_
 refine (Reads.consume_present .comma).next fun b hb => ?_
 rw [hb]
 have hright:Reads names (assignment (read d)) (r.printAt .assignment) rest r.Same:=
  hr.reads .assignment trivial (by omega) hrest
 refine hright.lookAfter fun e' he' => .pure ⟨_,rfl,?_⟩
 simp only [Expr.Same,Expr.withoutPlaces,Expr.mapSpans] at he he' ⊢
 rw [he,he']

lemma recovered_assign (op:AssignOp) (span:Span) (hl:l.RoundTrips names)
  (hr:r.RoundTrips names) : (Expr.assign op l r span).Recovered names := by
 intro d rest hd hrest
 have hlength:(l.printAt .conditional).length + ((r.printAt .assignment).length + 1) ≤ d := by
  simpa using hd
 have hstops:Stops .conditional (.punct op.punct :: r.printAt .assignment ++ rest):=
  stops_of_some _ (continues?_of_assign? op.assign?_punct) (by decide)
 refine (hl.reads .conditional trivial (by omega) hstops).bind fun e he => ?_
 refine Reads.kind.look fun k hk => ?_
 obtain rfl : k = .punct op.punct:=hk
 rw [show (TokenKind.punct op.punct).assign? = some op from op.assign?_punct]
 refine Reads.advance.next fun _ _ => ?_
 refine (hr.inner .assignment trivial (by decide) (by omega) hrest).lookAfter fun e' he' =>
  .pure ?_
 simp only [Expr.Same,Expr.withoutPlaces,Expr.mapSpans] at he he' ⊢
 rw [he,he']

lemma recovered_binary (op:BinOp) (span:Span) (hl:l.RoundTrips names)
  (hr:r.RoundTrips names) : (Expr.binary op l r span).Recovered names := by
 intro d rest hd hrest least hleast
 have hlength:(l.printAt (.binary op.precedence)).length +
   ((r.printAt (.binary (op.precedence + 1))).length + 1) ≤ d := by
  simpa using hd
 have hpos:=op.precedence_pos
 have hle:=op.precedence_le
 have hstops:Stops (.binary (op.precedence + 1))
   (.punct op.punct :: r.printAt (.binary (op.precedence + 1)) ++ rest) :=
  stops_of_some _ (continues?_of_binary? op.binary?_punct) (Nat.lt_succ_self _)
 -- The left operand is read by the loop for `least`, which has to be open still.
 have hleft:=hl (.binary op.precedence) d _ ⟨hpos,by omega⟩ (by omega) hstops least hleast
 refine hleft.next (by simp) fun e he => ?_
 refine Reads.kind.look fun k hk => ?_
 obtain rfl : k = .punct op.punct:=hk
 rw [show (TokenKind.punct op.punct).binary? = some (op,op.precedence) from op.binary?_punct]
 dsimp only
 rw [if_neg (Nat.not_lt.mpr hleast)]
 refine Reads.advance.next fun _ _ => ?_
 have hrank:(Level.binary (op.precedence + 1)).rank ≤ 14 := by
  simp only [Level.rank]
  omega
 have hright:=hr.inner (.binary (op.precedence + 1)) ⟨by omega,by omega⟩ hrank
  (Nat.lt_of_lt_of_le (by omega) hlength) hrest
 refine hright.lookAfter fun e' he' => .pure ⟨_,rfl,?_⟩
 simp only [Expr.Same,Expr.withoutPlaces,Expr.mapSpans] at he he' ⊢
 rw [he,he']

lemma recovered_cond {test:Expr} (span:Span) (ht:test.RoundTrips names)
  (hl:l.RoundTrips names) (hr:r.RoundTrips names) :
  (Expr.cond test l r span).Recovered names := by
 intro d rest hd hrest
 have hlength:(test.printAt (.binary 1)).length + ((l.printAt .comma).length +
   ((r.printAt .conditional).length + 1) + 1) ≤ d := by
  simpa using hd
 have hquestion (us:List TokenKind) : Stops (.binary 1) (.punct .question :: us):=
  stops_of_some us rfl (by decide)
 have hcolon (us:List TokenKind) : Stops .comma (.punct .colon :: us):=
  stops_of_none .comma us rfl
 refine (ht.reads (.binary 1) ⟨by decide,by decide⟩ (by omega) (hquestion _)).bind fun c hc => ?_
 refine (Reads.consume_present .question).next fun b hb => ?_
 rw [hb]
 refine (hl.inner .comma trivial (by decide) (by omega) (hcolon _)).bind fun e he => ?_
 refine (Reads.expect .colon).next fun _ _ => ?_
 refine (hr.inner .conditional trivial (by decide) (by omega) hrest).lookAfter fun e' he' => ?_
 refine .pure ?_
 simp only [Expr.Same,Expr.withoutPlaces,Expr.mapSpans] at hc he he' ⊢
 rw [hc,he,he']

end Operators

lemma reads_atParenthesizedType_true (ht:t.Simple) (us:List TokenKind) :
  Reads names atParenthesizedType [] (.punct .lparen :: (t.print ++ us) ++ rest)
   fun b => b = true := by
 obtain ⟨b,k,vs,hb,hprint,-⟩:=@TypeExpr.Simple.opens names t ht
 refine (Reads.check .lparen).look fun b hb => ?_
 obtain rfl : b = true:=hb
 refine Reads.peek?.look fun x hx => ?_
 rw [hprint] at hx
 obtain rfl : x = some (.keyword k):=hx
 refine .pure ?_
 cases b <;> cases hb <;> rfl

section Unary

variable {e:Expr} {type:TypeExpr}

lemma recovered_cast (span:Span) (ht:type.Simple) (hstarts:StartsExpr (e.printAt .cast))
  (he:e.RoundTrips names) : (Expr.cast type e span).Recovered names := by
 intro d rest hd hrest
 have hlength:type.print.length + ((e.printAt .cast).length + 1) + 1 ≤ d := by
  simpa using hd
 refine (reads_atParenthesizedType_true ht _).look fun b hb => ?_
 rw [hb]
 refine Reads.advance.next fun _ _ => ?_
 refine (reads_typeName ht (read d)).bind fun u hu => ?_
 refine (Reads.expect .rparen).next fun _ _ => ?_
 refine (Reads.check .lbrace).look fun b hb => ?_
 obtain rfl : b = false:=hb.trans (beq_false_of_ne (hstarts.head_ne rest).2)
 refine (he.inner .cast trivial (by decide) (by omega) hrest).lookAfter fun e' he' => .pure ?_
 simp only [Expr.Same,Expr.withoutPlaces,TypeExpr.withoutPlaces,Expr.mapSpans] at hu he' ⊢
 rw [hu,he']

lemma recovered_sizeofType (span:Span) (ht:type.Simple) :
  (Expr.sizeofType type span).Recovered names := by
 intro d rest _ _
 refine Reads.current.look fun t hkind => ?_
 rw [show t.kind = .keyword .kwSizeof from hkind]
 refine Reads.advance.next fun _ _ => ?_
 refine (reads_atParenthesizedType_true ht _).look fun b hb => ?_
 rw [hb]
 refine Reads.advance.next fun _ _ => ?_
 refine (reads_typeName ht (read d)).bind fun u hu => ?_
 refine (Reads.expect .rparen).next fun _ _ => ?_
 refine Reads.previous.look fun _ _ => .pure ?_
 simp only [Expr.Same,Expr.withoutPlaces,TypeExpr.withoutPlaces,Expr.mapSpans] at hu ⊢
 rw [hu]

lemma recovered_sizeofExpr (hnames:∀ name, names.isType name = false) (span:Span)
  (hahead:NoTypeAhead (e.printAt .unary)) (he:e.RoundTrips names) :
  (Expr.sizeofExpr e span).Recovered names := by
 intro d rest hd hrest
 have hlength:(e.printAt .unary).length + 1 ≤ d := by
  simpa using hd
 refine Reads.current.look fun t hkind => ?_
 rw [show t.kind = .keyword .kwSizeof from hkind]
 refine Reads.advance.next fun _ _ => ?_
 refine (reads_atParenthesizedType_false hnames hahead).look fun b hb => ?_
 rw [hb]
 refine (he.inner .unary trivial (by decide) (by omega) hrest).lookAfter fun e' he' => .pure ?_
 simp only [Expr.Same,Expr.withoutPlaces,Expr.mapSpans] at he' ⊢
 rw [he']

lemma unaryOperand_eq (op:UnaryOp) (hop:op.follows = false) (r:Reader) :
  unaryOperand r op = op.operandLevel.inner r := by
 cases op with
 | postInc | postDec => cases hop
 | _ => rfl

lemma recovered_unary (hop:op.follows = false) (span:Span)
  (he:e.RoundTrips names) : (Expr.unary op e span).Recovered names := by
 have hlevel:(Expr.unary op e span).level = .unary := by simp [Expr.level,hop]
 have hprint:(Expr.unary op e span).print = .punct op.punct :: e.printAt op.operandLevel := by
  simp [hop]
 have hoperand:op.operandLevel.Proper ∧ 13 ≤ op.operandLevel.rank ∧
   op.operandLevel.rank ≤ 14 := by
  cases op with
  | postInc | postDec => cases hop
  | _ => exact ⟨trivial,by decide,by decide⟩
 intro d rest hd hrest
 rw [hlevel] at hrest ⊢
 rw [hprint] at hd ⊢
 -- What stops a unary expression stops a cast: no operator has a level between them.
 have hrest':Stops op.operandLevel rest:=Stops.tight (hrest.mono (by decide)) hoperand.2.1
 refine Reads.current.look fun t hkind => ?_
 rw [show t.kind = .punct op.punct from hkind,
  show (TokenKind.punct op.punct).unary? = some op from op.unary?_punct hop]
 refine Reads.advance.next fun _ _ => ?_
 rw [unaryOperand_eq op hop]
 refine (he.inner _ hoperand.1 hoperand.2.2 hd hrest').lookAfter fun e' he' => .pure ?_
 simp only [Expr.Same,Expr.withoutPlaces,Expr.mapSpans] at he' ⊢
 rw [he']

end Unary

/-! ### Postfix operators -/

section Postfixed

variable {e i:Expr}

lemma Expr.RoundTrips.base (h:e.RoundTrips names) {d:Nat} {k:TokenKind}
  (hd:(e.printAt .postfixed).length ≤ d) (hk:k.continues? = some .postfixed)
  (us:List TokenKind) :
  Opens names (primary (read d)) (postfixStep (read d)) (e.printAt .postfixed) (k :: us)
   e.Same :=
 h .postfixed d (k :: us) trivial hd (stops_of_some us hk (by decide))

lemma reads_postfixStep_unary (hop:op.follows = true) (r:Reader)
  (base:Expr) :
  Reads names (postfixStep r base) [.punct op.punct] rest
   fun x => ∃ span, x = .yield (.unary op base span) := by
 refine Reads.kind.look fun k hk => ?_
 cases op with
 | postInc =>
  obtain rfl : k = .punct .plusPlus:=hk
  refine Reads.advance.next fun _ _ => ?_
  exact Reads.previous.look fun _ _ => .pure ⟨_,rfl⟩
 | postDec =>
  obtain rfl : k = .punct .minusMinus:=hk
  refine Reads.advance.next fun _ _ => ?_
  exact Reads.previous.look fun _ _ => .pure ⟨_,rfl⟩
 | _ => cases hop

lemma recovered_unary_after (hop:op.follows = true) (span:Span)
  (he:e.RoundTrips names) : (Expr.unary op e span).Recovered names := by
 have hlevel:(Expr.unary op e span).level = .postfixed := by simp [Expr.level,hop]
 have hprint:(Expr.unary op e span).print = e.printAt .postfixed ++ [.punct op.punct] := by
  simp [hop,UnaryOp.operandLevel_of_follows hop]
 intro d rest hd _
 rw [hprint] at hd ⊢
 rw [hlevel]
 rw [List.length_append] at hd
 have hcontinues:=continues?_of_follows hop
 refine Opens.next (he.base (by omega) hcontinues rest) (by simp) fun e₀ he₀ => ?_
 refine (reads_postfixStep_unary hop _ e₀).mono fun x hx => ?_
 obtain ⟨place,rfl⟩:=hx
 refine ⟨_,rfl,?_⟩
 simp only [Expr.Same,Expr.withoutPlaces,Expr.mapSpans] at he₀ ⊢
 rw [he₀]

lemma recovered_index (span:Span) (he:e.RoundTrips names) (hi:i.RoundTrips names) :
  (Expr.index e i span).Recovered names := by
 intro d rest hd _
 have hlength:(e.printAt .postfixed).length + ((i.printAt .comma).length + 1 + 1) ≤ d := by
  simpa using hd
 refine Opens.next (he.base (by omega) rfl _) (by simp) fun e₀ he₀ => ?_
 refine Reads.kind.look fun k hk => ?_
 obtain rfl : k = .punct .lbracket:=hk
 refine Reads.advance.next fun _ _ => ?_
 have hstops:Stops .comma (.punct .rbracket :: rest):=stops_of_none .comma rest rfl
 refine (hi.inner .comma trivial (by decide) (by omega) hstops).bind fun e' he' => ?_
 refine (Reads.expect .rbracket).next fun _ _ => ?_
 refine Reads.previous.look fun _ _ => .pure ⟨_,rfl,?_⟩
 simp only [Expr.Same,Expr.withoutPlaces,Expr.mapSpans] at he₀ he' ⊢
 rw [he₀,he']

lemma reads_postfixStep_member (arrow:Bool) (name:String) (r:Reader) (base:Expr) :
  Reads names (postfixStep r base) [.punct (if arrow then .arrow else .dot),.ident name] rest
   fun x => ∃ m span, x = .yield (.member base m arrow span) ∧ m.name = name := by
 refine Reads.kind.look fun k hk => ?_
 cases arrow with
 | false =>
  obtain rfl : k = .punct .dot:=hk
  refine Reads.advance.next fun _ _ => ?_
  exact (Reads.ident name).next fun m hm => .pure ⟨m,_,rfl,hm⟩
 | true =>
  obtain rfl : k = .punct .arrow:=hk
  refine Reads.advance.next fun _ _ => ?_
  exact (Reads.ident name).next fun m hm => .pure ⟨m,_,rfl,hm⟩

lemma recovered_member (m:Ident) (arrow:Bool) (span:Span) (he:e.RoundTrips names) :
  (Expr.member e m arrow span).Recovered names := by
 intro d rest hd _
 have hlength:(e.printAt .postfixed).length + 2 ≤ d := by
  simpa using hd
 have hcontinues:(TokenKind.punct (if arrow then .arrow else .dot)).continues? =
   some .postfixed := by
  cases arrow <;> rfl
 refine Opens.next (he.base (by omega) hcontinues _) (by simp) fun e₀ he₀ => ?_
 refine (reads_postfixStep_member arrow m.name _ e₀).mono fun x hx => ?_
 obtain ⟨m',place,rfl,hm'⟩:=hx
 refine ⟨_,rfl,?_⟩
 simp only [Expr.Same,Expr.withoutPlaces,Expr.mapSpans,Ident.mapSpan] at he₀ ⊢
 rw [he₀,hm']

def argumentStep (r:Reader) (es:List Expr) : Parser (ForInStep (List Expr)) := do
 let e : Expr ← r .assignment
 if ← Parser.consume .comma then return .yield (es ++ [e]) else return .done (es ++ [e])

lemma arguments_eq (r:Reader) :
  arguments r = Parser.check .rparen >>= fun b =>
   if b then pure [] else pure [] >>= Parser.loop (argumentStep r) := rfl

def Expr.SameAll (es es':List Expr) : Prop :=
 es'.map Expr.withoutPlaces = es.map Expr.withoutPlaces

lemma Expr.SameAll.concat {es':List Expr} {e e':Expr} (hes:Expr.SameAll es es')
  (he:e.Same e') : Expr.SameAll (es ++ [e]) (es' ++ [e']) := by
 unfold Expr.SameAll Expr.Same at *
 rw [List.map_append,List.map_append,hes,List.map_singleton,List.map_singleton,he]

lemma reads_argument (ha:a.RoundTrips names) {d:Nat}
  (hd:(a.printAt .assignment).length < d) (hes:Expr.SameAll done es) :
  Reads names (argumentStep (read d) es) (a.printAt .assignment ++ [.punct .comma]) rest
   fun x => ∃ es', x = .yield es' ∧ Expr.SameAll (done ++ [a]) es' := by
 have hstops:Stops .assignment (.punct .comma :: rest):=stops_of_some rest rfl (by decide)
 refine (ha.inner .assignment trivial (by decide) hd hstops).bind fun e he => ?_
 refine (Reads.consume_present .comma).next fun b hb => ?_
 rw [hb]
 exact .pure ⟨_,rfl,hes.concat he⟩

lemma reads_lastArgument (ha:a.RoundTrips names) {d:Nat}
  (hd:(a.printAt .assignment).length < d) (hes:Expr.SameAll done es) :
  Reads names (argumentStep (read d) es) (a.printAt .assignment) (.punct .rparen :: rest)
   fun x => ∃ es', x = .done es' ∧ Expr.SameAll (done ++ [a]) es' := by
 have hstops:Stops .assignment (.punct .rparen :: rest):=stops_of_none .assignment rest rfl
 refine (ha.inner .assignment trivial (by decide) hd hstops).lookAfter fun e he => ?_
 refine (Reads.consume_absent (by simp)).look fun b hb => ?_
 rw [hb]
 exact .pure ⟨_,rfl,hes.concat he⟩

lemma reads_argumentLoop {d:Nat} (args:List Expr) (hargs:args ≠ [])
  (h:∀ a ∈ args, a.RoundTrips names) (hd:(Expr.printArgs args).length < d)
  
  (hopens:Opens names (pure []) (argumentStep (read d)) ts
   (Expr.printArgs args ++ .punct .rparen :: rest) (Expr.SameAll done)) :
  Reads names (pure [] >>= Parser.loop (argumentStep (read d))) (ts ++ Expr.printArgs args)
   (.punct .rparen :: rest) (Expr.SameAll (done ++ args)) := by
 induction args generalizing ts done with
 | nil => exact absurd rfl hargs
 | cons a args ih =>
  have ha:=h a List.mem_cons_self
  cases args with
  | nil =>
   have hprint:Expr.printArgs [a] = a.printAt .assignment:=List.append_nil _
   rw [hprint] at hd hopens ⊢
   exact hopens.finish fun es hes => reads_lastArgument ha hd hes
  | cons b args =>
   have hprint:Expr.printArgs (a :: b :: args) =
     (a.printAt .assignment ++ [.punct .comma]) ++ Expr.printArgs (b :: args) := by
    rw [List.append_assoc]
    rfl
   rw [hprint,List.length_append,List.length_append] at hd
   rw [hprint,List.append_assoc] at hopens
   have hnext:=hopens.next (by simp) fun es hes => reads_argument ha (by omega) hes
   have hloop:=ih (by simp) (fun x hx => h x (List.mem_cons_of_mem a hx)) (by omega) hnext
   rw [List.append_assoc ts,← hprint,List.append_assoc done] at hloop
   exact hloop

lemma reads_arguments {d:Nat} (hprintable:∀ a ∈ args, a.Printable)
  (h:∀ a ∈ args, a.RoundTrips names) (hd:(Expr.printArgs args).length < d) :
  Reads names (arguments (read d)) (Expr.printArgs args) (.punct .rparen :: rest)
   (Expr.SameAll args) := by
 rw [arguments_eq]
 refine (Reads.check .rparen).look fun b hb => ?_
 cases args with
 | nil =>
  obtain rfl : b = true:=hb
  exact .pure rfl
 | cons a args =>
  have hstarts:StartsExpr (Expr.printArgs (a :: args)):=
   ((hprintable a List.mem_cons_self).startsExpr_printAt .assignment).append _
  obtain rfl : b = false:=hb.trans (beq_false_of_ne (hstarts.head_ne _).1)
  exact reads_argumentLoop (a :: args) (by simp) h hd (.of_start (.pure rfl))

lemma recovered_call (span:Span) (he:e.RoundTrips names)
  (hprintable:∀ a ∈ args, a.Printable) (hargs:∀ a ∈ args, a.RoundTrips names) :
  (Expr.call e args span).Recovered names := by
 intro d rest hd _
 have hlength:(e.printAt .postfixed).length + ((Expr.printArgs args).length + 1 + 1) ≤ d := by
  simpa using hd
 refine Opens.next (he.base (by omega) rfl _) (by simp) fun e₀ he₀ => ?_
 refine Reads.kind.look fun k hk => ?_
 obtain rfl : k = .punct .lparen:=hk
 refine Reads.advance.next fun _ _ => ?_
 refine (reads_arguments hprintable hargs (by omega)).bind fun es hes => ?_
 refine (Reads.expect .rparen).next fun _ _ => ?_
 refine Reads.previous.look fun _ _ => .pure ⟨_,rfl,?_⟩
 have hes':es.map (Expr.mapSpans fun _ => .nowhere) =
  args.map (Expr.mapSpans fun _ => .nowhere) := hes
 simp only [Expr.Same,Expr.withoutPlaces,Expr.mapSpans,Expr.mapSpansAll_eq] at he₀ ⊢
 rw [he₀,hes']

end Postfixed

lemma Expr.Printable.roundTrips {e:Expr} (h:e.Printable)
  (hnames:∀ name, names.isType name = false) : e.RoundTrips names := by
 induction h with
 | literal l => exact (recovered_literal l).roundTrips (.literal l) hnames
 | ident i => exact (recovered_ident i).roundTrips (.ident i) hnames
 | binary op span hl hr ihl ihr =>
  exact (recovered_binary op span ihl ihr).roundTrips (.binary op span hl hr) hnames
 | unary op span he ih =>
  cases hop : op.follows with
  | false => exact (recovered_unary hop span ih).roundTrips (.unary op span he) hnames
  | true => exact (recovered_unary_after hop span ih).roundTrips (.unary op span he) hnames
 | assign op span ht hv iht ihv =>
  exact (recovered_assign op span iht ihv).roundTrips (.assign op span ht hv) hnames
 | cond span ht hy hn iht ihy ihn =>
  exact (recovered_cond span iht ihy ihn).roundTrips (.cond span ht hy hn) hnames
 | call span hc ha ihc iha =>
  exact (recovered_call span ihc ha iha).roundTrips (.call span hc ha) hnames
 | index span hb hi ihb ihi =>
  exact (recovered_index span ihb ihi).roundTrips (.index span hb hi) hnames
 | member m arrow span hb ihb =>
  exact (recovered_member m arrow span ihb).roundTrips (.member m arrow span hb) hnames
 | cast span ht he ih =>
  exact (recovered_cast span ht (he.startsExpr_printAt .cast) ih).roundTrips (.cast span ht he)
   hnames
 | sizeofType span ht =>
  exact (recovered_sizeofType span ht).roundTrips (.sizeofType span ht) hnames
 | sizeofExpr span he ih =>
  exact (recovered_sizeofExpr hnames span he.noTypeAhead_printAt ih).roundTrips
   (.sizeofExpr span he) hnames
 | comma span hl hr ihl ihr =>
  exact (recovered_comma span ihl ihr).roundTrips (.comma span hl hr) hnames

/-! ### Fresh parsers -/

lemma TypeExpr.Simple.eof_not_mem_print (h:t.Simple) : .eof ∉ t.print := by
 induction h with
 | base hb => simp [TypeExpr.print,TypeForm.print,hb]
 | pointer _ ih => simpa [TypeExpr.print,TypeForm.print] using ih

lemma eof_not_mem_enclosed (required level:Level) (h:.eof ∉ ts) :
  .eof ∉ enclosed required level ts := by
 unfold enclosed
 split <;> simp [h]

lemma eof_not_mem_printArgs (h:∀ a ∈ args, .eof ∉ a.print) :
  .eof ∉ Expr.printArgs args := by
 induction args with
 | nil => simp [Expr.printArgs]
 | cons a args ih =>
  have ha:=eof_not_mem_enclosed .assignment a.level (h a List.mem_cons_self)
  have hargs:=ih fun x hx => h x (List.mem_cons_of_mem a hx)
  unfold Expr.printArgs
  split <;> simp [ha,hargs]

lemma Expr.Printable.eof_not_mem_print {e:Expr} (h:e.Printable) : .eof ∉ e.print := by
 induction h with
 | literal l => cases l <;> simp [Literal.kind]
 | call span _ _ ihc iha =>
  simp [eof_not_mem_enclosed _ _ ihc,eof_not_mem_printArgs iha]
 | unary op span _ ih =>
  unfold Expr.print
  split <;> simp [eof_not_mem_enclosed _ _ ih]
 | cast span ht _ ih => simp [ht.eof_not_mem_print,eof_not_mem_enclosed _ _ ih]
 | sizeofType span ht => simp [ht.eof_not_mem_print]
 | _ => simp_all [eof_not_mem_enclosed]

lemma TokenStream.rest_ofTokens_concat (ts:List Token) (t:Token) :
  (TokenStream.ofTokens (ts ++ [t])).rest = if t.kind.isEof then ts else ts ++ [t] := by
 simp only [TokenStream.ofTokens,List.getLast?_concat,List.dropLast_concat]
 split <;> rfl

lemma ParserState.before_ofTokens {ts:List Token} {kinds finish:List TokenKind}
  (hts:ts.map (·.kind) = kinds ++ finish) (hfinish:finish = [] ∨ finish = [.eof])
  (hkinds:.eof ∉ kinds) : (ParserState.ofTokens ts).Before .start kinds := by
 refine ⟨?_,rfl⟩
 obtain rfl | rfl:=hfinish
 · rw [List.append_nil] at hts
   obtain rfl | ⟨init,t,rfl⟩:=List.eq_nil_or_concat ts
   · exact hts
   · rw [List.concat_eq_append] at hts ⊢
     have ht:t.kind.isEof = false := by
      have hmem:t.kind ∈ kinds := by simp [← hts]
      cases hk : t.kind with
      | eof => exact absurd (hk ▸ hmem) hkinds
      | _ => rfl
     unfold ParserState.ofTokens
     rw [TokenStream.rest_ofTokens_concat,ht]
     exact hts
 · obtain ⟨init,last,rfl,hinit,hlast⟩:=List.map_eq_append_iff.mp hts
   obtain ⟨t,rfl,ht⟩:=List.map_eq_singleton_iff.mp hlast
   unfold ParserState.ofTokens
   rw [TokenStream.rest_ofTokens_concat,ht]
   exact hinit

lemma TypeNames.isType_start (name:String) : TypeNames.start.isType name = false := rfl

/-- A fresh parser reads the tokens of a printed expression to their end and answers the
expression, at places of its own. -/
theorem Parser.expr_print (e:Expr) (ts:List Token) (finish:List TokenKind)
  (he:e.Printable) (hts:ts.map (·.kind) = e.print ++ finish)
  (hfinish:finish = [] ∨ finish = [.eof]) :
  ∃ e' s, Parser.expr (.ofTokens ts) = .ok e' s ∧ e'.withoutPlaces = e.withoutPlaces ∧
   s.stream.rest = [] := by
 have hbefore:=ParserState.before_ofTokens hts hfinish he.eof_not_mem_print
 have hprint:e.printAt .comma = e.print := by
  unfold Expr.printAt enclosed
  exact if_neg (Nat.not_lt_zero _)
 have hlength:(e.printAt .comma).length ≤ e.print.length + 1 := by
  rw [hprint]
  omega
 have hreads:=
  (he.roundTrips TypeNames.isType_start).reads .comma trivial hlength (stops_nil .comma)
 rw [hprint] at hreads
 rw [← List.append_nil e.print] at hbefore
 obtain ⟨e',s,hparse,hsame,hend⟩:=hreads _ hbefore
 refine ⟨e',s,?_,hsame,List.map_eq_nil_iff.mp hend.kinds⟩
 unfold Parser.expr Grammar.withReader
 rw [hbefore.length,List.append_nil]
 exact hparse

/-- `sizeof ((int *) p) - (a - b)`. -/
theorem Parser.expr_print_sizeof :
  ∃ e' s,
   Parser.expr (.ofTokens (([.keyword .kwSizeof,.punct .lparen,.punct .lparen,
    .keyword .kwInt,.punct .star,.punct .rparen,.ident "p",.punct .rparen,.punct .minus,
    .punct .lparen,.ident "a",.punct .minus,.ident "b",.punct .rparen,.eof] :
     List TokenKind).map fun k => ⟨k,"",.nowhere⟩)) = .ok e' s ∧
   e'.withoutPlaces = .binary .sub
    (.sizeofExpr (.cast ⟨.pointer ⟨.base .int,.none,.nowhere⟩,.none,.nowhere⟩
     (.ident ⟨"p",.nowhere⟩) .nowhere) .nowhere)
    (.binary .sub (.ident ⟨"a",.nowhere⟩) (.ident ⟨"b",.nowhere⟩) .nowhere) .nowhere ∧
   s.stream.rest = [] :=
 Parser.expr_print
  (.binary .sub
   (.sizeofExpr (.cast ⟨.pointer ⟨.base .int,.none,.nowhere⟩,.none,.nowhere⟩
    (.ident ⟨"p",.nowhere⟩) .nowhere) .nowhere)
   (.binary .sub (.ident ⟨"a",.nowhere⟩) (.ident ⟨"b",.nowhere⟩) .nowhere) .nowhere)
  _ [.eof]
  (.binary _ _ (.sizeofExpr _ (.cast _ (.pointer (.base rfl)) (.ident _)))
   (.binary _ _ (.ident _) (.ident _)))
  rfl (.inr rfl)

end CCheck
