import CCheck.Proofs.Printing.TypeNames

/-! # Levels of expressions and the rules that read them

A phrase that a tight level reads is read by every looser level too, if the token that
follows does not continue it. -/

set_option autoImplicit false

namespace CCheck

open Grammar

variable {names:TypeNames} {ts rest:List TokenKind} {Q:Expr → Prop} {r:Reader}

variable {e:Expr} {k:TokenKind} {l:Level} {p:Nat}

/-! ### What may follow -/

def Punctuator.continues? : Punctuator → Option Level
 | comma => some .comma
 | question => some .conditional
 | lparen | lbracket | dot | arrow | plusPlus | minusMinus => some .postfixed
 | p => if p.isAssignment then some .assignment else p.precedence?.map Level.binary

def TokenKind.continues? : TokenKind → Option Level
 | punct p => p.continues?
 | string _ => some .primary
 | _ => none

def Stops (level:Level) (rest:List TokenKind) : Prop :=
 ∀ l, (rest.headD .eof).continues? = some l → l.rank < level.rank

lemma Stops.mono {level level':Level} (h:Stops level rest)
  (hle:level.rank ≤ level'.rank) : Stops level' rest :=
 fun l hl => Nat.lt_of_lt_of_le (h l hl) hle

lemma stops_nil (level:Level) : Stops level [] := by
 intro l hl
 cases hl

lemma stops_of_none (level:Level) (ts:List TokenKind)
  (h:k.continues? = none) : Stops level (k :: ts) := by
 intro l hl
 rw [List.headD_cons,h] at hl
 cases hl

lemma stops_of_some {level:Level} (ts:List TokenKind)
  (h:k.continues? = some l) (hlt:l.rank < level.rank) : Stops level (k :: ts) := by
 intro l' hl'
 rw [List.headD_cons,h] at hl'
 obtain rfl:=Option.some.inj hl'
 exact hlt

lemma continues?_of_binary? {op:BinOp}
  (h:k.binary? = some (op,p)) : k.continues? = some (.binary p) := by
 cases k with
 | punct q => cases q <;> cases h <;> rfl
 | _ => cases h

lemma continues?_of_assign? {op:AssignOp} (h:k.assign? = some op) :
  k.continues? = some .assignment := by
 cases k with
 | punct q => cases q <;> cases h <;> rfl
 | _ => cases h

lemma continues?_of_follows {op:UnaryOp} (h:op.follows = true) :
  (TokenKind.punct op.punct).continues? = some .postfixed := by
 cases op with
 | postInc | postDec => rfl
 | _ => cases h

lemma rank_of_continues? (h:k.continues? = some l) :
  l.rank ≤ 12 ∨ 15 ≤ l.rank := by
 cases k with
 | punct q => cases q <;> cases h <;> decide
 | string _ => cases h; decide
 | _ => cases h

lemma Stops.tight {level:Level} (h:Stops .postfixed rest) (hlevel:13 ≤ level.rank) :
  Stops level rest := by
 intro l hl
 have hlt:l.rank < 15:=h l hl
 rcases rank_of_continues? hl with hle | hle
 · omega
 · omega

/-! ### How printed expressions begin -/

def StartsExpr (ts:List TokenKind) : Prop :=
 ∃ k us, ts = k :: us ∧ k.isTypeNameKeyword = false ∧ k ≠ .punct .rparen ∧ k ≠ .punct .lbrace

def NoTypeAhead (ts:List TokenKind) : Prop :=
 ∃ k us, ts = k :: us ∧ (k = .punct .lparen → StartsExpr us)

def StartsPrimary (ts:List TokenKind) : Prop :=
 ∃ k us, ts = k :: us ∧ k.unary? = none ∧ k ≠ .keyword .kwSizeof ∧
  (k = .punct .lparen → StartsExpr us)

lemma StartsPrimary.noTypeAhead (h:StartsPrimary ts) : NoTypeAhead ts := by
 obtain ⟨k,us,rfl,-,-,hus⟩:=h
 exact ⟨k,us,rfl,hus⟩

lemma StartsExpr.append (h:StartsExpr ts) (us:List TokenKind) : StartsExpr (ts ++ us) := by
 obtain ⟨k,vs,rfl,hk⟩:=h
 exact ⟨k,vs ++ us,rfl,hk⟩

lemma StartsExpr.head_ne (h:StartsExpr ts) (us:List TokenKind) :
  (ts ++ us).headD .eof ≠ .punct .rparen ∧ (ts ++ us).headD .eof ≠ .punct .lbrace := by
 obtain ⟨k,vs,rfl,-,hk⟩:=h
 exact hk

lemma StartsPrimary.append (h:StartsPrimary ts) (us:List TokenKind) :
  StartsPrimary (ts ++ us) := by
 obtain ⟨k,vs,rfl,hunary,hsizeof,hvs⟩:=h
 exact ⟨k,vs ++ us,rfl,hunary,hsizeof,fun hk => (hvs hk).append us⟩

lemma startsExpr_paren (ts:List TokenKind) : StartsExpr (.punct .lparen :: ts) :=
 ⟨_,ts,rfl,rfl,by decide,by decide⟩

lemma startsPrimary_paren (h:StartsExpr ts) : StartsPrimary (.punct .lparen :: ts) :=
 ⟨_,ts,rfl,rfl,by decide,fun _ => h⟩

lemma startsExpr_enclosed (required level:Level) (h:StartsExpr ts) :
  StartsExpr (enclosed required level ts) := by
 unfold enclosed
 split
 · exact startsExpr_paren _
 · exact h

lemma Expr.Printable.startsExpr (h:e.Printable) : StartsExpr e.print := by
 induction h with
 | literal l => cases l <;> exact ⟨_,_,rfl,rfl,by simp [Literal.kind],by simp [Literal.kind]⟩
 | ident i => exact ⟨_,_,rfl,rfl,by simp,by simp⟩
 | binary op span _ _ hl _ => exact (startsExpr_enclosed _ _ hl).append _
 | unary op span _ he =>
  unfold Expr.print
  split
  · exact (startsExpr_enclosed _ _ he).append _
  · cases op <;> exact ⟨_,_,rfl,rfl,by decide,by decide⟩
 | assign op span _ _ ht _ => exact (startsExpr_enclosed _ _ ht).append _
 | cond span _ _ _ ht _ _ => exact (startsExpr_enclosed _ _ ht).append _
 | call span _ _ hc _ => exact (startsExpr_enclosed _ _ hc).append _
 | index span _ _ hb _ => exact (startsExpr_enclosed _ _ hb).append _
 | member m arrow span _ hb => exact (startsExpr_enclosed _ _ hb).append _
 | cast span _ _ _ => exact startsExpr_paren _
 | sizeofType span _ => exact ⟨_,_,rfl,rfl,by decide,by decide⟩
 | sizeofExpr span _ _ => exact ⟨_,_,rfl,rfl,by decide,by decide⟩
 | comma span _ _ hl _ => exact (startsExpr_enclosed _ _ hl).append _

lemma Expr.Printable.startsExpr_printAt (h:e.Printable) (required:Level) :
  StartsExpr (e.printAt required) :=
 startsExpr_enclosed _ _ h.startsExpr

lemma startsPrimary_enclosed {required:Level} (hexpr:StartsExpr e.print)
  (h:required.rank ≤ e.level.rank → StartsPrimary e.print) :
  StartsPrimary (e.printAt required) := by
 unfold Expr.printAt enclosed
 split
 · exact startsPrimary_paren (hexpr.append _)
 · exact h (by omega)

lemma Expr.Printable.startsPrimary (h:e.Printable)
  (hlevel:Level.postfixed.rank ≤ e.level.rank) : StartsPrimary e.print := by
 induction h with
 | literal l =>
  cases l <;> exact ⟨_,_,rfl,rfl,by simp [Literal.kind],by simp [Literal.kind]⟩
 | ident i => exact ⟨_,_,rfl,rfl,by simp,by simp⟩
 | unary op span he ih =>
  cases hfollows : op.follows with
  | true =>
   unfold Expr.print
   rw [if_pos hfollows]
   rw [UnaryOp.operandLevel_of_follows hfollows]
   exact (startsPrimary_enclosed he.startsExpr ih).append _
  | false => simp [Expr.level,hfollows,Level.rank] at hlevel
 | call span hc _ ih _ => exact (startsPrimary_enclosed hc.startsExpr ih).append _
 | index span hb _ ih _ => exact (startsPrimary_enclosed hb.startsExpr ih).append _
 | member m arrow span hb ih => exact (startsPrimary_enclosed hb.startsExpr ih).append _
 | binary op span _ _ _ _ =>
  have:=op.precedence_le
  simp only [Expr.level,Level.rank] at hlevel
  omega
 | _ => simp [Expr.level,Level.rank] at hlevel

lemma Expr.level_binary (h:e.level = .binary p) : 1 ≤ p ∧ p ≤ 10 := by
 cases e with
 | binary op l r span =>
  obtain rfl : op.precedence = p:=Level.binary.inj h
  exact ⟨op.precedence_pos,op.precedence_le⟩
 | unary op e span => cases op <;> cases h
 | _ => cases h

lemma Expr.Printable.noTypeAhead (h:e.Printable)
  (hlevel:Level.unary.rank ≤ e.level.rank) : NoTypeAhead e.print := by
 by_cases hpostfixed : Level.postfixed.rank ≤ e.level.rank
 · exact (h.startsPrimary hpostfixed).noTypeAhead
 · cases h with
   | unary op span _ =>
    cases hfollows : op.follows with
    | true => simp [Expr.level,hfollows] at hpostfixed
    | false =>
     unfold Expr.print
     rw [if_neg (by simp [hfollows])]
     cases op <;> exact ⟨_,_,rfl,by simp [UnaryOp.punct]⟩
   | sizeofType span _ => exact ⟨_,_,rfl,by simp⟩
   | sizeofExpr span _ => exact ⟨_,_,rfl,by simp⟩
   | binary op span _ _ =>
    have:=op.precedence_le
    simp only [Expr.level,Level.rank] at hlevel
    omega
   | _ => simp [Expr.level,Level.rank] at hlevel hpostfixed

lemma Expr.Printable.noTypeAhead_printAt (h:e.Printable) :
  NoTypeAhead (e.printAt .unary) := by
 unfold Expr.printAt enclosed
 split
 · exact (startsPrimary_paren (h.startsExpr.append _)).noTypeAhead
 · exact h.noTypeAhead (by omega)

/-! ### Rules by level -/

def commaStep (r:Reader) (left:Expr) : Parser (ForInStep Expr) := do
 if ← Parser.consume .comma then
  let right ← Grammar.assignment r
  return .yield (.comma left right (left.span.merge right.span))
 else return .done left

lemma expression_eq (r:Reader) :
  expression r = Grammar.assignment r >>= Parser.loop (commaStep r) := rfl

def Level.parser (r:Reader) : Level → Parser Expr
 | comma => expression r
 | assignment => Grammar.assignment r
 | conditional => Grammar.conditional r
 | binary p => Grammar.binary r p
 | cast => Grammar.cast r
 | unary => Grammar.unary r
 | postfixed => Grammar.postfixed r
 | primary => Grammar.primary r

lemma reads_commaStep_done (h:Stops .comma rest) (left:Expr) :
  Reads names (commaStep r left) [] rest fun x => x = .done left := by
 have hcomma:rest.headD .eof ≠ .punct .comma := by
  intro heq
  have:=h .comma (by rw [heq]; rfl)
  omega
 refine (Reads.consume_absent hcomma).look fun b hb => ?_
 rw [hb]
 exact .pure rfl

lemma reads_binaryStep_done (h:Stops (.binary p) rest) (left:Expr) :
  Reads names (binaryStep r p left) [] rest fun x => x = .done left := by
 refine Reads.kind.look fun k hk => ?_
 split
 · rename_i op q hbinary
   have hlt:=h (.binary q) (by rw [← continues?_of_binary? hbinary]; exact congrArg _ hk.symm)
   simp only [Level.rank] at hlt
   rw [if_pos (by omega)]
   exact .pure rfl
 · exact .pure rfl

lemma reads_postfixStep_done (h:Stops .postfixed rest) (e:Expr) :
  Reads names (postfixStep r e) [] rest fun x => x = .done e := by
 refine Reads.kind.look fun k hk => ?_
 have hstops:∀ l, k.continues? = some l → l.rank < 15 := by
  rw [show k = rest.headD .eof from hk]
  exact h
 split
 case h_7 => exact .pure rfl
 all_goals exact absurd (hstops .postfixed rfl) (by decide)

lemma reads_atParenthesizedType_false (hnames:∀ name, names.isType name = false)
  (h:NoTypeAhead ts) :
  Reads names atParenthesizedType [] (ts ++ rest) fun b => b = false := by
 obtain ⟨k,us,rfl,hus⟩:=h
 refine (Reads.check .lparen).look fun b hb => ?_
 cases b with
 | false => exact .pure rfl
 | true =>
  have hk:k = .punct .lparen := by
   have : (k == .punct .lparen) = true:=hb.symm
   simpa using this
  obtain ⟨k',vs,rfl,htype,-⟩:=hus hk
  refine Reads.peek?.look fun x hx => ?_
  obtain rfl : x = some k':=hx
  cases k' with
  | ident name => exact (Reads.isTypeName name).mono fun b hb => hb.trans (hnames name)
  | _ => exact .pure htype

/-! ### From a level to the next looser one -/

lemma Reads.unary_of_postfixed (hts:StartsPrimary ts)
  (h:Reads names (Grammar.postfixed r) ts rest Q) :
  Reads names (Grammar.unary r) ts rest Q := by
 obtain ⟨k,us,rfl,hunary,hsizeof,-⟩:=hts
 refine Reads.current.look fun t ht => ?_
 have hkind:t.kind = k:=ht
 rw [hkind,hunary]
 dsimp only
 rw [if_neg (by simpa using hsizeof)]
 exact h

lemma Reads.cast_of_unary (hnames:∀ name, names.isType name = false) (hts:NoTypeAhead ts)
  (h:Reads names (Grammar.unary r) ts rest Q) : Reads names (Grammar.cast r) ts rest Q := by
 refine (reads_atParenthesizedType_false hnames hts).look fun b hb => ?_
 rw [hb]
 exact h

lemma Reads.conditional_of_binary (hrest:Stops .conditional rest)
  (h:Reads names (Grammar.binary r 1) ts rest Q) :
  Reads names (Grammar.conditional r) ts rest Q := by
 have hquestion:rest.headD .eof ≠ .punct .question := by
  intro heq
  have:=hrest .conditional (by rw [heq]; rfl)
  omega
 refine h.lookAfter fun e he => ?_
 refine (Reads.consume_absent hquestion).look fun b hb => ?_
 rw [hb]
 exact .pure he

lemma Reads.assignment_of_conditional (hrest:Stops .assignment rest)
  (h:Reads names (Grammar.conditional r) ts rest Q) :
  Reads names (Grammar.assignment r) ts rest Q := by
 refine h.lookAfter fun e he => ?_
 refine Reads.kind.look fun k hk => ?_
 split
 · rename_i op hassign
   have hlt:=hrest .assignment (by
    rw [← continues?_of_assign? hassign]
    exact congrArg _ hk.symm)
   exact absurd hlt (Nat.lt_irrefl _)
 · exact .pure he

/-- The level that must be stopped after a phrase: a loop may go on at its own level. -/
def Level.follow : Level → Level
 | comma => assignment
 | binary p => binary (p + 1)
 | postfixed => primary
 | level => level

def Begins (names:TypeNames) (r:Reader) (level:Level) (ts rest:List TokenKind)
  (Q:Expr → Prop) : Prop :=
 match level with
 | .comma => Opens names (Grammar.assignment r) (commaStep r) ts rest Q
 | .binary q => ∀ p, p ≤ q → Opens names (Grammar.cast r) (binaryStep r p) ts rest Q
 | .postfixed => Opens names (Grammar.primary r) (postfixStep r) ts rest Q
 | level => Reads names (level.parser r) ts rest Q

lemma Begins.close {level:Level} (h:Begins names r level ts rest Q)
  (hrest:Stops level rest) : Reads names (level.parser r) ts rest Q := by
 cases level with
 | comma =>
  unfold Level.parser
  rw [expression_eq]
  exact Opens.close h fun e _ => reads_commaStep_done hrest e
 | binary p => exact Opens.close (h p (Nat.le_refl p)) fun e _ => reads_binaryStep_done hrest e
 | postfixed => exact Opens.close h fun e _ => reads_postfixStep_done hrest e
 | _ => exact h

def Level.Proper : Level → Prop
 | binary p => 1 ≤ p ∧ p ≤ 11
 | _ => True

lemma Stops.follow_mono {level:Level} (tighter:Level) (hlevel:level.Proper)
  (hle:level.rank ≤ tighter.rank) (h:Stops level.follow rest) :
  Stops tighter.follow rest := by
 intro l hl
 have hlt:=h l hl
 have hrank:=rank_of_continues? hl
 generalize l.rank = n at hlt hrank ⊢
 cases level <;> cases tighter <;>
  simp only [Level.follow,Level.rank,Level.Proper] at hlevel hle hlt ⊢ <;> omega

/-! ### From any level to all looser ones -/

section Lower

variable {level:Level}

lemma Begins.lower_assignment (h:Reads names (Grammar.assignment r) ts rest Q)
  (hle:level.rank ≤ 1) : Begins names r level ts rest Q := by
 cases level with
 | comma => exact .of_start h
 | assignment => exact h
 | _ =>
  simp only [Level.rank] at hle
  omega

lemma Begins.lower_conditional (h:Reads names (Grammar.conditional r) ts rest Q)
  (hlevel:level.Proper) (hle:level.rank ≤ 2) (hrest:Stops level.follow rest) :
  Begins names r level ts rest Q := by
 cases level with
 | comma => exact lower_assignment (h.assignment_of_conditional hrest) (by decide)
 | assignment => exact h.assignment_of_conditional hrest
 | conditional => exact h
 | _ =>
  simp only [Level.rank,Level.Proper] at hle hlevel
  omega

lemma Begins.lower_binary {q:Nat} (hq:1 ≤ q ∧ q ≤ 10)
  (h:Begins names r (.binary q) ts rest Q) (hlevel:level.Proper)
  (hle:level.rank ≤ q + 2) (hrest:Stops level.follow rest) :
  Begins names r level ts rest Q := by
 by_cases hloose : level.rank ≤ 2
 · have hconditional:Stops .conditional rest:=hrest.follow_mono .conditional hlevel hloose
   have hone:Begins names r (.binary 1) ts rest Q:=fun p hp => h p (by omega)
   have hbinary:=hone.close (hconditional.mono (by decide))
   exact lower_conditional (hbinary.conditional_of_binary hconditional) hlevel hloose hrest
 · cases level with
   | binary p =>
    intro p' hp'
    simp only [Level.rank] at hle
    exact h p' (by omega)
   | _ =>
    simp only [Level.rank] at hle hloose
    omega

lemma Begins.lower_cast (h:Reads names (Grammar.cast r) ts rest Q)
  (hlevel:level.Proper) (hle:level.rank ≤ 13) (hrest:Stops level.follow rest) :
  Begins names r level ts rest Q := by
 have hbinary (q:Nat) : Begins names r (.binary q) ts rest Q:=fun _ _ => .of_start h
 by_cases hloose : level.rank ≤ 12
 · exact lower_binary (by decide) (hbinary 10) hlevel hloose hrest
 · cases level with
   | cast => exact h
   | binary p => exact hbinary p
   | _ =>
    simp only [Level.rank] at hle hloose
    omega

variable (hnames:∀ name, names.isType name = false)
include hnames

lemma Begins.lower_unary (hts:NoTypeAhead ts) (h:Reads names (Grammar.unary r) ts rest Q)
  (hlevel:level.Proper) (hle:level.rank ≤ 14) (hrest:Stops level.follow rest) :
  Begins names r level ts rest Q := by
 by_cases hloose : level.rank ≤ 13
 · exact lower_cast (h.cast_of_unary hnames hts) hlevel hloose hrest
 · cases level with
   | unary => exact h
   | _ =>
    simp only [Level.rank,Level.Proper] at hle hloose hlevel
    omega

lemma Begins.lower_postfixed (hts:StartsPrimary ts) (h:Begins names r .postfixed ts rest Q)
  (hlevel:level.Proper) (hle:level.rank ≤ 15) (hrest:Stops level.follow rest) :
  Begins names r level ts rest Q := by
 by_cases hloose : level.rank ≤ 14
 · have hunary:Stops .unary rest:=hrest.follow_mono .unary hlevel hloose
   have hpostfixed:=h.close (hunary.mono (by decide))
   exact lower_unary hnames hts.noTypeAhead (hpostfixed.unary_of_postfixed hts) hlevel hloose hrest
 · cases level with
   | postfixed => exact h
   | _ =>
    simp only [Level.rank,Level.Proper] at hle hloose hlevel
    omega

lemma Begins.lower_primary (hts:StartsPrimary ts)
  (h:Reads names (Grammar.primary r) ts rest Q) (hlevel:level.Proper)
  (hrest:Stops level.follow rest) : Begins names r level ts rest Q := by
 have hpostfixed:Begins names r .postfixed ts rest Q:=Opens.of_start h
 cases level with
 | primary => exact h
 | binary p =>
  have hle:p + 2 ≤ 15 := by
   have:=hlevel.2
   omega
  exact lower_postfixed hnames hts hpostfixed hlevel hle hrest
 | _ => exact lower_postfixed hnames hts hpostfixed hlevel (by decide) hrest

lemma Expr.Printable.lower (he:e.Printable) (hlevel:level.Proper)
  (hle:level.rank ≤ e.level.rank) (hrest:Stops level.follow rest)
  (h:Begins names r e.level e.print rest Q) : Begins names r level e.print rest Q := by
 -- What the tokens begin with depends on the level, so it is noted before the level is
 -- split into its cases.
 have hunary:=he.noTypeAhead
 have hprimary:=he.startsPrimary
 have hbinary (p:Nat) (h:e.level = .binary p):=Expr.level_binary h
 generalize e.level = own at h hle hunary hprimary hbinary
 cases own with
 | comma =>
  obtain rfl : level = .comma := by
   cases level <;> simp [Level.rank] at hle ⊢
  exact h
 | assignment => exact Begins.lower_assignment h hle
 | conditional => exact Begins.lower_conditional h hlevel hle hrest
 | binary p => exact Begins.lower_binary (hbinary p rfl) h hlevel hle hrest
 | cast => exact Begins.lower_cast h hlevel hle hrest
 | unary => exact Begins.lower_unary hnames (hunary (by decide)) h hlevel hle hrest
 | postfixed => exact Begins.lower_postfixed hnames (hprimary (by decide)) h hlevel hle hrest
 | primary => exact Begins.lower_primary hnames (hprimary (by decide)) h hlevel hrest

end Lower

end CCheck
