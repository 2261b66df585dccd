import CCheck.Proofs.Checking.ProgramAccounts
import CCheck.Proofs.Lexing.Tiling
import CCheck.Proofs.Parsing.Inventory
import CCheck.Proofs.Scoping.AllSymbols

/-! # Calls of library functions

Every call that an analysis records stands in the program and names a function of the library. It is
recorded once, unless it stands in an expression that is both checked and evaluated. -/

set_option autoImplicit false

namespace CCheck

open Check

variable {c':Checker} {entries:List (SpecifierKey × Nat)} {key:SpecifierKey} {ms':List Mark}
 {s:Span} {ts:List Token}

lemma Cursor.tokens_ascending {src:List Char} {c:Cursor} (hc:c.At src)
  (h:c.tokens = .ok ts) :
  (∀ t ∈ ts, c.offset ≤ t.span.start) ∧ ts.Pairwise fun t u => t.span.start < u.span.start := by
 -- The induction is on the text that is left, and `At` keeps the cursor in its place there.
 fun_induction tokens c generalizing ts with
 | case1 => cases h
 | case2 c span d hscan =>
  obtain rfl:=Except.ok.inj h
  refine ⟨List.forall_mem_singleton.mpr ?_,List.pairwise_singleton _ _⟩
  obtain ⟨hskip,-,rfl⟩:=scan_finish hc hscan
  exact hskip.le
 | case3 c t d hscan _ ih =>
  obtain ⟨e,n,hskip,hpos,hle,-,-,-,hspan,rfl⟩:=scan_token hc hscan
  cases htail : (advance n { e with fresh := false }).tokens with
  | error f =>
   rw [htail] at h
   cases h
  | ok us =>
   rw [htail] at h
   obtain rfl:=Except.ok.inj h
   obtain ⟨hfrom,hascending⟩:=ih ((hskip.at_end.setFresh false).advance n) htail
   have hstart:t.span.start = e.offset := by
    rw [hspan]
    rfl
   have hoffset:(advance n { e with fresh := false }).offset = e.offset + n:=
    advance_offset hle
   have hskipped:=hskip.le
   refine ⟨List.forall_mem_cons.mpr ⟨by omega,fun u hu => ?_⟩,
    List.pairwise_cons.mpr ⟨fun u hu => ?_,hascending⟩⟩
   · have:=hfrom u hu
     omega
   · have:=hfrom u hu
     omega

lemma countP_start_le_one {source:String} (h:tokenize source = .ok ts)
  (p:Nat) : ts.countP (·.span.start == p) ≤ 1 := by
 obtain ⟨-,hascending⟩:=Cursor.tokens_ascending (Cursor.start_at source) h
 clear h
 induction hascending with
 | nil => exact Nat.zero_le 1
 | @cons t ts ht _ ih =>
  rw [List.countP_cons]
  split
  · rename_i hp
    have hnone:ts.countP (·.span.start == p) = 0 := by
     rw [List.countP_eq_zero]
     intro u hu
     have:=ht u hu
     rw [beq_iff_eq] at hp ⊢
     omega
    omega
  · exact ih

namespace Mark

def isCall (s:Span) : Mark → Bool
 | .call _ span => span == s
 | .value _ | .definition .. | .again _ | .object _ | .typedef _ => false

def isValue : Mark → Bool
 | .value _ => true
 | .call .. | .definition .. | .again _ | .object _ | .typedef _ => false

lemma eq_call_of_isCall {m:Mark} (h:m.isCall s = true) : ∃ i, m = .call i s := by
 cases m with
 | call i span => exact ⟨i,beq_iff_eq.mp h ▸ rfl⟩
 | _ => cases h

def revisits (s:Span) : Mark → Bool
 | .again ms => ms.any (isCall s)
 | .value _ | .call .. | .definition .. | .object _ | .typedef _ => false

lemma countP_isCall_le (s:Span) (ms:List Mark) :
  ms.countP (isCall s) ≤ chargeAll s.start ms := by
 induction ms with
 | nil => exact Nat.le_refl _
 | cons m ms ih =>
  rw [List.countP_cons,chargeAll_cons]
  split
  · rename_i hm
    obtain ⟨i,rfl⟩:=eq_call_of_isCall hm
    have hcredit:s.credit s.start = 1:=if_pos (beq_self_eq_true _)
    rw [charge,hcredit]
    omega
  · omega

end Mark

/-! ### Recorded calls -/

def LibraryCall.StandsIn (ms:List Mark) (r:LibraryCall) : Prop :=
 ∃ i f, .call i r.span ∈ ms ∧ LibraryFunction.find? i.name = some f ∧ r = ⟨f.name,f.id,r.span⟩

def Checker.defines (c:Checker) : SpecifierKey → Bool
 | .record start => (c.definedRecords.lookup start).isSome
 | .enum start => c.definedEnums.contains start

structure Ledger where
 marks : List Mark
 span : Span
 entries : List (SpecifierKey × Nat)

namespace Ledger

variable {L:Ledger} {c d:Checker} {ms:List Mark}

def reserve (L:Ledger) (c:Checker) : Nat :=
 Mark.total (L.entries.filter fun e => !c.defines e.1)

def spent (L:Ledger) (c:Checker) : Nat := c.calls.countP (·.span == L.span) + L.reserve c

lemma reserve_start (L:Ledger) (warnUnused:Bool) :
  L.reserve (.start warnUnused) = Mark.total L.entries := by
 have hnone:∀ key, (Checker.start warnUnused).defines key = false:=fun key => by
  cases key <;> rfl
 rw [reserve,List.filter_eq_self.mpr fun e _ => by rw [hnone]; rfl]

structure Single (L:Ledger) : Prop where
 entered : ∀ key body, .definition key body ∈ L.marks →
  ∃ cost, (key,cost) ∈ L.entries ∧ body.countP (Mark.isCall L.span) ≤ cost
 once : ∀ ms, .again ms ∈ L.marks → ms.countP (Mark.isCall L.span) = 0

/-- The marks are of the program. Where a name is called, it is looked up as one that is read. -/
def Admits (L:Ledger) (ms:List Mark) : Prop :=
 ∀ m ∈ Mark.flatAll ms, m.isValue = false → m ∈ L.marks

structure Covers (L:Ledger) (ms:List Mark) (c d:Checker) : Prop where
 stands : ∀ r ∈ d.calls, r ∈ c.calls ∨ r.StandsIn L.marks
 spent : L.Single → L.spent d ≤ L.spent c + ms.countP (Mark.isCall L.span)

structure Same (c d:Checker) : Prop where
 calls : d.calls = c.calls
 definedRecords : d.definedRecords = c.definedRecords
 definedEnums : d.definedEnums = c.definedEnums

lemma Same.spent (h:Same c d) : L.spent d = L.spent c := by
 have hdefines:d.defines = c.defines := by
  funext key
  cases key with
  | record start => rw [Checker.defines,Checker.defines,h.definedRecords]
  | enum start => rw [Checker.defines,Checker.defines,h.definedEnums]
 rw [Ledger.spent,Ledger.spent,reserve,reserve,hdefines,h.calls]

lemma same_leaveScope (c:Checker) : Same c c.leaveScope :=
 leaveScope_keeps (P := Same c) (fun _ _ _ h => ⟨h.calls,h.definedRecords,h.definedEnums⟩)
  (fun _ _ h => ⟨h.calls,h.definedRecords,h.definedEnums⟩)
  (fun _ _ h => ⟨h.calls,h.definedRecords,h.definedEnums⟩) ⟨rfl,rfl,rfl⟩

lemma same_leaveFunction (c:Checker) (t:CType) : Same c (c.leaveFunction t) :=
 leaveFunction_keeps (P := Same c) (fun _ _ _ h => ⟨h.calls,h.definedRecords,h.definedEnums⟩)
  (fun _ h => ⟨h.calls,h.definedRecords,h.definedEnums⟩)
  (fun _ _ h => ⟨h.calls,h.definedRecords,h.definedEnums⟩) t ⟨rfl,rfl,rfl⟩

namespace Covers

lemma same (h:Same c d) : L.Covers ms c d where
 stands _ hr := .inl (h.calls ▸ hr)
 spent _ := h.spent ▸ Nat.le_add_right _ _

lemma trans {e:Checker} (h:L.Covers ms c d) (h':L.Covers ms' d e) :
  L.Covers (ms ++ ms') c e where
 stands r hr := (h'.stands r hr).elim (h.stands r) .inr
 spent hsingle := by
  have hfirst:=h.spent hsingle
  have hsecond:=h'.spent hsingle
  rw [List.countP_append]
  omega

lemma mono (h:L.Covers ms c d) (hms:ms.Sublist ms') :
  L.Covers ms' c d where
 stands := h.stands
 spent hsingle := Nat.le_trans (h.spent hsingle) (Nat.add_le_add_left hms.countP_le _)

lemma around {d':Checker} (h:L.Covers ms c' d') (hc:Same c c') (hd:Same d' d) :
  L.Covers ms c d := by
 have hfirst:L.Covers [] c c':=.same hc
 have hlast:L.Covers [] d' d:=.same hd
 have hall:=(hfirst.trans h).trans hlast
 rwa [List.nil_append,List.append_nil] at hall

lemma again (h:L.Covers ms c d) (hms:.again ms ∈ L.marks) : L.Covers [.again ms] c d where
 stands := h.stands
 spent hsingle := by
  have hspent:=h.spent hsingle
  rw [hsingle.once ms hms] at hspent
  exact hspent

lemma call {i:Ident} {f:LibraryFunction} {span:Span}
  (hf:LibraryFunction.find? i.name = some f) (hi:.call i span ∈ L.marks) :
  L.Covers [.call i span] c { c with calls := c.calls ++ [⟨f.name,f.id,span⟩] } where
 stands r hr := by
  rcases List.mem_append.mp hr with hr | hr
  · exact .inl hr
  · cases List.mem_singleton.mp hr
    exact .inr ⟨i,f,hi,hf,rfl⟩
 spent _ := by
  have hcalls:({ c with calls := c.calls ++ [⟨f.name,f.id,span⟩] } : Checker).calls.countP
    (·.span == L.span) = c.calls.countP (·.span == L.span) +
     [Mark.call i span].countP (Mark.isCall L.span) := by
   rw [List.countP_append]
   rfl
  have hreserve:L.reserve { c with calls := c.calls ++ [⟨f.name,f.id,span⟩] } =
   L.reserve c := rfl
  rw [Ledger.spent,Ledger.spent,hcalls,hreserve]
  omega

end Covers

lemma total_filter_add_le {q r:SpecifierKey → Bool}
  (hqr:∀ k, q k = true → r k = true) {cost:Nat}
  (hentry:(key,cost) ∈ entries) (hr:r key = true) (hq:q key = false) :
  Mark.total (entries.filter fun e => q e.1) + cost ≤
   Mark.total (entries.filter fun e => r e.1) := by
 have hmono:∀ es : List (SpecifierKey × Nat), Mark.total (es.filter fun e => q e.1) ≤
   Mark.total (es.filter fun e => r e.1) := by
  intro es
  induction es with
  | nil => exact Nat.le_refl _
  | cons e es ih =>
   have:=hqr e.1
   grind [Mark.total]
 induction entries with
 | nil => cases hentry
 | cons e es ih =>
  rcases List.mem_cons.mp hentry with rfl | hentry
  · have:=hmono es
    simp only [List.filter_cons,hr,hq,if_true,Bool.false_eq_true,if_false,Mark.total]
    omega
  · have:=ih hentry
    have:=hqr e.1
    grind [Mark.total]

lemma Covers.define (h:L.Covers ms c' d)
  (hms:.definition key ms ∈ L.marks) (hcalls:c'.calls = c.calls)
  (hkey:c.defines key = false) (hnew:c'.defines key = true)
  (hold:∀ k, c.defines k = true → c'.defines k = true) :
  L.Covers [.definition key ms] c d where
 stands r hr := hcalls ▸ h.stands r hr
 spent hsingle := by
  obtain ⟨cost,hentry,hcost⟩:=hsingle.entered key ms hms
  -- What the body may record was in the reserve before its specifier was met.
  have hreserve:L.reserve c' + cost ≤ L.reserve c := by
   refine total_filter_add_le (q := fun k => !c'.defines k) (r := fun k => !c.defines k)
    (fun k hk => ?_) hentry (by rw [hkey]; rfl) (by rw [hnew]; rfl)
   cases hck : c.defines k with
   | false => rfl
   | true =>
    rw [hold k hck] at hk
    cases hk
  have hbody:=h.spent hsingle
  rw [Ledger.spent,Ledger.spent,hcalls] at hbody
  rw [Ledger.spent,Ledger.spent]
  omega

end Ledger

def Ledger.account (L:Ledger) : Account where
 rel ms c _ d := L.Admits ms → L.Covers ms c d
 refl c _ := .same ⟨rfl,rfl,rfl⟩
 trans h h' hms := by
  rw [Admits,Mark.flatAll_append] at hms
  obtain ⟨hms,hms'⟩:=List.forall_mem_append.mp hms
  exact (h hms).trans (h' hms')
 mono h hsub hms := (h fun m hm => hms m (Mark.flatAll_subset hsub hm)).mono hsub
 recover h := h
 refuse c _ _ _ := .same ⟨rfl,rfl,rfl⟩
 typeRead _ _ _ := .same ⟨rfl,rfl,rfl⟩
 use c i _ := .same ⟨rfl,rfl,rfl⟩
 callee h span _ := by
  have hvalue:=h (List.forall_mem_singleton.mpr fun h => nomatch h)
  exact ⟨hvalue.stands,fun hsingle => Nat.le_trans (hvalue.spent hsingle) (Nat.le_add_right _ _)⟩
 call _ hf span hms := .call hf (hms _ List.mem_cons_self rfl)
 again h hms := by
  rw [Admits,Mark.flatAll_again] at hms
  obtain ⟨hagain,hms⟩:=List.forall_mem_cons.mp hms
  exact (h hms).again (hagain rfl)
 enumerator _ _ := .same ⟨rfl,rfl,rfl⟩
 tag _ _ := .same ⟨rfl,rfl,rfl⟩
 record _ _ _ _ := .same ⟨rfl,rfl,rfl⟩
 complete _ _ := .same ⟨rfl,rfl,rfl⟩
 defineRecord {c start id ms o d} hnone h hms := by
  rw [Admits,Mark.flatAll_definition] at hms
  obtain ⟨hdefinition,hms⟩:=List.forall_mem_cons.mp hms
  have hkey:c.defines (.record start) = false := by rw [Checker.defines,hnone]; rfl
  refine (h hms).define (hdefinition rfl) rfl hkey ?_ fun k hk => ?_
  · rw [Checker.defines,List.lookup_cons_self]
    rfl
  · cases k with
    | enum start' => exact hk
    | record start' =>
     rw [Checker.defines,List.lookup_cons]
     split
     · rfl
     · exact hk
 defineEnum {c start ms o d} hnone h hms := by
  rw [Admits,Mark.flatAll_definition] at hms
  obtain ⟨hdefinition,hms⟩:=List.forall_mem_cons.mp hms
  refine (h hms).define (hdefinition rfl) rfl hnone ?_ fun k hk => ?_
  · exact List.contains_iff_mem.mpr List.mem_cons_self
  · cases k with
    | enum start' =>
     exact List.contains_iff_mem.mpr (List.mem_cons_of_mem _ (List.contains_iff_mem.mp hk))
    | record start' => exact hk

lemma Ledger.enters (L:Ledger) : L.account.Enters where
 declare _ _ _ := .same ⟨rfl,rfl,rfl⟩
 typedef _ _ := .same ⟨rfl,rfl,rfl⟩
 redeclare _ _ _ _ _ _ := .same ⟨rfl,rfl,rfl⟩
 initialized _ _ _ := .same ⟨rfl,rfl,rfl⟩

def Ledger.program (L:Ledger) : ProgramAccount where
 toAccount := L.account
 declaration := L.enters.checkDeclaration
 heading name t storage := L.enters.declareFunction name t storage true
 param _ _ _ := .same ⟨rfl,rfl,rfl⟩
 jump _ _ _ _ := .same ⟨rfl,rfl,rfl⟩
 adjust h hadjusted hms := by
  cases hadjusted with
  | flow flow switches => exact (h hms).around ⟨rfl,rfl,rfl⟩ ⟨rfl,rfl,rfl⟩
  | function hnotes => exact (h hms).around ⟨rfl,rfl,rfl⟩ ⟨rfl,rfl,rfl⟩
 scope h hms := (h hms).around ⟨rfl,rfl,rfl⟩ (same_leaveScope _)
 report h hms := (h hms).around ⟨rfl,rfl,rfl⟩ ⟨rfl,rfl,rfl⟩
 warn _ _ _ _ := .same ⟨rfl,rfl,rfl⟩
 enterFunction _ _ _ _ := .same ⟨rfl,rfl,rfl⟩
 leaveFunction c t _ := .same (same_leaveFunction c t)

/-! ### Programs -/

namespace ProgramUnit

variable {source:String} {u:ProgramUnit}

def revisits (u:ProgramUnit) (s:Span) : Bool := (Mark.flatAll u.marks).any (·.revisits s)

lemma covers_analyze (u:ProgramUnit) (s:Span) (entries:List (SpecifierKey × Nat))
  (warnUnused:Bool) : Ledger.Covers ⟨Mark.flatAll u.marks,s,entries⟩ u.marks
   (.start warnUnused) ((Checker.start warnUnused).analyze u) :=
 (Ledger.program _).analyze _ u fun _ hm _ => hm

lemma single_of_entered
  (hentered:Mark.Entered s.start entries u.marks) (hrevisits:u.revisits s = false) :
  Ledger.Single ⟨Mark.flatAll u.marks,s,entries⟩ where
 entered key body hm := by
  obtain ⟨cost,hcost,hle⟩:=hentered key body hm
  exact ⟨cost,hcost,Nat.le_trans (Mark.countP_isCall_le s body) hle⟩
 once ms hms := by
  have hmark:=List.any_eq_false.mp hrevisits _ hms
  rw [List.countP_eq_zero]
  exact fun m hm hcall => hmark (List.any_eq_true.mpr ⟨m,hm,hcall⟩)

lemma countP_calls_le_one (hpaid:Mark.Paid s.start 0 u.marks 1)
  (hrevisits:u.revisits s = false) (warnUnused:Bool) :
  ((Checker.start warnUnused).analyze u).calls.countP (·.span == s) ≤ 1 := by
 obtain ⟨entries,hentered,hle⟩:=hpaid
 have hspent:=(u.covers_analyze s entries warnUnused).spent
  (single_of_entered hentered hrevisits)
 have hreserve:Ledger.reserve ⟨Mark.flatAll u.marks,s,entries⟩ (.start warnUnused) =
   Mark.total entries :=
  Ledger.reserve_start _ warnUnused
 have hcalls:=Mark.countP_isCall_le s u.marks
 have hstart:(Checker.start warnUnused).calls.countP (·.span == s) = 0:=rfl
 unfold Ledger.spent at hspent
 dsimp only at hspent
 omega

end ProgramUnit

/-- Every call that is recorded stands in the program, under the name and the number of the library
function. Each is recorded once, unless it is evaluated besides being checked. -/
theorem library_calls_recorded_once {source:String} {u:ProgramUnit}
  (hu:parse source = .ok u) (warnUnused:Bool) :
  (∀ r ∈ ((Checker.start warnUnused).analyze u).calls, ∃ i f,
   .call i r.span ∈ Mark.flatAll u.marks ∧ LibraryFunction.find? i.name = some f ∧
    r.name = i.name ∧ r.id = f.id) ∧
  ∀ s, u.revisits s = false →
   ((Checker.start warnUnused).analyze u).calls.countP (·.span == s) ≤ 1 := by
 constructor
 · intro r hr
   rcases (u.covers_analyze r.span [] warnUnused).stands r hr with h | ⟨i,f,hi,hf,heq⟩
   · cases h
   · have hname:f.name = i.name:=
      beq_iff_eq.mp (List.find?_some (p := fun g : LibraryFunction => g.name == i.name) hf)
     refine ⟨i,f,hi,hf,?_,?_⟩
     · rw [heq]
       exact hname
     · rw [heq]
 · intro s hrevisits
   obtain ⟨ts,hts,hparse⟩:=tokens_of_parse hu
   have hpaid:=(paid_of_parseTokens hparse s.start).paid.mono (countP_start_le_one hts _)
   exact ProgramUnit.countP_calls_le_one hpaid hrevisits warnUnused

/-- The members of a record that two declarators share are resolved once. -/
theorem library_calls_recorded_once_shared :
  ∃ u, parse "void f(void) { struct { int m[sizeof(rand())]; } a, b; a = b; }" = .ok u ∧
   u.revisits ⟨37,43,1,38⟩ = false ∧
   ((Checker.start true).analyze u).calls.map (·.span) = [⟨37,43,1,38⟩] ∧
   ((Checker.start true).analyze u).calls.countP (·.span == ⟨37,43,1,38⟩) ≤ 1 := by
 have h : (parse "void f(void) { struct { int m[sizeof(rand())]; } a, b; a = b; }").toOption.bind
   (fun u => some (u.revisits ⟨37,43,1,38⟩,
    ((Checker.start true).analyze u).calls.map (·.span))) =
   some (false,[⟨37,43,1,38⟩]) := by
  decide +kernel
 obtain ⟨u,hu,hall⟩:=exists_unit h
 obtain ⟨hrevisits,hcalls⟩:=Prod.mk.inj (Option.some.inj hall)
 exact ⟨u,hu,hrevisits,hcalls,(library_calls_recorded_once hu true).2 _ hrevisits⟩

/-- The value of a label is checked and then evaluated, and the call in it is recorded twice. -/
theorem label_call_recorded_twice :
  (check "void f(void) { switch (1) { case sizeof(rand()): ; } }" "" true).analysis.map
   (·.calls.map fun r => (r.name,r.span)) =
    some [("rand",⟨40,46,1,41⟩),("rand",⟨40,46,1,41⟩)] := by
 decide +kernel

end CCheck
