import CCheck.Lexeme

/-! # Scanning a source text

A cursor is a place in the text. `Cursor.scan` takes the next token from it, and a
scanner hands out the tokens one by one, the end of the text or the first fault again
and again once it is reached. -/

set_option autoImplicit false

namespace CCheck

structure Cursor where
 rest : List Char
 offset : Nat
 line : UInt32
 column : UInt32
 fresh : Bool
deriving DecidableEq, Repr

namespace Cursor

def start (source:String) : Cursor := ⟨source.toList,0,1,1,true⟩

def step (c:Cursor) : Cursor :=
 match c.rest with
 | [] => c
 | ch :: cs =>
  if ch = '\n' then ⟨cs,c.offset + 1,c.line + 1,1,true⟩
  else ⟨cs,c.offset + 1,c.line,c.column + 1,c.fresh⟩

def advance : Nat → Cursor → Cursor
 | 0, c => c
 | n + 1, c => advance n c.step

def spanOf (c:Cursor) (n:Nat) : Span := ⟨c.offset,c.offset + n,c.line,c.column⟩

@[simp] theorem step_rest (c:Cursor) : c.step.rest = c.rest.drop 1 := by
 unfold step
 split
 · simp_all
 · split <;> simp_all

@[simp] theorem advance_rest (n:Nat) (c:Cursor) : (advance n c).rest = c.rest.drop n := by
 induction n generalizing c with
 | zero => simp [advance]
 | succ n ih => simp [advance,ih]

def skipGaps (c:Cursor) : Except Fault Cursor :=
 match h : Lexeme.gap c.fresh c.rest with
 | .absent => .ok c
 | .unclosed => .error ⟨.unterminatedComment,c.spanOf c.rest.length⟩
 | .item extra => skipGaps (advance (extra + 1) c)
termination_by c.rest.length
decreasing_by
 have hne : c.rest ≠ [] := by
  intro hnil
  simp [hnil,Lexeme.gap] at h
 have := List.length_pos_iff.mpr hne
 simp
 omega

inductive Scan where
 | finish (span:Span) (cursor:Cursor)
 | token (token:Token) (cursor:Cursor)
 | fault (fault:Fault)

def take (c:Cursor) (ch:Char) (cs:List Char) : Scan :=
 match Lexeme.lexeme ch cs with
 | .ok (kind,n) =>
  .token ⟨kind,String.ofList ((ch :: cs).take (n - 1 + 1)),c.spanOf (n - 1 + 1)⟩
   (advance (n - 1 + 1) { c with fresh := false })
 | .error (cause,n) => .fault ⟨cause,c.spanOf n⟩

def scan (c:Cursor) : Scan :=
 match c.skipGaps with
 | .error f => .fault f
 | .ok c =>
  match c.rest with
  | [] => .finish (c.spanOf 0) c
  | ch :: cs => c.take ch cs

theorem skipGaps_length_le {c d:Cursor} (h:c.skipGaps = .ok d) :
  d.rest.length ≤ c.rest.length := by
 fun_induction skipGaps c with
 | case1 c _ => simp_all
 | case2 => simp at h
 | case3 c extra _ ih =>
  have := ih h
  simp at this
  omega

theorem take_length_lt {c d:Cursor} {ch:Char} {cs:List Char} {t:Token}
  (hc:c.rest = ch :: cs) (h:c.take ch cs = .token t d) :
  d.rest.length < c.rest.length := by
 unfold take at h
 split at h
 · obtain ⟨rfl,rfl⟩ := Scan.token.inj h
   rw [advance_rest,hc,List.length_drop,List.length_cons]
   omega
 · simp at h

theorem scan_length_lt {c d:Cursor} {t:Token} (h:c.scan = .token t d) :
  d.rest.length < c.rest.length := by
 unfold scan at h
 split at h
 · simp at h
 · rename_i e he
   have hle := skipGaps_length_le he
   split at h
   · simp at h
   · rename_i ch cs hcs
     have := take_length_lt hcs h
     omega

def tokens (c:Cursor) : Except Fault (List Token) :=
 match h : c.scan with
 | .fault f => .error f
 | .finish span _ => .ok [Token.eof span]
 | .token t d =>
  have : d.rest.length < c.rest.length := scan_length_lt h
  (tokens d).map (t :: ·)
termination_by c.rest.length

def listing (c:Cursor) : List Token × Option Fault :=
 match h : c.scan with
 | .fault f => ([],some f)
 | .finish _ _ => ([],none)
 | .token t d =>
  have : d.rest.length < c.rest.length := scan_length_lt h
  let (ts,f) := listing d
  (t :: ts,f)
termination_by c.rest.length

end Cursor

def tokenize (source:String) : Except Fault (List Token) := (Cursor.start source).tokens

structure Scanner where
 cursor : Cursor
 failure : Option Fault
deriving DecidableEq, Repr

namespace Scanner

def start (source:String) : Scanner := ⟨Cursor.start source,none⟩

def faultToken (f:Fault) : Token := ⟨.error,f.message,f.span⟩

def next (s:Scanner) : Token × Scanner :=
 match s.failure with
 | some f => (faultToken f,s)
 | none =>
  match s.cursor.scan with
  | .fault f => (faultToken f,{ s with failure := some f })
  | .finish span c => (Token.eof span,{ s with cursor := c })
  | .token t c => (t,{ s with cursor := c })

def isFinished (s:Scanner) : Bool := s.cursor.rest.isEmpty || s.failure.isSome

end Scanner

end CCheck
