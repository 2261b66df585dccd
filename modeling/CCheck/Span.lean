/-! # Source positions

A span is a range of source characters together with the line and column of its
first one. Offsets count characters, not bytes, and lines and columns start at one;
the span with four zeros stands for no place at all. -/

set_option autoImplicit false

namespace CCheck

structure Span where
 start : Nat
 stop : Nat
 line : UInt32
 column : UInt32
deriving DecidableEq, Repr

namespace Span

def nowhere : Span := ⟨0,0,0,0⟩

instance : Inhabited Span := ⟨nowhere⟩

/-- The least range that holds both, placed at the line and column of the earlier one. -/
def merge (a b:Span) : Span :=
 if b.start < a.start then ⟨b.start,max a.stop b.stop,b.line,b.column⟩
 else ⟨a.start,max a.stop b.stop,a.line,a.column⟩

def length (s:Span) : Nat := s.stop - s.start

def isEmpty (s:Span) : Bool := s.start == s.stop

def text (s:Span) : String := s!"{s.line}:{s.column}"

theorem merge_start (a b:Span) : (a.merge b).start = min a.start b.start := by
 unfold merge
 split <;> simp only <;> omega

theorem merge_stop (a b:Span) : (a.merge b).stop = max a.stop b.stop := by
 unfold merge
 split <;> rfl

end Span

end CCheck
