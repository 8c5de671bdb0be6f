import TextCursor.Offset
import TextCursor.Text.Quoted

/-!
Half-open spans of byte offsets. A span is a plain value: it refers to no source, and its bounds may
be in either order. A reversed span contains nothing and has length zero.
-/
namespace TextCursor

/-- The offsets from start on, up to but not including stop. -/
structure Span where
  start : Offset
  stop : Offset
  deriving DecidableEq, Repr

namespace Span

def zero : Span := ⟨0, 0⟩

/-- Whether the bounds coincide. A reversed span is not empty in this sense. -/
def isEmpty (s : Span) : Bool := s.start == s.stop

/-- The number of offsets inside, zero for a reversed span. -/
def length (s : Span) : Offset := s.stop.subClamped s.start

instance : Membership Offset Span where
  mem s n := s.start ≤ n ∧ n < s.stop

instance (n : Offset) (s : Span) : Decidable (n ∈ s) :=
  inferInstanceAs (Decidable (s.start ≤ n ∧ n < s.stop))

theorem mem_iff {n : Offset} {s : Span} : n ∈ s ↔ s.start ≤ n ∧ n < s.stop := Iff.rfl

/-- The least span whose bounds enclose the bounds of both. -/
def expand (s t : Span) : Span := ⟨min s.start t.start, max s.stop t.stop⟩

def text (s : Span) : String := s!"[{s.start.toNat}, {s.stop.toNat})"

def inspect (s : Span) : String :=
  Text.record "Range" [("start", toString s.start.toNat), ("end", toString s.stop.toNat)]

end Span

end TextCursor
