import TextCursor.Source
import TextCursor.AccessError

/-!
A cursor walks a source one byte at a time. Its position may lie anywhere, also past the end or
inside a character; only reads are checked against the source.
-/
namespace TextCursor

structure Cursor where
  source : Source
  position : Offset := 0
  /-- Strict cursors refuse to be set past the end. -/
  strict : Bool := true
  deriving DecidableEq

namespace Cursor

def length (c : Cursor) : Offset := c.source.length

def isEmpty (c : Cursor) : Bool := c.source.length == 0

/-- The bytes left to read, none once the position has run past the end. -/
def remaining (c : Cursor) : Offset := c.length.subClamped c.position

def isReadableBy (c : Cursor) (n : Offset) : Bool :=
  match c.position.add? n with
  | some stop => stop ≤ c.length
  | none => false

def isReadable (c : Cursor) : Bool := c.isReadableBy 1

def unread (c : Cursor) : List UInt8 := c.source.bytes.drop c.position.toNat

/-- Steps forward by n bytes, unchecked against the source. The greatest word is never passed. -/
def advanceBy (c : Cursor) (n : Offset) : Cursor :=
  { c with position := c.position.addClamped n }

def advance (c : Cursor) : Cursor := c.advanceBy 1

def full (c : Cursor) : Span := ⟨0, c.length⟩

def consumed (c : Cursor) : Span := ⟨0, c.position⟩

/-- The tail of the source from the count of bytes left on: the start is that count, not the position.
Past the end the count is negative and the span is refused. -/
def unconsumed (c : Cursor) : Except AccessError Span :=
  let stop := c.length.toDisplacementClamped
  Span.between (stop - c.position.toDisplacementClamped) stop

def inspect (c : Cursor) : String :=
  Text.record "Cursor" [("source", Text.quoted c.source.text),
    ("position", toString c.position.toNat), ("strict", toString c.strict)]

/-! ### Exact values -/

theorem toNat_remaining (c : Cursor) : c.remaining.toNat = c.length.toNat - c.position.toNat :=
  Offset.toNat_subClamped ..

theorem length_unread (c : Cursor) : c.unread.length = c.length.toNat - c.position.toNat := by
  rw [unread, List.length_drop, length, Source.toNat_length]

theorem isReadableBy_iff {c : Cursor} {n : Offset} :
    c.isReadableBy n ↔ c.position.toNat + n.toNat ≤ c.length.toNat := by
  rw [isReadableBy]
  cases hstop : c.position.add? n with
  | some stop =>
    rw [Offset.add?_eq_some_iff] at hstop
    rw [decide_eq_true_eq, UInt64.le_iff_toNat_le, hstop]
  | none =>
    rw [Offset.add?_eq_none_iff] at hstop
    have hlength := c.length.toNat_lt
    refine iff_of_false nofun ?_
    omega

end Cursor

end TextCursor
