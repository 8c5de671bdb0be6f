import TextCursor.Cursor.Basic
import TextCursor.Traced

/-! Checked access through a cursor: single bytes, slices of the source, and positions. -/
namespace TextCursor.Cursor

def refuse (c : Cursor) (offset : Displacement) : Traced AccessError := do
  .emit (.outside offset c.length)
  return .outside offset c.length

def peekAt (c : Cursor) (k : Displacement) : Traced (Except AccessError UInt8) := do
  match (c.position.shift? k).bind c.source.byte? with
  | some b => return .ok b
  | none => return .error (← c.refuse (c.position.target k))

def peek (c : Cursor) : Traced (Except AccessError UInt8) := c.peekAt 0

/-- The text of a span. A span that is reversed or too long is refused before its bounds are tried as
character boundaries, the start before the stop. -/
def substring (c : Cursor) (s : Span) : Traced (Except AccessError String) := do
  if s.stop < s.start ∨ c.length < s.stop then
    .emit (.rejectedSpan s c.length)
    return .error (.badSpan s c.length)
  else
    match c.source.slice? s.start s.stop with
    | some text => return .ok text
    | none =>
      return .error (.splitCharacter (if c.source.IsBoundary s.start then s.stop else s.start))

/-- The byte under the cursor, which then moves past it. At the end nothing moves. -/
def next (c : Cursor) : Traced (Except AccessError UInt8 × Cursor) := do
  match ← c.peek with
  | .ok b => return (.ok b, c.advance)
  | .error e => return (.error e, c)

structure Taken where
  bytes : List UInt8
  failure : Option AccessError
  deriving DecidableEq, Repr

/-- Reads up to n bytes and stops at the first failure. -/
def take (c : Cursor) : Nat → Traced (Taken × Cursor)
  | 0 => return (⟨[], none⟩, c)
  | n + 1 => do
    match ← c.next with
    | (.ok b, c) =>
      let (t, c) ← c.take n
      return ({ t with bytes := b :: t.bytes }, c)
    | (.error e, c) => return (⟨[], some e⟩, c)

/-- Moves to the offset and gives the position before. A strict cursor refuses offsets past the end. -/
def setPosition (c : Cursor) (n : Offset) : Traced (Except AccessError Offset × Cursor) := do
  if c.strict ∧ c.length < n then
    return (.error (← c.refuse n.wrapped), c)
  else
    return (.ok c.position, { c with position := n })

end TextCursor.Cursor
