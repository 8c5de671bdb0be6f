import TextCursor.Cursor.Access

/-!
A mark remembers where its cursor was. It can move the cursor back there, and it can freeze the span
read since: by committing, which keeps the position, or by releasing, which also goes back. The first
of these decides for good.
-/
namespace TextCursor

structure Mark where
  /-- The position of the cursor when the mark was set. -/
  anchor : Offset
  /-- The end of the span, once it is frozen. -/
  stop? : Option Offset := none
  deriving DecidableEq, Repr

def Cursor.mark (c : Cursor) : Mark := { anchor := c.position }

namespace Mark

def isResolved (m : Mark) : Bool := m.stop?.isSome

/-- From the anchor to the frozen end, or to the position of the cursor while nothing is frozen. -/
def span (m : Mark) (c : Cursor) : Span := ⟨m.anchor, m.stop?.getD c.position⟩

def text (m : Mark) (c : Cursor) : Traced (Except AccessError String) := c.substring (m.span c)

/-- Moves the cursor back to the anchor and gives the position before. -/
def revert (m : Mark) (c : Cursor) : Traced (Offset × Cursor) := do
  .emit (.reverted c.position m.anchor)
  return (c.position, { c with position := m.anchor })

/-- Freezes the span at the position of the cursor, unless it is frozen already. -/
def commit (m : Mark) (c : Cursor) : Traced (Span × Mark) := do
  if m.isResolved then
    return (m.span c, m)
  else
    let frozen := { m with stop? := some c.position }
    .emit (.committed (frozen.span c))
    return (frozen.span c, frozen)

/-- Freezes the span at the position of the cursor and moves the cursor back to the anchor, unless the
span is frozen already. -/
def release (m : Mark) (c : Cursor) : Traced (Span × Mark × Cursor) := do
  if m.isResolved then
    return (m.span c, m, c)
  else
    let (undone, back) ← m.revert c
    let frozen := { m with stop? := some undone }
    .emit (.released (frozen.span back))
    return (frozen.span back, frozen, back)

def inspect (m : Mark) (c : Cursor) : String :=
  Text.record "Mark" [("cursor", c.inspect), ("anchor", toString m.anchor.toNat),
    ("end", match m.stop? with
      | some stop => s!"Some({stop.toNat})"
      | none => "None")]

end Mark

end TextCursor
