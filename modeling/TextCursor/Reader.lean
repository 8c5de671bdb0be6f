import TextCursor.Cursor.Op

/-!
A reader is a cursor with the marks that are open on it. Marks nest: a step on marks always means the
innermost one, and dropping it uncovers the next.
-/
namespace TextCursor

namespace Mark

inductive Op where
  | anchor
  | isResolved
  | revert
  | commit
  | release
  | span
  | text
  | inspect
  deriving DecidableEq, Repr

def Op.run : Op → Mark → Cursor → Traced (Except AccessError Answer × Mark × Cursor)
  | anchor, m, c => return (.ok (.offset m.anchor), m, c)
  | isResolved, m, c => return (.ok (.flag m.isResolved), m, c)
  | revert, m, c => do
    let (undone, back) ← m.revert c
    return (.ok (.offset undone), m, back)
  | commit, m, c => do
    let (s, m) ← m.commit c
    return (.ok (.span s), m, c)
  | release, m, c => do
    let (s, m, c) ← m.release c
    return (.ok (.span s), m, c)
  | span, m, c => return (.ok (.span (m.span c)), m, c)
  | text, m, c => return ((← m.text c).map .text, m, c)
  | inspect, m, c => return (.ok (.text (m.inspect c)), m, c)

end Mark

structure Reader where
  cursor : Cursor
  /-- The open marks, innermost first. -/
  marks : List Mark := []
  deriving DecidableEq

namespace Reader

inductive Op (τ : Type) where
  | onCursor (op : Cursor.Op τ)
  | mark
  /-- Closes the innermost mark and moves nothing. -/
  | drop
  | onMark (op : Mark.Op)
  deriving DecidableEq

variable {τ : Type} [ByteTest τ]

/-- One step, or none if it needs a mark and no mark is open. -/
def step : Reader → Op τ → Option (Traced (Reply τ × Reader))
  | ⟨c, marks⟩, .onCursor op => some do
    let (reply, c) ← op.run c
    return (reply, ⟨c, marks⟩)
  | ⟨c, marks⟩, .mark => some (return (.ok (.offset c.mark.anchor), ⟨c, c.mark :: marks⟩))
  | ⟨c, _ :: marks⟩, .drop => some (return (.ok .nothing, ⟨c, marks⟩))
  | ⟨c, m :: marks⟩, .onMark op => some do
    let (result, m, c) ← op.run m c
    return ({ result }, ⟨c, m :: marks⟩)
  | ⟨_, []⟩, .drop | ⟨_, []⟩, .onMark _ => none

def run (r : Reader) : List (Op τ) → Option (Traced (List (Reply τ) × Reader))
  | [] => some (return ([], r))
  | op :: ops => do
    let first ← r.step op
    let rest ← run first.value.2 ops
    return ⟨(first.value.1 :: rest.value.1, rest.value.2), first.events ++ rest.events⟩

end Reader

end TextCursor
