import TextCursor.Span

/-!
Why an access to a source was refused, with the offsets that were asked for. A span from signed bounds
is refused where the caller's arithmetic has made one of them negative.
-/
namespace TextCursor

inductive Bound where
  | start
  | stop
  deriving DecidableEq, Repr

def Bound.name : Bound → String
  | .start => "start"
  | .stop => "end"

inductive AccessError where
  /-- No byte can be read at the offset, or no position set there. -/
  | outside (offset : Displacement) (length : Offset)
  | negative (bound : Bound) (value : Displacement)
  /-- The span is reversed or runs past the end of the source. -/
  | badSpan (asked : Span) (length : Offset)
  | splitCharacter (offset : Offset)
  deriving DecidableEq, Repr

namespace AccessError

/-- The offset that caused the refusal. Of a refused span it is the start, unless only the stop is
at fault. -/
def offset : AccessError → Displacement
  | outside offset _ => offset
  | negative _ value => value
  | badSpan asked length =>
    if length < asked.start ∨ asked.stop < asked.start then asked.start.wrapped else asked.stop.wrapped
  | splitCharacter offset => offset.wrapped

def message : AccessError → String
  | outside offset length =>
    s!"Offset {offset.toInt} is out of bounds for length {length.toNat}"
  | negative bound value =>
    s!"Range {bound.name} cannot be less than zero: {value.toInt}"
  | badSpan asked length =>
    s!"Span {asked.text} is out of bounds for length {length.toNat}"
  | splitCharacter offset =>
    s!"Offset {offset.toNat} does not fall on a character boundary"

def inspect : AccessError → String
  | outside offset length =>
    Text.record "Index" [("offset", toString offset.toInt), ("length", toString length.toNat)]
  | negative bound value =>
    Text.record "Negative" [("bound", Text.quoted bound.name), ("value", toString value.toInt)]
  | badSpan asked length =>
    Text.record "Span" [("start", toString asked.start.toNat), ("end", toString asked.stop.toNat),
      ("length", toString length.toNat)]
  | splitCharacter offset =>
    Text.record "CharBoundary" [("offset", toString offset.toNat)]

end AccessError

def Bound.check (bound : Bound) (value : Displacement) : Except AccessError Offset :=
  match value.toOffset? with
  | some offset => .ok offset
  | none => .error (.negative bound value)

/-- The span with the given bounds. The start is checked before the stop; their order is not. -/
def Span.between (start stop : Displacement) : Except AccessError Span := do
  let first ← Bound.start.check start
  let last ← Bound.stop.check stop
  return ⟨first, last⟩

theorem Span.between_eq (start stop : Displacement) : Span.between start stop =
    if 0 ≤ start.toInt then
      if 0 ≤ stop.toInt then .ok ⟨start.toUInt64, stop.toUInt64⟩ else .error (.negative .stop stop)
    else .error (.negative .start start) := by
  unfold between Bound.check Displacement.toOffset?
  by_cases hstart : 0 ≤ start.toInt
  · by_cases hstop : 0 ≤ stop.toInt
    · simp only [if_pos hstart, if_pos hstop]
      rfl
    · simp only [if_pos hstart, if_neg hstop]
      rfl
  · simp only [if_neg hstart]
    rfl

end TextCursor
