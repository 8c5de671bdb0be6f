import TextCursor.Cursor.Lexeme

/-! The operations on a cursor as data, so that whole runs of them can be spoken about. -/
namespace TextCursor

inductive Answer where
  | nothing
  | flag (b : Bool)
  | byte (b : UInt8)
  | taken (t : Cursor.Taken)
  | offset (n : Offset)
  | text (s : String)
  | span (s : Span)
  deriving DecidableEq, Repr

structure Reply (τ : Type) where
  result : Except AccessError Answer
  scan : Option (Scan τ) := none

namespace Reply
variable {τ : Type}

def ok (a : Answer) : Reply τ := { result := .ok a }

def ofExcept {α : Type} (wrap : α → Answer) (result : Except AccessError α) : Reply τ :=
  { result := result.map wrap }

def ofLexeme (l : Lexeme τ) : Reply τ := { result := l.text.map .text, scan := some l.scan }

end Reply

namespace Cursor

inductive Op (τ : Type) where
  | length
  | isEmpty
  | remaining
  | position
  | isReadable
  | isReadableBy (n : Offset)
  | peek
  | peekAt (k : Displacement)
  | substring (s : Span)
  | text
  | inspect
  | advance
  | advanceBy (n : Offset)
  | advanceWhile (test : τ)
  | next
  | take (n : Nat)
  | nextWhile (test : τ)
  | peekWhile (test : τ)
  | setPosition (n : Offset)
  | setStrict (strict : Bool)
  /-- Overwrites source, position and strictness. -/
  | assign (other : Cursor)
  | equals (other : Cursor)
  | full
  | consumed
  | unconsumed
  | between (start stop : Displacement)
  | expand (s t : Span)
  deriving DecidableEq

variable {τ : Type} [ByteTest τ]

def Op.run : Op τ → Cursor → Traced (Reply τ × Cursor)
  | length, c => return (.ok (.offset c.length), c)
  | isEmpty, c => return (.ok (.flag c.isEmpty), c)
  | remaining, c => return (.ok (.offset c.remaining), c)
  | position, c => return (.ok (.offset c.position), c)
  | isReadable, c => return (.ok (.flag c.isReadable), c)
  | isReadableBy n, c => return (.ok (.flag (c.isReadableBy n)), c)
  | peek, c => return (.ofExcept .byte (← c.peek), c)
  | peekAt k, c => return (.ofExcept .byte (← c.peekAt k), c)
  | substring s, c => return (.ofExcept .text (← c.substring s), c)
  | text, c => return (.ok (.text c.source.text), c)
  | inspect, c => return (.ok (.text c.inspect), c)
  | advance, c => return (.ok .nothing, c.advance)
  | advanceBy n, c => return (.ok .nothing, c.advanceBy n)
  | advanceWhile test, c =>
    let (scan, moved) := c.advanceWhile test
    return ({ result := .ok .nothing, scan := some scan }, moved)
  | next, c => do
    let (result, moved) ← c.next
    return (.ofExcept .byte result, moved)
  | take n, c => do
    let (t, moved) ← c.take n
    return (.ok (.taken t), moved)
  | nextWhile test, c => do
    let l ← c.nextWhile test
    return (.ofLexeme l, l.cursor)
  | peekWhile test, c => do
    let l ← c.peekWhile test
    return (.ofLexeme l, l.cursor)
  | setPosition n, c => do
    let (result, moved) ← c.setPosition n
    return (.ofExcept .offset result, moved)
  | setStrict strict, c => return (.ok .nothing, { c with strict })
  | assign other, _ => return (.ok .nothing, other)
  | equals other, c => return (.ok (.flag (c == other)), c)
  | full, c => return (.ok (.span c.full), c)
  | consumed, c => return (.ok (.span c.consumed), c)
  | unconsumed, c => return (.ofExcept .span c.unconsumed, c)
  | between start stop, c => return (.ofExcept .span (Span.between start stop), c)
  | expand s t, c => return (.ok (.span (s.expand t)), c)

end Cursor

end TextCursor
