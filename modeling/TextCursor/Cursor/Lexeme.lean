import TextCursor.Mark
import TextCursor.Scan

/-!
Scans from the position of a cursor, and the text they cover. Looking ahead is a scan through a mark
that is released before the text is read.
-/
namespace TextCursor

structure Lexeme (τ : Type) where
  text : Except AccessError String
  scan : Scan τ
  cursor : Cursor

namespace Cursor
variable {τ : Type} [ByteTest τ]

def advanceWhile (c : Cursor) (test : τ) : Scan τ × Cursor :=
  let scan := Scan.along test c.unread
  (scan, c.advanceBy (UInt64.ofNat scan.accepted.length))

/-- Moves past the longest run of accepted bytes and reads their text. The cursor has moved also when
the text is refused, because it would split a character. -/
def nextWhile (c : Cursor) (test : τ) : Traced (Lexeme τ) := do
  let (scan, moved) := c.advanceWhile test
  return ⟨← moved.substring ⟨c.position, moved.position⟩, scan, moved⟩

/-- The text of the longest run of accepted bytes. The cursor ends where it was. -/
def peekWhile (c : Cursor) (test : τ) : Traced (Lexeme τ) := do
  let (scan, moved) := c.advanceWhile test
  let (_, mark, back) ← c.mark.release moved
  return ⟨← mark.text back, scan, back⟩

end Cursor

end TextCursor
