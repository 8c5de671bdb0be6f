import TextCursor.Offset

/-!
The text a cursor reads, seen as bytes. Offsets count the bytes of its UTF-8 form; a slice exists
exactly between two character boundaries.
-/
namespace TextCursor

def utf8 (text : String) : List UInt8 := text.toByteArray.data.toList

theorem length_utf8 (text : String) : (utf8 text).length = text.utf8ByteSize := by
  rw [utf8, Array.length_toList]
  exact String.size_toByteArray

/-- A text whose length in bytes fits in a displacement. -/
structure Source where
  text : String
  size_lt : text.utf8ByteSize < 0x8000000000000000 := by decide
  deriving DecidableEq

namespace Source

def ofString? (text : String) : Option Source :=
  if h : text.utf8ByteSize < 0x8000000000000000 then some ⟨text, h⟩ else none

def bytes (s : Source) : List UInt8 := utf8 s.text

def length (s : Source) : Offset := UInt64.ofNat s.text.utf8ByteSize

def byte? (s : Source) (i : Offset) : Option UInt8 :=
  if h : i.toNat < s.text.utf8ByteSize then some (s.text.getUTF8Byte ⟨i.toNat⟩ h) else none

/-- Offsets where a character starts, and the end of the source. -/
abbrev IsBoundary (s : Source) (i : Offset) : Prop := String.Pos.Raw.IsValid s.text ⟨i.toNat⟩

def slice? (s : Source) (start stop : Offset) : Option String :=
  if h : start ≤ stop ∧ s.IsBoundary start ∧ s.IsBoundary stop then
    some (String.extract (s.text.pos ⟨start.toNat⟩ h.2.1) (s.text.pos ⟨stop.toNat⟩ h.2.2))
  else none

theorem length_bytes (s : Source) : s.bytes.length = s.text.utf8ByteSize := length_utf8 s.text

theorem toNat_length (s : Source) : s.length.toNat = s.bytes.length := by
  rw [length_bytes, length, UInt64.toNat_ofNat', Nat.mod_eq_of_lt]
  exact Nat.lt_trans s.size_lt (by decide)

theorem toNat_length_lt (s : Source) : s.length.toNat < 0x8000000000000000 := by
  rw [toNat_length, length_bytes]
  exact s.size_lt

theorem byte?_eq (s : Source) (i : Offset) : s.byte? i = s.bytes[i.toNat]? := by
  unfold byte?
  split
  · next h =>
    rw [List.getElem?_eq_getElem (by rw [length_bytes]; exact h)]
    rfl
  · next h =>
    rw [List.getElem?_eq_none]
    rw [length_bytes]
    omega

end Source

end TextCursor
