import TextCursor.Proofs.Movement

/-! The bytes between two offsets of a source, and the reads, scans and slices that give exactly
those bytes back. -/
namespace TextCursor

def Source.bytesBetween (s : Source) (p q : Offset) : List UInt8 :=
  (s.bytes.drop p.toNat).take (q.toNat - p.toNat)

namespace Source

theorem bytesBetween_self (s : Source) (p : Offset) : s.bytesBetween p p = [] := by
  rw [bytesBetween, Nat.sub_self, List.take_zero]

/-- Adjacent pieces join without a seam. -/
theorem bytesBetween_append (s : Source) {p q r : Offset} (h : p ≤ q) (k : q ≤ r) :
    s.bytesBetween p q ++ s.bytesBetween q r = s.bytesBetween p r := by
  rw [UInt64.le_iff_toNat_le] at h k
  have hsum : r.toNat - p.toNat = (q.toNat - p.toNat) + (r.toNat - q.toNat) := by omega
  have hdrop : s.bytes.drop q.toNat = (s.bytes.drop p.toNat).drop (q.toNat - p.toNat) := by
    rw [List.drop_drop]
    congr 1
    omega
  rw [bytesBetween, bytesBetween, bytesBetween, hsum, List.take_add, hdrop]

theorem utf8_slice? {s : Source} {p q : Offset} {text : String} (h : s.slice? p q = some text) :
    utf8 text = s.bytesBetween p q := by
  unfold slice? at h
  split at h
  · cases h
    rw [utf8, String.toByteArray_extract, ByteArray.data_extract, Array.toList_extract,
      List.extract_eq_take_drop]
    rfl
  · cases h

theorem slice?_isSome_iff (s : Source) (p q : Offset) :
    (s.slice? p q).isSome ↔ p ≤ q ∧ s.IsBoundary p ∧ s.IsBoundary q := by
  unfold slice?
  split
  · next h => exact iff_of_true rfl h
  · next h => exact iff_of_false (by simp) h

theorem IsBoundary.le_length {s : Source} {p : Offset} (h : s.IsBoundary p) : p ≤ s.length := by
  rw [UInt64.le_iff_toNat_le, toNat_length, length_bytes]
  exact h.le_utf8ByteSize

end Source

namespace Cursor

/-- A span is refused for its bounds only if it could not be sliced anyway. -/
theorem substring_ok_iff {c : Cursor} {s : Span} {text : String} :
    (c.substring s).value = .ok text ↔ c.source.slice? s.start s.stop = some text := by
  rw [substring_value]
  split
  · next h =>
    refine iff_of_false nofun fun hs => ?_
    have hsome := (c.source.slice?_isSome_iff s.start s.stop).mp (by rw [hs]; rfl)
    rcases h with h | h
    · exact (UInt64.not_le.mpr h) hsome.1
    · exact (UInt64.not_le.mpr h) hsome.2.2.le_length
  · cases c.source.slice? s.start s.stop with
    | some t =>
      constructor
      · exact fun h => congrArg some (Except.ok.inj h)
      · exact fun h => congrArg Except.ok (Option.some.inj h)
    | none => exact iff_of_false nofun nofun

section
variable {c : Cursor} {s : Span}

def HasText (c : Cursor) (s : Span) : Prop := ∃ text, (c.substring s).value = .ok text

theorem hasText_iff : c.HasText s ↔
    s.start ≤ s.stop ∧ c.source.IsBoundary s.start ∧ c.source.IsBoundary s.stop := by
  rw [← Source.slice?_isSome_iff, Option.isSome_iff_exists]
  exact exists_congr fun text => substring_ok_iff

theorem utf8_of_substring {text : String} (h : (c.substring s).value = .ok text) :
    utf8 text = c.source.bytesBetween s.start s.stop := Source.utf8_slice? (substring_ok_iff.mp h)

end

/-- Going from c to d passes exactly these bytes of the source. -/
structure Passes (c : Cursor) (bytes : List UInt8) (d : Cursor) : Prop where
  sameText : c.SameText d
  le : c.position ≤ d.position
  eq_between : bytes = c.source.bytesBetween c.position d.position

namespace Passes
variable {c d e : Cursor} {first rest : List UInt8}

theorem nil (c : Cursor) : c.Passes [] c :=
  ⟨.refl c, UInt64.le_refl _, (c.source.bytesBetween_self _).symm⟩

theorem append (h : c.Passes first d) (k : d.Passes rest e) : c.Passes (first ++ rest) e where
  sameText := h.sameText.trans k.sameText
  le := UInt64.le_trans h.le k.le
  eq_between := by
    rw [h.eq_between, k.eq_between, h.sameText.source]
    exact c.source.bytesBetween_append h.le k.le

end Passes

/-- Advancing inside the source does not reach the greatest word. -/
theorem toNat_position_advanceBy {c : Cursor} {n : Nat} (h : n ≤ c.unread.length) :
    (c.advanceBy (UInt64.ofNat n)).position.toNat = c.position.toNat + n := by
  have hlength : c.length.toNat < 0x8000000000000000 := c.source.toNat_length_lt
  have hp := c.position.toNat_lt
  rw [length_unread] at h
  have hn : (UInt64.ofNat n).toNat = n := by
    rw [UInt64.toNat_ofNat', Nat.mod_eq_of_lt (by omega)]
  show (c.position.addClamped (UInt64.ofNat n)).toNat = _
  rw [Offset.toNat_addClamped, hn]
  omega

private theorem passes_advanceBy {c : Cursor} {n : Nat} (h : n ≤ c.unread.length) :
    c.Passes (c.unread.take n) (c.advanceBy (UInt64.ofNat n)) where
  sameText := ⟨rfl, rfl⟩
  le := by
    rw [UInt64.le_iff_toNat_le, toNat_position_advanceBy h]
    omega
  eq_between := by
    rw [Source.bytesBetween, toNat_position_advanceBy h, Nat.add_sub_cancel_left]
    rfl

theorem unread_eq_cons {c : Cursor} {b : UInt8} (h : c.source.byte? c.position = some b) :
    ∃ rest, c.unread = b :: rest := by
  rw [Source.byte?_eq] at h
  obtain ⟨hlt, hb⟩ := List.getElem?_eq_some_iff.mp h
  exact ⟨_, by rw [unread, List.drop_eq_getElem_cons hlt, hb]⟩

theorem position_advance {c : Cursor} {b : UInt8} (h : c.source.byte? c.position = some b) :
    c.advance.position.toNat = c.position.toNat + 1 := by
  obtain ⟨rest, hrest⟩ := unread_eq_cons h
  exact toNat_position_advanceBy (n := 1) (by simp [hrest])

theorem passes_advance {c : Cursor} {b : UInt8} (h : c.source.byte? c.position = some b) :
    c.Passes [b] c.advance := by
  obtain ⟨rest, hrest⟩ := unread_eq_cons h
  have hp := passes_advanceBy (c := c) (n := 1) (by rw [hrest]; exact Nat.le_add_left ..)
  rw [hrest] at hp
  exact hp

variable {τ : Type} [ByteTest τ]

theorem position_advanceWhile (c : Cursor) (test : τ) : (c.advanceWhile test).2.position.toNat =
    c.position.toNat + (c.advanceWhile test).1.accepted.length :=
  toNat_position_advanceBy (Scan.length_accepted_le test c.unread)

theorem unread_advanceWhile (c : Cursor) (test : τ) : (c.advanceWhile test).2.unread =
    c.unread.drop (c.advanceWhile test).1.accepted.length := by
  rw [unread, position_advanceWhile, unread, List.drop_drop]
  rfl

/-- A scan passes the bytes its test accepted. -/
theorem passes_advanceWhile (c : Cursor) (test : τ) :
    c.Passes (c.advanceWhile test).1.accepted (c.advanceWhile test).2 := by
  have hp := passes_advanceBy (Scan.length_accepted_le test c.unread)
  have hsplit := congrArg (List.take (Scan.along test c.unread).accepted.length)
    (Scan.accepted_append_drop test c.unread)
  rw [List.take_left] at hsplit
  rw [← hsplit] at hp
  exact hp

/-- A scan moves exactly if it accepts some byte. -/
theorem advanceWhile_eq_self_iff (c : Cursor) (test : τ) :
    (c.advanceWhile test).2 = c ↔ (c.advanceWhile test).1.accepted = [] := by
  have hposition := c.position_advanceWhile test
  rw [← List.length_eq_zero_iff]
  constructor
  · intro h
    rw [h] at hposition
    omega
  · intro h
    apply (c.passes_advanceWhile test).sameText.eq_of_position
    omega

end Cursor

end TextCursor
