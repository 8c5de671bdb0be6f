import Mathlib.Tactic.TFAE
import TextCursor.Proofs.Arithmetic
import TextCursor.Proofs.LongestRun

/-! What can be read. The questions how much is left and the reads themselves compute with words in
different ways, and all of them decide by exact positions. -/
namespace TextCursor.Cursor
variable {c : Cursor}

theorem le_remaining_iff {n : Offset} (h : 0 < n) :
    n ≤ c.remaining ↔ c.position.toNat + n.toNat ≤ c.length.toNat := by
  have hn : 0 < n.toNat := UInt64.lt_iff_toNat_lt.mp h
  rw [UInt64.le_iff_toNat_le, toNat_remaining]
  omega

/-- A read gives the byte at the exact sum, if that lies in the source. -/
theorem peekAt_ok_iff {k : Displacement} {b : UInt8} : (c.peekAt k).value = .ok b ↔
    0 ≤ (c.position.toNat : Int) + k.toInt ∧
      c.source.bytes[((c.position.toNat : Int) + k.toInt).toNat]? = some b := by
  rw [peekAt_value, Source.bind_shift?_byte?]
  split
  · next some_byte hread =>
    split at hread
    · next hnonneg => simp [hnonneg, hread]
    · cases hread
  · next hread =>
    split at hread
    · simp [hread]
    · next hnegative => simp [hnegative]

theorem exists_peekAt_ok_iff {k : Displacement} : (∃ b, (c.peekAt k).value = .ok b) ↔
    0 ≤ (c.position.toNat : Int) + k.toInt ∧
      (c.position.toNat : Int) + k.toInt < c.length.toNat := by
  have hlength : c.length.toNat = c.source.bytes.length := c.source.toNat_length
  simp only [peekAt_ok_iff, exists_and_left, ← Option.isSome_iff_exists, isSome_getElem?]
  omega

/-- The last of n bytes is the one to look at. If n is too large for its distance to be asked for, the
greatest distance lies behind the source already. -/
private theorem reads_below_iff {n : Offset} (h : 0 < n) :
    (∀ k : Displacement, 0 ≤ k.toInt → k.toInt < n.toNat → ∃ b, (c.peekAt k).value = .ok b) ↔
      c.position.toNat + n.toNat ≤ c.length.toNat := by
  have hn : 0 < n.toNat := UInt64.lt_iff_toNat_lt.mp h
  have hlength : c.length.toNat < 0x8000000000000000 := c.source.toNat_length_lt
  simp only [exists_peekAt_ok_iff]
  constructor
  · intro hreads
    have hlast : (n - 1).toNat = n.toNat - 1 :=
      UInt64.toNat_sub_of_le _ _ (UInt64.le_iff_toNat_le.mpr hn)
    have hk := (n - 1).toInt_toDisplacementClamped
    rw [hlast] at hk
    obtain ⟨_, hinside⟩ := hreads (n - 1).toDisplacementClamped (by omega) (by omega)
    omega
  · intro hfits k hnonneg hbelow
    omega

/-- Asking whether n bytes can be read, comparing n with what remains, adding exact numbers and trying all
n reads have the same outcome. A read at a distance succeeds exactly for the offsets of the source, and gives
the byte there. So the next byte is readable exactly if looking at it and taking it succeed, and both
give the same one. -/
theorem readability_agrees_with_reads (c : Cursor) :
    (∀ n : Offset, 0 < n → List.TFAE [
      c.isReadableBy n,
      n ≤ c.remaining,
      c.position.toNat + n.toNat ≤ c.length.toNat,
      ∀ k : Displacement, 0 ≤ k.toInt → k.toInt < n.toNat → ∃ b, (c.peekAt k).value = .ok b]) ∧
    (∀ k, (∃ b, (c.peekAt k).value = .ok b) ↔
      0 ≤ (c.position.toNat : Int) + k.toInt ∧
        (c.position.toNat : Int) + k.toInt < c.length.toNat) ∧
    (∀ k b, (c.peekAt k).value = .ok b →
      c.source.bytes[((c.position.toNat : Int) + k.toInt).toNat]? = some b) ∧
    (c.isReadable ↔ ∃ b, c.peek.value = .ok b) ∧ (c.isReadable ↔ ∃ b, c.next.value.1 = .ok b) ∧
    ∀ b, c.peek.value = .ok b ↔ c.next.value.1 = .ok b := by
  have hreadable : c.isReadable ↔ ∃ b, c.peek.value = .ok b := by
    rw [c.isReadable_iff, Option.isSome_iff_exists]
    exact exists_congr fun b => peek_ok_iff.symm
  refine ⟨?_, ?_, ?_, hreadable, ?_, ?_⟩
  · intro n hn
    tfae_have 1 ↔ 3 := isReadableBy_iff
    tfae_have 2 ↔ 3 := le_remaining_iff hn
    tfae_have 4 ↔ 3 := reads_below_iff hn
    tfae_finish
  · intro k
    exact exists_peekAt_ok_iff
  · intro k b h
    exact (peekAt_ok_iff.mp h).2
  · rw [c.next_result]
    exact hreadable
  · intro b
    rw [c.next_result]

/-- From behind the end, the bytes of the source can be read at negative distances. More bytes than a
displacement can count are not readable, so some read below that number fails. -/
theorem readability_agrees_with_reads_past_end :
    let c : Cursor := ⟨⟨"aé", by decide⟩, 5, true⟩
    let n : Offset := 0x8000000000000000
    0 < n ∧ c.isReadableBy n = false ∧
      (¬ ∀ k : Displacement, 0 ≤ k.toInt → k.toInt < n.toNat → ∃ b, (c.peekAt k).value = .ok b) ∧
      (∃ b, (c.peekAt (-4)).value = .ok b ∧ c.source.bytes[1]? = some b) := by
  intro c n
  have positive : 0 < n := by decide
  have unreadable : c.isReadableBy n = false := by decide
  obtain ⟨hcount, hinside, hbyte, _⟩ := readability_agrees_with_reads c
  refine ⟨positive, unreadable, ?_, ?_⟩
  · intro hreads
    have hsame : c.isReadableBy n ↔ ∀ k : Displacement, 0 ≤ k.toInt → k.toInt < n.toNat →
        ∃ b, (c.peekAt k).value = .ok b := (hcount n positive).out 0 3
    rw [← hsame, unreadable] at hreads
    cases hreads
  · obtain ⟨b, hb⟩ := (hinside (-4)).mpr (by decide)
    exact ⟨b, hb, hbyte (-4) b hb⟩

end TextCursor.Cursor
