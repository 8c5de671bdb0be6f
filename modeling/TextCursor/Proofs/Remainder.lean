import TextCursor.Proofs.Arithmetic

/-! What remains of a source. The count of bytes left stops at zero, the tail of the source that starts at
this count is refused where the count would be negative. Both draw the line at the end of the source. -/
namespace TextCursor.Cursor
variable {c : Cursor}

theorem remaining_eq_zero_iff : c.remaining = 0 ↔ c.length ≤ c.position := by
  rw [← UInt64.toNat_inj, UInt64.le_iff_toNat_le, toNat_remaining, UInt64.toNat_zero]
  exact Nat.sub_eq_zero_iff_le

theorem length_consumed (c : Cursor) : c.consumed.length = c.position := by
  rw [← UInt64.toNat_inj, Span.length, Offset.toNat_subClamped]
  exact Nat.sub_zero _

/-- The tail starts at the count of bytes left, so it has as many bytes as were consumed. -/
private theorem length_tail (h : c.position ≤ c.length) :
    (Span.mk c.remaining c.length).length = c.position := by
  have hle := UInt64.le_iff_toNat_le.mp h
  rw [← UInt64.toNat_inj, Span.length, Offset.toNat_subClamped, toNat_remaining]
  exact Nat.sub_sub_self hle

private theorem expand_consumed_tail (h : c.position ≤ c.length) :
    c.consumed.expand ⟨c.remaining, c.length⟩ = c.full := by
  have hstart : min 0 c.remaining = 0 := by
    rw [← UInt64.toNat_inj, Offset.toNat_min]
    exact Nat.zero_min _
  have hstop : max c.position c.length = c.length := by
    rw [← UInt64.toNat_inj, Offset.toNat_max]
    exact Nat.max_eq_right (UInt64.le_iff_toNat_le.mp h)
  exact congrArg₂ Span.mk hstart hstop

/-- Only the start of the tail can be refused: the position is cut to the greatest displacement and
compared with the length, which is never negative. -/
theorem unconsumed_eq (c : Cursor) :
    let first := c.length.toDisplacementClamped - c.position.toDisplacementClamped
    c.unconsumed =
      if min c.position.toNat 0x7FFFFFFFFFFFFFFF ≤ c.length.toNat then .ok ⟨first.toUInt64, c.length⟩
      else .error (.negative .start first) := by
  intro first
  have hfirst : first.toInt = c.length.toNat - min c.position.toNat 0x7FFFFFFFFFFFFFFF := c.toInt_tailStart
  have hstop : 0 ≤ c.length.toDisplacementClamped.toInt := by
    rw [Offset.toInt_toDisplacementClamped]
    omega
  have hfits : c.length.toNat < 0x8000000000000000 := c.source.toNat_length_lt
  have hlength : c.length.toDisplacementClamped.toUInt64 = c.length := by
    rw [Offset.toDisplacementClamped_of_lt hfits, UInt64.toUInt64_toInt64]
  have hsign : 0 ≤ first.toInt ↔ min c.position.toNat 0x7FFFFFFFFFFFFFFF ≤ c.length.toNat := by omega
  rw [unconsumed, Span.between_eq, if_pos hstop, hlength]
  exact if_congr hsign rfl rfl

/-- Past the end the start is below zero. It is exact up to the greatest displacement, and positions that
are larger give the same start as that one. -/
theorem unconsumed_of_lt (short : c.length.toNat < 0x7FFFFFFFFFFFFFFF) (h : c.length < c.position) :
    ∃ value : Displacement, c.unconsumed = .error (.negative .start value) ∧
      value.toInt = max ((c.length.toNat : Int) - c.position.toNat)
        (c.length.toNat - 0x7FFFFFFFFFFFFFFF) := by
  have hpast := UInt64.lt_iff_toNat_lt.mp h
  have hfirst := c.toInt_tailStart
  refine ⟨c.length.toDisplacementClamped - c.position.toDisplacementClamped, ?_, ?_⟩
  · rw [unconsumed_eq, if_neg (by omega)]
  · omega

/-- A source of the greatest length hides that the position is past its end, which is cut to the same
number. The tail starts at zero there and is not refused. -/
theorem unconsumed_of_greatest (h : c.length.toNat = 0x7FFFFFFFFFFFFFFF) (hpast : c.length ≤ c.position) :
    c.unconsumed = .ok ⟨0, c.length⟩ := by
  have hle := UInt64.le_iff_toNat_le.mp hpast
  have hfirst : c.length.toDisplacementClamped - c.position.toDisplacementClamped = 0 := by
    rw [← Int64.toInt_inj, c.toInt_tailStart, Int64.toInt_zero]
    omega
  rw [unconsumed_eq, if_pos (by omega), hfirst]
  rfl

/-- Up to the end of the source the tail starts at the count of bytes left. It is as long as the consumed
part, and the two joined are the whole source. Past the end, where the count of bytes left is zero, the tail
is refused, always for its start. The start reported is the negative count, with positions cut to the
greatest displacement. -/
theorem tail_refused_iff_past_end (c : Cursor) (short : c.length.toNat < 0x7FFFFFFFFFFFFFFF) :
    let tail : Span := ⟨c.remaining, c.length⟩
    ((∃ s, c.unconsumed = .ok s) ↔ c.position ≤ c.length) ∧
      ((∃ e, c.unconsumed = .error e) ↔ c.length < c.position) ∧
      (c.position ≤ c.length → c.unconsumed = .ok tail ∧ tail.length = c.position ∧
        tail.length = c.consumed.length ∧ c.full = c.consumed.expand tail) ∧
      (c.length < c.position → c.remaining = 0 ∧
        ∃ value : Displacement, c.unconsumed = .error (.negative .start value) ∧
          value.toInt = max ((c.length.toNat : Int) - c.position.toNat)
            (c.length.toNat - 0x7FFFFFFFFFFFFFFF)) := by
  intro tail
  refine ⟨⟨?_, ?_⟩, ⟨?_, ?_⟩, ?_, ?_⟩
  · rintro ⟨s, hs⟩
    by_contra hpast
    obtain ⟨_, hrefused, _⟩ := unconsumed_of_lt short (UInt64.not_le.mp hpast)
    rw [hrefused] at hs
    cases hs
  · intro hinside
    exact ⟨tail, unconsumed_of_le hinside⟩
  · rintro ⟨e, he⟩
    by_contra hinside
    rw [unconsumed_of_le (UInt64.not_lt.mp hinside)] at he
    cases he
  · intro hpast
    obtain ⟨_, hrefused, _⟩ := unconsumed_of_lt short hpast
    exact ⟨_, hrefused⟩
  · intro hinside
    have hlength : tail.length = c.position := length_tail hinside
    exact ⟨unconsumed_of_le hinside, hlength, hlength.trans c.length_consumed.symm,
      (expand_consumed_tail hinside).symm⟩
  · intro hpast
    exact ⟨remaining_eq_zero_iff.mpr (UInt64.le_of_lt hpast), unconsumed_of_lt short hpast⟩

/-- At the greatest position the start reported is the one for the greatest displacement. With one byte left
of three, the tail starts at one and has two bytes. -/
theorem tail_refused_iff_past_end_at_greatest :
    let far : Cursor := ⟨⟨"foo", by decide⟩, Offset.greatest, true⟩
    let near : Cursor := ⟨⟨"foo", by decide⟩, 2, true⟩
    far.length.toNat < 0x7FFFFFFFFFFFFFFF ∧ far.length < far.position ∧ far.remaining = 0 ∧
      (∃ value : Displacement, far.unconsumed = .error (.negative .start value) ∧
        value.toInt = 3 - 0x7FFFFFFFFFFFFFFF) ∧
      near.position ≤ near.length ∧ near.unconsumed = .ok ⟨1, 3⟩ ∧
      near.full = near.consumed.expand ⟨1, 3⟩ := by
  intro far near
  have short : far.length.toNat < 0x7FFFFFFFFFFFFFFF := by decide
  have past : far.length < far.position := by decide
  have inside : near.position ≤ near.length := by decide
  have htail : Span.mk near.remaining near.length = ⟨1, 3⟩ := by decide
  obtain ⟨_, _, _, hfar⟩ := tail_refused_iff_past_end far short
  obtain ⟨_, _, hnear, _⟩ := tail_refused_iff_past_end near short
  obtain ⟨hnone, value, hrefused, hvalue⟩ := hfar past
  obtain ⟨hgiven, _, _, hcover⟩ := hnear inside
  rw [htail] at hgiven hcover
  exact ⟨short, past, hnone, ⟨value, hrefused, hvalue⟩, inside, hgiven, hcover⟩

end TextCursor.Cursor
