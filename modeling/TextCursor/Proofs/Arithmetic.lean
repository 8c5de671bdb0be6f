import TextCursor.Proofs.Bounds

/-! The arithmetic on words as exact integers: what each sum, difference and conversion gives, and where
it stops at the greatest or the least number instead. -/
namespace TextCursor

namespace Offset

def ofNatClamped (n : Nat) : Offset := UInt64.ofNat (min n 0xFFFFFFFFFFFFFFFF)

theorem toNat_ofNatClamped (n : Nat) : (ofNatClamped n).toNat = min n 0xFFFFFFFFFFFFFFFF := by
  rw [ofNatClamped, UInt64.toNat_ofNat', Nat.mod_eq_of_lt (by omega)]

theorem ofNatClamped_toNat (p : Offset) : ofNatClamped p.toNat = p := by
  have hp := p.toNat_lt
  rw [← UInt64.toNat_inj, toNat_ofNatClamped]
  omega

theorem eq_ofNatClamped {p : Offset} {n : Nat} (h : p.toNat = n) : p = ofNatClamped n := by
  rw [← h, ofNatClamped_toNat]

theorem toNat_min (p q : Offset) : (min p q).toNat = min p.toNat q.toNat := by
  rw [show min p q = if p ≤ q then p else q from rfl]
  split
  · next h => exact (Nat.min_eq_left (UInt64.le_iff_toNat_le.mp h)).symm
  · next h =>
    rw [UInt64.le_iff_toNat_le] at h
    omega

theorem toNat_max (p q : Offset) : (max p q).toNat = max p.toNat q.toNat := by
  rw [show max p q = if p ≤ q then q else p from rfl]
  split
  · next h => exact (Nat.max_eq_right (UInt64.le_iff_toNat_le.mp h)).symm
  · next h =>
    rw [UInt64.le_iff_toNat_le] at h
    omega

theorem addClamped_ofNatClamped (n : Nat) (w : Offset) :
    (ofNatClamped n).addClamped w = ofNatClamped (n + w.toNat) := by
  rw [← UInt64.toNat_inj, toNat_addClamped, toNat_ofNatClamped, toNat_ofNatClamped]
  omega

theorem toInt_toDisplacementClamped (p : Offset) :
    p.toDisplacementClamped.toInt = min p.toNat 0x7FFFFFFFFFFFFFFF := by
  by_cases h : p.toNat < 0x8000000000000000
  · rw [toDisplacementClamped_of_lt h, toInt_toInt64_of_lt h]
    omega
  · have hnone : p.toDisplacement? = none := if_neg h
    rw [toDisplacementClamped, hnone, Option.getD_none, Int64.toInt_maxValue]
    omega

/-- The distance reported for a failing access is exact, up to the greatest displacement. -/
theorem toInt_target (p : Offset) (k : Displacement) :
    (p.target k).toInt =
      if p.toNat < 0x8000000000000000 then min (p.toNat + k.toInt) 0x7FFFFFFFFFFFFFFF
      else 0x7FFFFFFFFFFFFFFF := by
  have hk := k.le_toInt
  split
  · next h =>
    have hd : p.toDisplacement? = some p.toInt64 := if_pos h
    simp only [target, hd, toInt_toInt64_of_lt h]
    split
    · rw [Int64.toInt_add, toInt_toInt64_of_lt h, Int.bmod_eq_of_le (by omega) (by omega)]
      omega
    · rw [Int64.toInt_maxValue]
      omega
  · next h =>
    have hd : p.toDisplacement? = none := if_neg h
    simp only [target, hd, Int64.toInt_maxValue]
    rfl

/-- The cast of an offset is exact as long as it has a displacement of its own. From there on it comes out
below zero. -/
theorem toInt_wrapped (n : Offset) :
    n.wrapped.toInt =
      if n.toNat < 0x8000000000000000 then (n.toNat : Int) else n.toNat - 0x10000000000000000 := by
  have hn := n.toNat_lt
  split
  · next h => exact toInt_toInt64_of_lt h
  · next h =>
    show n.toBitVec.toInt = _
    rw [BitVec.toInt_eq_toNat_bmod, UInt64.toNat_toBitVec, Int.bmod_def, if_neg (by omega)]
    omega

end Offset

namespace Displacement

theorem toNat_toUInt64 {k : Displacement} (h : 0 ≤ k.toInt) : k.toUInt64.toNat = k.toInt.toNat :=
  Int64.toNat_toUInt64_of_le (Int64.le_iff_toInt_le.mpr h)

end Displacement

/-- A byte at a distance is the one at the exact sum. A sum that is too large for a word lies behind every
source, so nothing is lost by refusing it. -/
theorem Source.bind_shift?_byte? (s : Source) (p : Offset) (k : Displacement) :
    (p.shift? k).bind s.byte? =
      if 0 ≤ (p.toNat : Int) + k.toInt then s.bytes[((p.toNat : Int) + k.toInt).toNat]? else none := by
  have hlength := s.toNat_length_lt
  rw [toNat_length] at hlength
  cases htarget : p.shift? k with
  | some q =>
    rw [Offset.shift?_eq_some_iff] at htarget
    rw [Option.bind_some, byte?_eq, if_pos (by omega), ← htarget, Int.toNat_natCast]
  | none =>
    rw [Offset.shift?_eq_none_iff] at htarget
    rw [Option.bind_none]
    split
    · rw [List.getElem?_eq_none (by omega)]
    · rfl

namespace Cursor

/-- The start of the unconsumed tail before its sign is checked. -/
theorem toInt_tailStart (c : Cursor) :
    (c.length.toDisplacementClamped - c.position.toDisplacementClamped).toInt =
      c.length.toNat - min c.position.toNat 0x7FFFFFFFFFFFFFFF := by
  have hlength : c.length.toNat < 0x8000000000000000 := c.source.toNat_length_lt
  rw [Int64.toInt_sub, Offset.toInt_toDisplacementClamped, Offset.toInt_toDisplacementClamped,
    Int.bmod_eq_of_le (by omega) (by omega)]
  omega

end Cursor

end TextCursor
