/-!
Byte offsets and displacements as machine words. Each operation is the exact integer operation
followed by a stated rule for results that do not fit: refuse, clamp or wrap.
-/
namespace TextCursor

/-- A byte offset or a count of bytes: one unsigned machine word. -/
abbrev Offset := UInt64

/-- A signed distance between byte offsets: one signed machine word. -/
abbrev Displacement := Int64

namespace Offset

def greatest : Offset := 0xFFFFFFFFFFFFFFFF

def add? (p n : Offset) : Option Offset :=
  if p.toNat + n.toNat < 0x10000000000000000 then some (p + n) else none

def addClamped (p n : Offset) : Offset :=
  if p.toNat + n.toNat < 0x10000000000000000 then p + n else greatest

def subClamped (p n : Offset) : Offset :=
  if n ≤ p then p - n else 0

def shift? (p : Offset) (k : Displacement) : Option Offset :=
  let target := (p.toNat : Int) + k.toInt
  if 0 ≤ target ∧ target < 0x10000000000000000 then some (UInt64.ofNat target.toNat) else none

def toDisplacement? (p : Offset) : Option Displacement :=
  if p.toNat < 0x8000000000000000 then some p.toInt64 else none

def toDisplacementClamped (p : Offset) : Displacement :=
  p.toDisplacement?.getD Int64.maxValue

/-- The same word read as a displacement, so offsets from 2^63 on come out negative. -/
def wrapped (p : Offset) : Displacement := p.toInt64

/-- The distance p + k from the start, as reported for an access that fails there. An offset that
has no displacement of its own, and a sum that is too large, report the greatest displacement. -/
def target (p : Offset) (k : Displacement) : Displacement :=
  match p.toDisplacement? with
  | none => Int64.maxValue
  | some d => if d.toInt + k.toInt < 0x8000000000000000 then d + k else Int64.maxValue

/-! ### Exact values -/

theorem toNat_greatest : greatest.toNat = 0xFFFFFFFFFFFFFFFF := rfl

theorem toNat_addClamped (p n : Offset) :
    (p.addClamped n).toNat = min (p.toNat + n.toNat) 0xFFFFFFFFFFFFFFFF := by
  have hp := p.toNat_lt
  have hn := n.toNat_lt
  unfold addClamped
  split
  · rw [UInt64.toNat_add, Nat.mod_eq_of_lt (by assumption)]
    omega
  · rw [toNat_greatest]
    omega

theorem toNat_subClamped (p n : Offset) : (p.subClamped n).toNat = p.toNat - n.toNat := by
  unfold subClamped
  split
  · next h => exact UInt64.toNat_sub_of_le _ _ h
  · next h =>
    rw [UInt64.le_iff_toNat_le] at h
    show 0 = _
    omega

theorem add?_eq_some_iff {p n e : Offset} : p.add? n = some e ↔ e.toNat = p.toNat + n.toNat := by
  have he := e.toNat_lt
  unfold add?
  split
  · next h =>
    have hs : (p + n).toNat = p.toNat + n.toNat := by
      rw [UInt64.toNat_add, Nat.mod_eq_of_lt h]
    rw [Option.some.injEq, ← UInt64.toNat_inj, hs]
    exact eq_comm
  · simp only [reduceCtorEq, false_iff]
    omega

theorem add?_eq_none_iff {p n : Offset} :
    p.add? n = none ↔ 0x10000000000000000 ≤ p.toNat + n.toNat := by
  unfold add?
  split
  · simp only [reduceCtorEq, false_iff]
    omega
  · simp only [true_iff]
    omega

theorem shift?_eq_some_iff {p e : Offset} {k : Displacement} :
    p.shift? k = some e ↔ (e.toNat : Int) = p.toNat + k.toInt := by
  have he := e.toNat_lt
  simp only [shift?]
  split
  · next h =>
    have hs : (UInt64.ofNat ((p.toNat : Int) + k.toInt).toNat).toNat =
        ((p.toNat : Int) + k.toInt).toNat := by
      rw [UInt64.toNat_ofNat', Nat.mod_eq_of_lt (by omega)]
    rw [Option.some.injEq, ← UInt64.toNat_inj, hs]
    omega
  · simp only [reduceCtorEq, false_iff]
    omega

theorem shift?_eq_none_iff {p : Offset} {k : Displacement} :
    p.shift? k = none ↔ p.toNat + k.toInt < 0 ∨ 0x10000000000000000 ≤ p.toNat + k.toInt := by
  simp only [shift?]
  split
  · simp only [reduceCtorEq, false_iff]
    omega
  · simp only [true_iff]
    omega

end Offset

namespace Displacement

def toOffset? (k : Displacement) : Option Offset :=
  if 0 ≤ k.toInt then some k.toUInt64 else none

end Displacement

end TextCursor
