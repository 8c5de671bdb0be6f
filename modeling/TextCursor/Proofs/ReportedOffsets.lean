import TextCursor.Proofs.Arithmetic

/-! The offset that a refused access reports, beside the target that was asked for. Reads compute it from
the position once more, in displacements, and a refused move casts its target, so both are right only as
long as these numbers have displacements of their own. -/
namespace TextCursor

namespace AccessError

def Reports (number : Int) (length : Offset) : AccessError → Prop
  | outside offset n => n = length ∧ offset.toInt = number
  | _ => False

/-- The error reports the target of the access, or the greatest displacement for a larger target. -/
def Names (target : Int) (length : Offset) (e : AccessError) : Prop :=
  e.Reports (min target 0x7FFFFFFFFFFFFFFF) length

variable {e f : AccessError} {number other : Int} {length : Offset}

theorem Reports.unique (h : e.Reports number length) (k : e.Reports other length) : number = other := by
  cases e with
  | outside offset n => exact h.2.symm.trans k.2
  | _ => cases h

private theorem Reports.eq (h : e.Reports number length) (k : f.Reports number length) : e = f := by
  cases e with
  | outside offset n =>
    cases f with
    | outside offset' n' =>
      obtain ⟨rfl, hoffset⟩ := h
      obtain ⟨rfl, hoffset'⟩ := k
      rw [Int64.toInt_inj.mp (hoffset.trans hoffset'.symm)]
    | _ => cases k
  | _ => cases h

/-- An error that reports one number names a target exactly if that is the number to report for it. -/
theorem Reports.names_iff (h : e.Reports number length) (target : Int) :
    e.Names target length ↔ number = min target 0x7FFFFFFFFFFFFFFF := by
  constructor
  · intro k
    exact h.unique k
  · rintro rfl
    exact h

end AccessError

namespace Cursor
variable {c : Cursor} {e : AccessError}

/-- What a refused read reports. Far behind every source the distance no longer counts. -/
private theorem reports_of_peekAt {k : Displacement} (h : (c.peekAt k).value = .error e) :
    e.Reports (if c.position.toNat ≤ 0x7FFFFFFFFFFFFFFF then
      min (c.position.toNat + k.toInt) 0x7FFFFFFFFFFFFFFF else 0x7FFFFFFFFFFFFFFF) c.length := by
  obtain ⟨_, rfl⟩ := peekAt_error_iff.mp h
  refine ⟨rfl, ?_⟩
  rw [Offset.toInt_target]
  split
  · next hnear => rw [if_pos (Nat.le_of_lt_succ hnear)]
  · next hfar => rw [if_neg (fun hnear => hfar (Nat.lt_succ_of_le hnear))]

private theorem names_of_peekAt_zero (h : (c.peekAt 0).value = .error e) :
    e.Names c.position.toNat c.length := by
  rw [(reports_of_peekAt h).names_iff, Int64.toInt_zero, Int.add_zero]
  split
  · rfl
  · omega

private theorem reports_of_setPosition {n : Offset} (h : (c.setPosition n).value.1 = .error e) :
    e.Reports (if n.toNat ≤ 0x7FFFFFFFFFFFFFFF then (n.toNat : Int) else n.toNat - 0x10000000000000000)
      c.length := by
  obtain ⟨_, rfl⟩ := setPosition_error_iff.mp h
  refine ⟨rfl, ?_⟩
  rw [Offset.toInt_wrapped]
  split
  · next hnear => rw [if_pos (Nat.le_of_lt_succ hnear)]
  · next hfar => rw [if_neg (fun hnear => hfar (Nat.lt_succ_of_le hnear))]

/-- A refused access names its target, unless a number on the way has no displacement of its own. Reading
under the cursor always does. Reading at a distance does not exactly if the position is too large for a
displacement and the target is not the greatest one or beyond: it reports the greatest displacement there.
A refused move does not exactly if its target is too large, which then comes out below zero. Reading at and
moving to the same target report the same exactly if both name it. -/
theorem refusal_names_target_iff_not_far (c : Cursor) :
    (∀ e, c.peek.value = .error e → e.Names c.position.toNat c.length) ∧
      (∀ e, c.next.value.1 = .error e → e.Names c.position.toNat c.length) ∧
      (∀ k e, (c.peekAt k).value = .error e →
        (e.Names (c.position.toNat + k.toInt) c.length ↔
          c.position.toNat ≤ 0x7FFFFFFFFFFFFFFF ∨
            0x7FFFFFFFFFFFFFFF ≤ c.position.toNat + k.toInt) ∧
        (0x7FFFFFFFFFFFFFFF < c.position.toNat → e.Reports 0x7FFFFFFFFFFFFFFF c.length)) ∧
      (∀ n e, (c.setPosition n).value.1 = .error e →
        (e.Names n.toNat c.length ↔ n.toNat ≤ 0x7FFFFFFFFFFFFFFF) ∧
        (0x7FFFFFFFFFFFFFFF < n.toNat → e.Reports (n.toNat - 0x10000000000000000) c.length)) ∧
      ∀ k n e f, (c.position.toNat : Int) + k.toInt = n.toNat → (c.peekAt k).value = .error e →
        (c.setPosition n).value.1 = .error f →
        (e = f ↔ e.Names n.toNat c.length ∧ f.Names n.toNat c.length) := by
  refine ⟨?_, ?_, ?_, ?_, ?_⟩
  · intro e h
    exact names_of_peekAt_zero h
  · intro e h
    rw [next_result] at h
    exact names_of_peekAt_zero h
  · intro k e h
    have hreport := reports_of_peekAt h
    constructor
    · rw [hreport.names_iff]
      split
      · next hnear => exact iff_of_true rfl (.inl hnear)
      · omega
    · intro hfar
      rw [if_neg (Nat.not_le.mpr hfar)] at hreport
      exact hreport
  · intro n e h
    have hreport := reports_of_setPosition h
    constructor
    · rw [hreport.names_iff]
      have hn := n.toNat_lt
      split
      · omega
      · omega
    · intro hfar
      rw [if_neg (Nat.not_le.mpr hfar)] at hreport
      exact hreport
  · intro k n e f htarget he hf
    have hread := reports_of_peekAt he
    have hmove := reports_of_setPosition hf
    constructor
    · rintro rfl
      -- A read reports no negative number for this target, and a far target is moved to as one.
      have hsame := hread.unique hmove
      have hn := n.toNat_lt
      have hnear : n.toNat ≤ 0x7FFFFFFFFFFFFFFF := by
        by_contra hfar
        rw [if_neg hfar] at hsame
        split at hsame
        · omega
        · omega
      have hname : e.Names n.toNat c.length := by
        rw [hmove.names_iff, if_pos hnear]
        omega
      exact ⟨hname, hname⟩
    · rintro ⟨hename, hfname⟩
      exact hename.eq hfname

/-- Reading one byte before the least position without a displacement names the target, and so does moving
to that target. Moving to the greatest offset reports minus one. -/
theorem refusal_names_target_iff_not_far_at_edge :
    let c : Cursor := ⟨⟨"foo", by decide⟩, 0x8000000000000000, true⟩
    let edge : AccessError := .outside Int64.maxValue 3
    (c.peekAt (-1)).value = .error edge ∧ (c.setPosition 0x7FFFFFFFFFFFFFFF).value.1 = .error edge ∧
      edge.Names 0x7FFFFFFFFFFFFFFF c.length ∧
      (c.setPosition Offset.greatest).value.1 = .error (.outside (-1) 3) ∧
      (AccessError.outside (-1) 3).Reports (-1) c.length := by
  intro c edge
  have hread : (c.peekAt (-1)).value = .error edge := peekAt_error_iff.mpr (by decide +kernel)
  have hmove : (c.setPosition 0x7FFFFFFFFFFFFFFF).value.1 = .error edge := rfl
  have hgreatest : (c.setPosition Offset.greatest).value.1 = .error (.outside (-1) 3) := rfl
  obtain ⟨_, _, _, hmoves, hboth⟩ := refusal_names_target_iff_not_far c
  obtain ⟨hname, _⟩ := (hboth (-1) 0x7FFFFFFFFFFFFFFF edge edge (by decide) hread hmove).mp rfl
  exact ⟨hread, hmove, hname, hgreatest, (hmoves _ _ hgreatest).2 (by decide)⟩

/-- Two bytes before the least position without a displacement, a read reports the greatest displacement
instead of the target, which is smaller. A move to the greatest offset reports minus one instead of the
greatest displacement. So not every refusal names its target. -/
theorem far_refusals_misname_target :
    let c : Cursor := ⟨⟨"foo", by decide⟩, 0x8000000000000000, true⟩
    ((c.peekAt (-2)).value = .error (.outside Int64.maxValue 3) ∧
        ¬ (AccessError.outside Int64.maxValue 3).Names (c.position.toNat + (-2 : Displacement).toInt)
          c.length) ∧
      (c.setPosition Offset.greatest).value.1 = .error (.outside (-1) 3) ∧
        ¬ (AccessError.outside (-1) 3).Names Offset.greatest.toNat c.length := by
  intro c
  refine ⟨⟨peekAt_error_iff.mpr (by decide +kernel), ?_⟩, rfl, ?_⟩
  · rintro ⟨_, hreported⟩
    revert hreported
    decide
  · rintro ⟨_, hreported⟩
    revert hreported
    decide

end Cursor

end TextCursor
