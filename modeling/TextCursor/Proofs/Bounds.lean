import TextCursor.ByteRule
import TextCursor.Proofs.Consumption
import TextCursor.Proofs.Runs

/-! A strict cursor that starts inside its source stays there, unless it is advanced blindly, made
lenient or overwritten. Its marks stay there with it, so none of its spans is too long. -/
namespace TextCursor
variable {τ : Type}

theorem Offset.toDisplacementClamped_of_lt {p : Offset} (h : p.toNat < 0x8000000000000000) :
    p.toDisplacementClamped = p.toInt64 := by
  rw [toDisplacementClamped, toDisplacement?, if_pos h]
  rfl

theorem Offset.toInt_toInt64_of_lt {p : Offset} (h : p.toNat < 0x8000000000000000) :
    p.toInt64.toInt = p.toNat := by
  have hdouble : 2 * p.toBitVec.toNat < 2 ^ 64 := by
    rw [UInt64.toNat_toBitVec]
    omega
  exact BitVec.toInt_eq_toNat_of_lt hdouble

namespace Cursor
variable {c : Cursor}

/-- Up to the end of the source, the unconsumed span starts at the count of bytes that remain. -/
theorem unconsumed_of_le (h : c.position ≤ c.length) :
    c.unconsumed = .ok ⟨c.remaining, c.length⟩ := by
  have hle := UInt64.le_iff_toNat_le.mp h
  have hlength : c.length.toNat < 0x8000000000000000 := c.source.toNat_length_lt
  have hposition : c.position.toNat < 0x8000000000000000 := Nat.lt_of_le_of_lt hle hlength
  have hstop : 0 ≤ c.length.toInt64.toInt := by
    rw [Offset.toInt_toInt64_of_lt hlength]
    exact Int.natCast_nonneg _
  have hstart : 0 ≤ (c.length.toInt64 - c.position.toInt64).toInt := by
    rw [Int64.toInt_sub, Offset.toInt_toInt64_of_lt hlength, Offset.toInt_toInt64_of_lt hposition,
      Int.bmod_eq_of_le (by omega) (by omega)]
    omega
  rw [unconsumed, Offset.toDisplacementClamped_of_lt hlength,
    Offset.toDisplacementClamped_of_lt hposition, Span.between_eq, if_pos hstart, if_pos hstop,
    Int64.toUInt64_sub, UInt64.toUInt64_toInt64, UInt64.toUInt64_toInt64, remaining,
    Offset.subClamped, if_pos h]

/-- A span is refused for its bounds exactly if it is reversed or runs past the end, and the refusal names
the span and the length. -/
theorem substring_eq_badSpan_iff {s asked : Span} {n : Offset} :
    (c.substring s).value = .error (.badSpan asked n) ↔
      (s.stop < s.start ∨ c.length < s.stop) ∧ asked = s ∧ n = c.length := by
  rw [substring_value]
  split
  · next h =>
    constructor
    · intro hrefused
      cases hrefused
      exact ⟨h, rfl, rfl⟩
    · rintro ⟨_, rfl, rfl⟩
      rfl
  · next h =>
    refine iff_of_false ?_ fun hbounds => h hbounds.1
    cases c.source.slice? s.start s.stop with
    | some text => exact nofun
    | none => exact nofun

theorem exists_badSpan_iff {s : Span} :
    (∃ asked n, (c.substring s).value = .error (.badSpan asked n)) ↔
      s.stop < s.start ∨ c.length < s.stop := by
  simp only [substring_eq_badSpan_iff, exists_and_left, exists_eq, and_true]

private theorem exists_badSpan_iff_of_le {s : Span} (h : s.stop ≤ c.length) :
    (∃ asked n, (c.substring s).value = .error (.badSpan asked n)) ↔ s.stop < s.start := by
  rw [exists_badSpan_iff, or_iff_left (UInt64.not_lt.mpr h)]

private theorem not_badSpan_of_start_eq_zero {s : Span} (hstart : s.start = 0) (h : s.stop ≤ c.length) :
    ¬ ∃ asked n, (c.substring s).value = .error (.badSpan asked n) := by
  rw [exists_badSpan_iff_of_le h, hstart, UInt64.not_lt]
  exact UInt64.zero_le

/-! ### Operations that look where they go -/

private theorem position_advanceBy_le {n : Nat} (h : c.position ≤ c.length) (hn : n ≤ c.unread.length) :
    (c.advanceBy (UInt64.ofNat n)).position ≤ c.length := by
  have hposition := toNat_position_advanceBy hn
  rw [UInt64.le_iff_toNat_le] at h ⊢
  rw [length_unread] at hn
  omega

private theorem position_pastByte_le (h : c.position ≤ c.length) : c.pastByte.position ≤ c.length := by
  cases hb : c.source.byte? c.position with
  | none =>
    rw [pastByte_of_none hb]
    exact h
  | some b =>
    obtain ⟨rest, hrest⟩ := unread_eq_cons hb
    rw [pastByte_of_some hb]
    exact position_advanceBy_le (n := 1) h (by simp [hrest])

private theorem position_iterate_pastByte_le (h : c.position ≤ c.length) (n : Nat) :
    (pastByte^[n] c).position ≤ c.length := by
  induction n generalizing c with
  | zero => exact h
  | succ n ih =>
    have hlength : c.pastByte.length = c.length :=
      congrArg Source.length c.sameText_pastByte.source
    have hnext := ih (c := c.pastByte)
    rw [hlength] at hnext
    exact hnext (position_pastByte_le h)

/-- Whether the operation may take a strict cursor out of its source, or make it another cursor. -/
def Op.isBlind : Op τ → Bool
  | advance | advanceBy _ | setStrict false | assign _ => true
  | _ => false

private theorem Op.keeps_of_not_blind {op : Op τ} (h : op.isBlind = false) : op.keeps true := by
  cases op with
  | setStrict strict =>
    cases strict with
    | false => cases h
    | true => rfl
  | assign other => cases h
  | _ => rfl

variable [ByteTest τ]

theorem position_advanceWhile_le (h : c.position ≤ c.length) (test : τ) :
    (c.advanceWhile test).2.position ≤ c.length :=
  position_advanceBy_le h (Scan.length_accepted_le test c.unread)

private theorem Op.position_after_le {op : Op τ} (hop : op.isBlind = false) (hstrict : c.strict)
    (h : c.position ≤ c.length) : (op.after c).position ≤ c.length := by
  cases op with
  | advance => cases hop
  | advanceBy n => cases hop
  | assign other => cases hop
  | advanceWhile test => exact position_advanceWhile_le h test
  | nextWhile test => exact position_advanceWhile_le h test
  | next => exact position_pastByte_le h
  | take n => exact position_iterate_pastByte_le h n
  | setPosition n =>
    simp only [after, hstrict, true_and]
    split
    · exact h
    · next haccepted => exact UInt64.not_lt.mp haccepted
  | _ => exact h

end Cursor

namespace Reader

def InBounds (r : Reader) : Prop := r.Everywhere (· ≤ r.cursor.length)

def Op.isBlind : Op τ → Bool
  | .onCursor op => op.isBlind
  | _ => false

private theorem Op.keeps_of_not_blind {op : Op τ} (h : op.isBlind = false) : op.keeps true := by
  cases op with
  | onCursor op => exact Cursor.Op.keeps_of_not_blind h
  | _ => rfl

variable [ByteTest τ]

private theorem inBounds_step {r : Reader} {op : Op τ} {t : Traced (Reply τ × Reader)}
    (hstrict : r.cursor.strict) (hr : r.InBounds) (hop : op.isBlind = false)
    (h : r.step op = some t) : t.value.2.cursor.strict ∧ t.value.2.InBounds := by
  have hsame : r.cursor.SameText t.value.2.cursor :=
    sameText_step (by rw [hstrict]; exact op.keeps_of_not_blind hop) h
  have hlength : t.value.2.cursor.length = r.cursor.length := congrArg Source.length hsame.source
  refine ⟨hsame.strict.trans hstrict, ?_⟩
  rw [InBounds, hlength]
  apply hr.step h
  rintro o rfl
  exact Cursor.Op.position_after_le hop hstrict hr.position

/-- From inside its source, without open marks, a strict cursor that is not sent blindly stays in
bounds after every step of a nested run, with all marks. So its unconsumed tail always exists, what
it consumed and the whole source are never refused for their bounds, and the text of a mark is
refused for them exactly if its span is reversed. -/
theorem strict_cursor_stays_in_bounds (c : Cursor) (strict : c.strict) (inside : c.position ≤ c.length)
    (ops : List (Op τ)) (nested : isNested 0 ops) (sighted : ∀ op ∈ ops, op.isBlind = false)
    (before : List (Op τ)) (reached : before <+: ops) :
    ∃ replies d marks events, run ⟨c, []⟩ before = some ⟨(replies, ⟨d, marks⟩), events⟩ ∧
      InBounds ⟨d, marks⟩ ∧ d.unconsumed = .ok ⟨d.remaining, d.length⟩ ∧
      (¬ ∃ asked n, (d.substring d.consumed).value = .error (.badSpan asked n)) ∧
      (¬ ∃ asked n, (d.substring d.full).value = .error (.badSpan asked n)) ∧
      ∀ m ∈ marks, (∃ asked n, (m.text d).value = .error (.badSpan asked n)) ↔
        (m.span d).stop < (m.span d).start := by
  obtain ⟨after, rfl⟩ := reached
  obtain ⟨⟨⟨replies, ⟨d, marks⟩⟩, events⟩, ht, _⟩ := exists_run_of_isNested (r := ⟨c, []⟩) nested
  have hstart : InBounds ⟨c, []⟩ := ⟨inside, nofun, nofun⟩
  obtain ⟨_, hbounds⟩ := run_preserves (P := fun s => s.cursor.strict ∧ s.InBounds)
    (fun r op t hop hr h => inBounds_step hr.1 hr.2 hop h)
    (fun op hop => sighted op (List.mem_append_left _ hop)) ⟨strict, hstart⟩ ht
  refine ⟨replies, d, marks, events, ht, hbounds, Cursor.unconsumed_of_le hbounds.position, ?_, ?_, ?_⟩
  · exact Cursor.not_badSpan_of_start_eq_zero rfl hbounds.position
  · exact Cursor.not_badSpan_of_start_eq_zero rfl (UInt64.le_refl _)
  · intro m hm
    exact Cursor.exists_badSpan_iff_of_le (hbounds.stop_span hm)

/-- A refused text, a refused target and a span that has become reversed take nothing out of bounds. -/
theorem strict_cursor_stays_in_bounds_reversed :
    let c : Cursor := ⟨⟨"aé", by decide⟩, 1, true⟩
    let ops : List (Op ByteRule) := [.mark, .onCursor (.nextWhile (.first 1)),
      .onCursor (.setPosition 9), .onMark .text, .mark, .onCursor (.take 5), .onMark .release,
      .drop, .onCursor (.setPosition 0), .onMark .commit, .onMark .text]
    c.strict ∧ c.position ≤ c.length ∧ isNested 0 ops ∧ (∀ op ∈ ops, op.isBlind = false) ∧
      ∃ replies d marks events, run ⟨c, []⟩ ops = some ⟨(replies, ⟨d, marks⟩), events⟩ ∧
        InBounds ⟨d, marks⟩ ∧ d.unconsumed = .ok ⟨d.remaining, d.length⟩ := by
  intro c ops
  have inside : c.position ≤ c.length := by decide
  have nested : isNested 0 ops := by decide
  have sighted : ∀ op ∈ ops, op.isBlind = false := by decide
  obtain ⟨replies, d, marks, events, hrun, hbounds, hunconsumed, _⟩ :=
    strict_cursor_stays_in_bounds c rfl inside ops nested sighted ops (List.prefix_refl ops)
  exact ⟨rfl, inside, nested, sighted, replies, d, marks, events, hrun, hbounds, hunconsumed⟩

end Reader

end TextCursor
