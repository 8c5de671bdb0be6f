import Mathlib.Logic.Function.Iterate
import TextCursor.Reader

/-! Where each operation leaves the cursor and the mark it works on, whether it succeeds or not. -/
namespace TextCursor

/-- The cursor d reads the text of c with the same strictness. Only the positions may differ. -/
structure Cursor.SameText (c d : Cursor) : Prop where
  source : d.source = c.source
  strict : d.strict = c.strict

namespace Cursor.SameText
variable {c d e : Cursor}

theorem refl (c : Cursor) : c.SameText c := ⟨rfl, rfl⟩

theorem trans (h : c.SameText d) (k : d.SameText e) : c.SameText e :=
  ⟨k.source.trans h.source, k.strict.trans h.strict⟩

theorem symm (h : c.SameText d) : d.SameText c := ⟨h.source.symm, h.strict.symm⟩

/-- Setting the position back to that of c undoes all difference. -/
theorem restore_eq (h : c.SameText d) : { d with position := c.position } = c := by
  obtain ⟨hs, ht⟩ := h
  rw [hs, ht]

theorem eq_of_position (h : c.SameText d) (hp : d.position.toNat = c.position.toNat) : d = c := by
  rw [← h.restore_eq, ← UInt64.toNat_inj.mp hp]

end Cursor.SameText

theorem Offset.shift?_zero (p : Offset) : p.shift? 0 = some p := by
  rw [Offset.shift?_eq_some_iff, Int64.toInt_zero, Int.add_zero]

namespace Cursor

private theorem refuse_value (c : Cursor) (offset : Displacement) :
    (c.refuse offset).value = .outside offset c.length := rfl

/-- Slicing depends on the source alone, not on where the cursor is. -/
theorem substring_congr {c d : Cursor} (h : c.source = d.source) (s : Span) :
    c.substring s = d.substring s := by
  obtain ⟨source, p, strict⟩ := c
  cases h
  rfl

/-- The bounds decide first, then the boundaries, the start before the stop. -/
theorem substring_value (c : Cursor) (s : Span) : (c.substring s).value =
    if s.stop < s.start ∨ c.length < s.stop then .error (.badSpan s c.length)
    else match c.source.slice? s.start s.stop with
      | some text => .ok text
      | none => .error (.splitCharacter (if c.source.IsBoundary s.start then s.stop else s.start)) := by
  unfold substring
  split
  · rfl
  · cases c.source.slice? s.start s.stop with
    | some text => rfl
    | none => rfl

theorem peekAt_value (c : Cursor) (k : Displacement) :
    (c.peekAt k).value = match (c.position.shift? k).bind c.source.byte? with
      | some b => .ok b
      | none => .error (.outside (c.position.target k) c.length) := by
  unfold peekAt
  cases (c.position.shift? k).bind c.source.byte? with
  | some b => rfl
  | none => simp only [Traced.value_bind, Traced.value_pure, refuse_value]

theorem peek_value (c : Cursor) :
    c.peek.value = match c.source.byte? c.position with
      | some b => .ok b
      | none => .error (.outside (c.position.target 0) c.length) := by
  have h := peekAt_value c 0
  rw [Offset.shift?_zero, Option.bind_some] at h
  exact h

-- The steps below take the outcome of a read as a variable, so that no proof computes with the
-- bound on words inside it.

theorem next_of_peek {c : Cursor} {x : Traced (Except AccessError UInt8)} (h : c.peek = x) :
    c.next = ⟨match x.value with
      | .ok b => (.ok b, c.advance)
      | .error e => (.error e, c), x.events⟩ := by
  obtain ⟨result, events⟩ := x
  rw [next, h]
  cases result with
  | ok b => exact congrArg (Traced.mk _) (List.append_nil events)
  | error e => exact congrArg (Traced.mk _) (List.append_nil events)

theorem take_of_next {c : Cursor} {x : Traced (Except AccessError UInt8 × Cursor)} (h : c.next = x)
    (n : Nat) : c.take (n + 1) = match x.value.1 with
      | .ok b =>
        ⟨(⟨b :: (x.value.2.take n).value.1.bytes, (x.value.2.take n).value.1.failure⟩,
          (x.value.2.take n).value.2), x.events ++ (x.value.2.take n).events⟩
      | .error e => ⟨(⟨[], some e⟩, x.value.2), x.events⟩ := by
  obtain ⟨⟨result, d⟩, events⟩ := x
  rw [take, h]
  cases result with
  | ok b => exact congrArg (fun later => Traced.mk _ (events ++ later)) (List.append_nil _)
  | error e => exact congrArg (Traced.mk _) (List.append_nil events)

theorem next_value (c : Cursor) :
    c.next.value = match c.source.byte? c.position with
      | some b => (.ok b, c.advance)
      | none => (.error (.outside (c.position.target 0) c.length), c) := by
  rw [congrArg Traced.value (next_of_peek rfl), peek_value]
  cases c.source.byte? c.position with
  | some b => rfl
  | none => rfl

/-- Taking a byte and looking at it have the same outcome. -/
theorem next_result (c : Cursor) : c.next.value.1 = c.peek.value := by
  rw [next_value, peek_value]
  cases c.source.byte? c.position with
  | some b => rfl
  | none => rfl

theorem setPosition_value (c : Cursor) (n : Offset) :
    (c.setPosition n).value =
      if c.strict ∧ c.length < n then (.error (.outside n.wrapped c.length), c)
      else (.ok c.position, { c with position := n }) := by
  unfold setPosition
  split
  · rfl
  · rfl

section
variable {c : Cursor} {b : UInt8} {e : AccessError}

theorem peek_ok_iff : c.peek.value = .ok b ↔ c.source.byte? c.position = some b := by
  rw [peek_value]
  cases c.source.byte? c.position with
  | some first => simp
  | none => simp

theorem peekAt_error_iff {k : Displacement} : (c.peekAt k).value = .error e ↔
    (c.position.shift? k).bind c.source.byte? = none ∧
      e = .outside (c.position.target k) c.length := by
  rw [peekAt_value]
  cases (c.position.shift? k).bind c.source.byte? with
  | some b => simp
  | none => simp [eq_comm]

theorem peek_error_iff : c.peek.value = .error e ↔
    c.source.byte? c.position = none ∧ e = .outside (c.position.target 0) c.length := by
  rw [peek_value]
  cases c.source.byte? c.position with
  | some b => simp
  | none => simp [eq_comm]

theorem setPosition_error_iff {n : Offset} : (c.setPosition n).value.1 = .error e ↔
    (c.strict ∧ c.length < n) ∧ e = .outside n.wrapped c.length := by
  rw [setPosition_value]
  split
  · next h => simp [h, eq_comm]
  · next h => simp [h]

end

/-- The cursor past the byte under it, or the same cursor if there is none. -/
def pastByte (c : Cursor) : Cursor := if (c.source.byte? c.position).isSome then c.advance else c

theorem pastByte_of_some {c : Cursor} {b : UInt8} (h : c.source.byte? c.position = some b) :
    c.pastByte = c.advance := by
  rw [pastByte, h]
  rfl

theorem pastByte_of_none {c : Cursor} (h : c.source.byte? c.position = none) : c.pastByte = c := by
  rw [pastByte, h]
  rfl

theorem next_cursor (c : Cursor) : c.next.value.2 = c.pastByte := by
  rw [next_value, pastByte]
  cases c.source.byte? c.position with
  | some b => rfl
  | none => rfl

/-- Once a byte is missing, further reading moves nothing, so the early end does not show. -/
theorem take_cursor (c : Cursor) (n : Nat) : (c.take n).value.2 = pastByte^[n] c := by
  induction n generalizing c with
  | zero => rfl
  | succ n ih =>
    rw [take_of_next rfl, next_value, Function.iterate_succ_apply]
    cases h : c.source.byte? c.position with
    | some b =>
      rw [pastByte_of_some h]
      exact ih c.advance
    | none =>
      rw [pastByte_of_none h]
      exact (Function.iterate_fixed (pastByte_of_none h) n).symm

variable {τ : Type} [ByteTest τ]

def Op.after : Op τ → Cursor → Cursor
  | advance, c => c.advance
  | advanceBy n, c => c.advanceBy n
  | advanceWhile test, c | nextWhile test, c => (c.advanceWhile test).2
  | next, c => c.pastByte
  | take n, c => pastByte^[n] c
  | setPosition n, c => if c.strict ∧ c.length < n then c else { c with position := n }
  | setStrict strict, c => { c with strict }
  | assign other, _ => other
  | _, c => c

theorem Op.run_next_of_next {c : Cursor} {x : Traced (Except AccessError UInt8 × Cursor)}
    (h : c.next = x) : ((Op.next : Op τ).run c).value.1 = .ofExcept .byte x.value.1 ∧
      ((Op.next : Op τ).run c).value.2 = x.value.2 ∧ ((Op.next : Op τ).run c).events = x.events := by
  rw [Op.run, h]
  exact ⟨rfl, rfl, List.append_nil x.events⟩

theorem Op.run_next_reply (c : Cursor) :
    ((Op.next : Op τ).run c).value.1 = .ofExcept .byte c.next.value.1 := (run_next_of_next rfl).1

theorem Op.run_cursor (op : Op τ) (c : Cursor) : (op.run c).value.2 = op.after c := by
  cases op with
  | next => exact (run_next_of_next rfl).2.1.trans c.next_cursor
  | take n => exact c.take_cursor n
  | setPosition n =>
    have h : (c.setPosition n).value.2 =
        if c.strict ∧ c.length < n then c else { c with position := n } := by
      rw [setPosition_value]
      split
      · rfl
      · rfl
    exact h
  | _ => rfl

/-- Whether the operation neither overwrites the cursor nor makes its strictness another one. -/
def Op.keeps (strict : Bool) : Op τ → Bool
  | .setStrict new => new == strict
  | .assign _ => false
  | _ => true

theorem sameText_pastByte (c : Cursor) : c.SameText c.pastByte := by
  unfold pastByte
  split
  · exact ⟨rfl, rfl⟩
  · exact .refl c

theorem sameText_iterate_pastByte (c : Cursor) (n : Nat) : c.SameText (pastByte^[n] c) := by
  induction n generalizing c with
  | zero => exact .refl c
  | succ n ih => exact c.sameText_pastByte.trans (ih c.pastByte)

theorem Op.sameText_after {op : Op τ} {c : Cursor} (h : op.keeps c.strict) :
    c.SameText (op.after c) := by
  cases op with
  | next => exact c.sameText_pastByte
  | take n => exact c.sameText_iterate_pastByte n
  | setPosition n =>
    simp only [after]
    split
    · exact .refl c
    · exact ⟨rfl, rfl⟩
  | setStrict strict => exact ⟨rfl, eq_of_beq h⟩
  | assign other => simp [keeps] at h
  | _ => exact ⟨rfl, rfl⟩

end Cursor

namespace Mark

def settledAt (m : Mark) (p : Offset) : Mark := { m with stop? := m.stop?.or (some p) }

def back (m : Mark) (c : Cursor) : Cursor := { c with position := m.anchor }

theorem commit_value (m : Mark) (c : Cursor) :
    (m.commit c).value = ((m.settledAt c.position).span c, m.settledAt c.position) := by
  obtain ⟨anchor, stop?⟩ := m
  cases stop? with
  | none => rfl
  | some stop => rfl

theorem release_value (m : Mark) (c : Cursor) :
    (m.release c).value = ((m.settledAt c.position).span c, m.settledAt c.position,
      if m.isResolved then c else m.back c) := by
  obtain ⟨anchor, stop?⟩ := m
  cases stop? with
  | none => rfl
  | some stop => rfl

def Op.resolves : Op → Bool
  | commit | release => true
  | _ => false

def Op.markAfter (op : Op) (m : Mark) (c : Cursor) : Mark :=
  if op.resolves then m.settledAt c.position else m

def Op.cursorAfter : Op → Mark → Cursor → Cursor
  | revert, m, c => m.back c
  | release, m, c => if m.isResolved then c else m.back c
  | _, _, c => c

theorem Op.run_mark (op : Op) (m : Mark) (c : Cursor) :
    (op.run m c).value.2.1 = op.markAfter m c := by
  cases op with
  | commit => exact congrArg Prod.snd (m.commit_value c)
  | release => exact congrArg (·.2.1) (m.release_value c)
  | _ => rfl

theorem Op.run_cursor (op : Op) (m : Mark) (c : Cursor) :
    (op.run m c).value.2.2 = op.cursorAfter m c := by
  cases op with
  | release => exact congrArg (·.2.2) (m.release_value c)
  | _ => rfl

def Op.tellsSpan : Op → Bool
  | commit | release | span => true
  | _ => false

theorem Op.run_span {op : Op} (h : op.tellsSpan) (m : Mark) (c : Cursor) :
    (op.run m c).value.1 = .ok (.span ((op.markAfter m c).span c)) := by
  cases op with
  | commit => exact congrArg (fun v => Except.ok (Answer.span v.1)) (m.commit_value c)
  | release => exact congrArg (fun v => Except.ok (Answer.span v.1)) (m.release_value c)
  | span => rfl
  | _ => cases h

theorem Op.sameText_cursorAfter (op : Op) (m : Mark) (c : Cursor) :
    c.SameText (op.cursorAfter m c) := by
  cases op with
  | release =>
    simp only [cursorAfter]
    split
    · exact .refl c
    · exact ⟨rfl, rfl⟩
  | _ => exact ⟨rfl, rfl⟩

theorem settledAt_of_isResolved {m : Mark} (h : m.isResolved) (p : Offset) : m.settledAt p = m := by
  obtain ⟨anchor, stop?⟩ := m
  cases stop? with
  | none => cases h
  | some stop => rfl

theorem Op.anchor_markAfter (op : Op) (m : Mark) (c : Cursor) :
    (op.markAfter m c).anchor = m.anchor := by
  unfold markAfter
  split
  · rfl
  · rfl

/-- A span is frozen only where the cursor is. -/
theorem Op.stop_markAfter {op : Op} {m : Mark} {c : Cursor} {e : Offset}
    (h : (op.markAfter m c).stop? = some e) : m.stop? = some e ∨ e = c.position := by
  unfold markAfter at h
  split at h
  · rcases Option.or_eq_some_iff.mp h with h | ⟨_, h⟩
    · exact .inl h
    · exact .inr (Option.some.inj h).symm
  · exact .inl h

/-- A mark moves its cursor only to its anchor. -/
theorem Op.position_cursorAfter (op : Op) (m : Mark) (c : Cursor) :
    (op.cursorAfter m c).position = c.position ∨ (op.cursorAfter m c).position = m.anchor := by
  cases op with
  | revert => exact .inr rfl
  | release =>
    simp only [cursorAfter]
    split
    · exact .inl rfl
    · exact .inr rfl
  | _ => exact .inl rfl

end Mark

end TextCursor
