import TextCursor.ByteRule
import TextCursor.Proofs.Consumption
import TextCursor.Proofs.Runs

/-! A step that fails leaves the reader as it was. The one exception is a scan whose text is refused:
it has moved past what it accepted, and changed nothing else. -/
namespace TextCursor
variable {τ : Type} [ByteTest τ]

namespace Cursor

private theorem pastByte_eq_of_error {c : Cursor} {e : AccessError} (h : c.next.value.1 = .error e) :
    c.pastByte = c := by
  rw [next_result, peek_error_iff] at h
  exact pastByte_of_none h.1

/-- Whether the operation moves the cursor before it reads a text. -/
def Op.movesFirst : Op τ → Bool
  | nextWhile _ => true
  | _ => false

private theorem Op.after_eq_of_error {op : Op τ} {c : Cursor} {e : AccessError}
    (h : (op.run c).value.1.result = .error e) (hop : op.movesFirst = false) : op.after c = c := by
  cases op with
  | advance => cases h
  | advanceBy n => cases h
  | advanceWhile test => cases h
  | take n => cases h
  | setStrict strict => cases h
  | assign other => cases h
  | nextWhile test => cases hop
  | next =>
    rw [run_next_reply] at h
    cases hnext : c.next.value.1 with
    | ok b =>
      rw [hnext] at h
      cases h
    | error e => exact pastByte_eq_of_error hnext
  | setPosition n =>
    cases hset : (c.setPosition n).value.1 with
    | ok p =>
      have hok : ((Op.setPosition n : Op τ).run c).value.1.result = .ok (.offset p) :=
        congrArg (Except.map Answer.offset) hset
      rw [hok] at h
      cases h
    | error e => exact if_pos (setPosition_error_iff.mp hset).1
  | _ => rfl

end Cursor

namespace Mark

private theorem Op.eq_text_of_error {op : Op} {m : Mark} {c : Cursor} {e : AccessError}
    (h : (op.run m c).value.1 = .error e) : op = .text := by
  cases op with
  | text => rfl
  | _ => cases h

end Mark

namespace Reader

def Op.movesFirst : Op τ → Bool
  | .onCursor op => op.movesFirst
  | _ => false

private theorem step_eq_of_error {r : Reader} {op : Op τ} {t : Traced (Reply τ × Reader)} {e : AccessError}
    (h : r.step op = some t) (failed : t.value.1.result = .error e) (hop : op.movesFirst = false) :
    t.value.2 = r := by
  cases outcome_of_step h with
  | onCursor c marks op => rw [Cursor.Op.after_eq_of_error failed hop]
  | mark c marks => cases failed
  | drop c m outer => cases failed
  | onMark c m outer op =>
    cases Mark.Op.eq_text_of_error failed
    rfl

/-- A failing step leaves source, position, strictness and all marks as they were, unless it moves
before it reads. Such a scan goes where the same scan without a text goes, and nothing else about
the reader is different. It has moved exactly if it accepted something. -/
theorem failure_changes_at_most_a_scanned_position (r : Reader) (op : Op τ)
    (t : Traced (Reply τ × Reader)) (made : r.step op = some t) (e : AccessError)
    (failed : t.value.1.result = .error e) :
    (t.value.2 = r ∨ ∃ test, op = .onCursor (.nextWhile test)) ∧
      ∀ test, op = .onCursor (.nextWhile test) →
        (∃ u, r.step (.onCursor (.advanceWhile test)) = some u ∧ t.value.2 = u.value.2) ∧
        t.value.2 = ⟨{ r.cursor with position := t.value.2.cursor.position }, r.marks⟩ ∧
        (t.value.2 = r ↔ (r.cursor.advanceWhile test).1.accepted = []) := by
  constructor
  · cases hop : op.movesFirst with
    | false => exact .inl (step_eq_of_error made failed hop)
    | true =>
      cases op with
      | onCursor op =>
        cases op with
        | nextWhile test => exact .inr ⟨test, rfl⟩
        | _ => cases hop
      | _ => cases hop
  · rintro test rfl
    obtain ⟨c, marks⟩ := r
    rw [step_onCursor] at made
    cases made
    refine ⟨⟨_, step_onCursor c marks (.advanceWhile test), rfl⟩, rfl, ?_⟩
    rw [← c.advanceWhile_eq_self_iff test]
    constructor
    · intro h
      exact congrArg Reader.cursor h
    · intro h
      exact congrArg (Reader.mk · marks) h

/-- A scan into the middle of é fails and has moved. Looking ahead fails in the same way without
having moved. -/
theorem failure_changes_at_most_a_scanned_position_inside_character :
    let r : Reader := ⟨⟨⟨"é", by decide⟩, 0, true⟩, [⟨0, none⟩]⟩
    (∃ t, r.step (.onCursor (.nextWhile (.first 1)) : Op ByteRule) = some t ∧
      t.value.1.result = .error (.splitCharacter 1) ∧ t.value.2 ≠ r ∧
      t.value.2 = ⟨{ r.cursor with position := t.value.2.cursor.position }, r.marks⟩) ∧
    ∃ t, r.step (.onCursor (.peekWhile (.first 1)) : Op ByteRule) = some t ∧
      t.value.1.result = .error (.splitCharacter 1) ∧ t.value.2 = r := by
  intro r
  constructor
  · have failed : (r.step (.onCursor (.nextWhile (.first 1)) : Op ByteRule)).map
        (·.value.1.result) = some (.error (.splitCharacter 1)) := rfl
    obtain ⟨t, made, failed⟩ := Option.map_eq_some_iff.mp failed
    obtain ⟨_, hscan⟩ := failure_changes_at_most_a_scanned_position r _ t made _ failed
    obtain ⟨_, honly, hmoved⟩ := hscan _ rfl
    refine ⟨t, made, failed, ?_, honly⟩
    rw [ne_eq, hmoved]
    decide +kernel
  · have failed : (r.step (.onCursor (.peekWhile (.first 1)) : Op ByteRule)).map
        (·.value.1.result) = some (.error (.splitCharacter 1)) := rfl
    obtain ⟨t, made, failed⟩ := Option.map_eq_some_iff.mp failed
    obtain ⟨hstill, _⟩ := failure_changes_at_most_a_scanned_position r _ t made _ failed
    rcases hstill with hstill | ⟨test, hop⟩
    · exact ⟨t, made, failed, hstill⟩
    · cases hop

end Reader

end TextCursor
