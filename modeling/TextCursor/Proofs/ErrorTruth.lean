import TextCursor.ByteRule
import TextCursor.Proofs.Arithmetic
import TextCursor.Proofs.Runs

/-! What an error says about the access it refused is so, also where the report computes an offset in
another way than the check that failed. -/
namespace TextCursor
variable {τ : Type}

def Answer.failure? : Answer → Option AccessError
  | taken t => t.failure
  | _ => none

/-- The error of a reply. Repeated reading answers also when an error ended it. -/
def Reply.error? (r : Reply τ) : Option AccessError :=
  match r.result with
  | .error e => some e
  | .ok a => a.failure?

def AccessError.of? {α : Type} : Except AccessError α → Option AccessError
  | .error e => some e
  | .ok _ => none

theorem Reply.error?_map {α : Type} (wrap : α → Answer) (result : Except AccessError α)
    (scan : Option (Scan τ)) (h : ∀ a, (wrap a).failure? = none) :
    Reply.error? ⟨result.map wrap, scan⟩ = AccessError.of? result := by
  cases result with
  | ok a => exact h a
  | error e => rfl

/-- The error is right about the source, about the span whose text was asked for and about the bounds
that a span was asked for with. -/
def AccessError.IsTrue (source : Source) (span? : Option Span) (bounds? : Option (Int × Int)) :
    AccessError → Prop
  | .outside offset length =>
    length = source.length ∧ (offset.toInt < 0 ∨ length.toNat ≤ offset.toInt)
  | .badSpan asked length =>
    span? = some asked ∧ length = source.length ∧
      (asked.stop < asked.start ∨ length < asked.stop) ∧
      (asked.stop < asked.start ∨ length < asked.start →
        (AccessError.badSpan asked length).offset = asked.start.toInt64) ∧
      (¬ (asked.stop < asked.start ∨ length < asked.start) →
        (AccessError.badSpan asked length).offset = asked.stop.toInt64 ∧ length < asked.stop)
  | .splitCharacter offset => ∃ asked, span? = some asked ∧
      0 < offset ∧ offset < source.length ∧ ¬ source.IsBoundary offset ∧
      (offset = asked.start ∨ offset = asked.stop ∧ source.IsBoundary asked.start)
  | .negative bound value => ∃ start stop, bounds? = some (start, stop) ∧ value.toInt < 0 ∧
      value.toInt = (match bound with
        | .start => start
        | .stop => stop) ∧
      (start < 0 → bound = .start)

private theorem Offset.toInt_wrapped_of_lt {n length : Offset} (h : length < n) :
    n.wrapped.toInt < 0 ∨ length.toNat ≤ n.wrapped.toInt := by
  rw [UInt64.lt_iff_toNat_lt] at h
  have hn := n.toNat_lt
  rw [toInt_wrapped]
  split
  · omega
  · omega

namespace Source
variable (s : Source)

theorem isBoundary_zero : s.IsBoundary 0 := String.Pos.Raw.isValid_zero

theorem isBoundary_length : s.IsBoundary s.length := by
  have hend : (⟨s.length.toNat⟩ : String.Pos.Raw) = s.text.rawEndPos := by
    rw [toNat_length, length_bytes]
    rfl
  rw [IsBoundary, hend]
  exact String.Pos.Raw.isValid_rawEndPos

private theorem inside_of_not_isBoundary {s : Source} {p : Offset} (h : ¬ s.IsBoundary p)
    (hp : p ≤ s.length) : 0 < p ∧ p < s.length := by
  constructor
  · rw [UInt64.pos_iff_ne_zero]
    rintro rfl
    exact h s.isBoundary_zero
  · refine UInt64.lt_of_le_of_ne hp ?_
    rintro rfl
    exact h s.isBoundary_length

private theorem outside_of_read {s : Source} {p : Offset} {k : Displacement}
    (h : (p.shift? k).bind s.byte? = none) :
    (p.toNat : Int) + k.toInt < 0 ∨ s.length.toNat ≤ (p.toNat : Int) + k.toInt := by
  rw [bind_shift?_byte?] at h
  split at h
  · rw [List.getElem?_eq_none_iff, ← toNat_length] at h
    omega
  · next hnegative => exact .inl (Int.not_le.mp hnegative)

end Source

/-! ### Errors of single accesses -/

namespace Cursor
variable {c : Cursor} {span? : Option Span} {bounds? : Option (Int × Int)} {e : AccessError}

private theorem isTrue_of_peekAt {k : Displacement} (h : (c.peekAt k).value = .error e) :
    e.IsTrue c.source span? bounds? := by
  obtain ⟨hread, rfl⟩ := peekAt_error_iff.mp h
  refine ⟨rfl, ?_⟩
  have hexact := Source.outside_of_read hread
  have hlength := c.source.toNat_length_lt
  have hlength' : c.length.toNat = c.source.length.toNat := rfl
  rw [Offset.toInt_target]
  split
  · omega
  · omega

private theorem isTrue_of_next (h : c.next.value.1 = .error e) : e.IsTrue c.source span? bounds? := by
  rw [next_result] at h
  exact isTrue_of_peekAt h

theorem failure_take (n : Nat) : (c.take (n + 1)).value.1.failure = match c.next.value.1 with
    | .ok _ => (c.pastByte.take n).value.1.failure
    | .error e => some e := by
  rw [take_of_next rfl, next_cursor]
  cases c.next.value.1 with
  | ok b => rfl
  | error e => rfl

private theorem isTrue_of_take {n : Nat} (h : (c.take n).value.1.failure = some e) :
    e.IsTrue c.source span? bounds? := by
  induction n generalizing c with
  | zero => cases h
  | succ n ih =>
    rw [failure_take] at h
    cases hnext : c.next.value.1 with
    | ok b =>
      rw [hnext] at h
      rw [← c.sameText_pastByte.source]
      exact ih h
    | error first =>
      rw [hnext] at h
      cases h
      exact isTrue_of_next hnext

private theorem isTrue_of_setPosition {n : Offset} (h : (c.setPosition n).value.1 = .error e) :
    e.IsTrue c.source span? bounds? := by
  obtain ⟨hrefused, rfl⟩ := setPosition_error_iff.mp h
  exact ⟨rfl, Offset.toInt_wrapped_of_lt hrefused.2⟩

private theorem isTrue_of_substring {s : Span} (h : (c.substring s).value = .error e) :
    e.IsTrue c.source (some s) bounds? := by
  rw [substring_value] at h
  split at h
  · next hbounds =>
    cases h
    refine ⟨rfl, rfl, hbounds, ?_, ?_⟩
    · intro hstart
      rw [AccessError.offset, if_pos hstart.symm]
      rfl
    · intro hstart
      rw [AccessError.offset, if_neg (fun h => hstart h.symm)]
      exact ⟨rfl, hbounds.resolve_left fun h => hstart (.inl h)⟩
  · next hbounds =>
    rw [not_or, UInt64.not_lt, UInt64.not_lt] at hbounds
    obtain ⟨horder, hstop⟩ := hbounds
    cases hslice : c.source.slice? s.start s.stop with
    | some text =>
      rw [hslice] at h
      cases h
    | none =>
      rw [hslice] at h
      cases h
      have hnot : ¬ (c.source.slice? s.start s.stop).isSome := by
        rw [hslice]
        exact Bool.false_ne_true
      rw [Source.slice?_isSome_iff] at hnot
      refine ⟨s, rfl, ?_⟩
      by_cases hstart : c.source.IsBoundary s.start
      · rw [if_pos hstart]
        have hsplit : ¬ c.source.IsBoundary s.stop := fun hs => hnot ⟨horder, hstart, hs⟩
        obtain ⟨hpos, hlt⟩ := Source.inside_of_not_isBoundary hsplit hstop
        exact ⟨hpos, hlt, hsplit, .inr ⟨rfl, hstart⟩⟩
      · rw [if_neg hstart]
        obtain ⟨hpos, hlt⟩ :=
          Source.inside_of_not_isBoundary hstart (UInt64.le_trans horder hstop)
        exact ⟨hpos, hlt, hstart, .inl rfl⟩

end Cursor

private theorem Span.isTrue_of_between {source : Source} {span? : Option Span} {start stop : Displacement}
    {e : AccessError} (h : Span.between start stop = .error e) :
    e.IsTrue source span? (some (start.toInt, stop.toInt)) := by
  rw [between_eq] at h
  split at h
  · next hstart =>
    split at h
    · cases h
    · next hstop =>
      cases h
      refine ⟨_, _, rfl, Int.not_le.mp hstop, rfl, fun hneg => ?_⟩
      exact absurd hneg (Int.not_lt.mpr hstart)
  · next hstart =>
    cases h
    exact ⟨_, _, rfl, Int.not_le.mp hstart, rfl, fun _ => rfl⟩

private theorem Cursor.isTrue_of_unconsumed {source : Source} {c : Cursor} {span? : Option Span}
    {e : AccessError} (h : c.unconsumed = .error e) :
    e.IsTrue source span?
      (some (c.length.toNat - min c.position.toNat 0x7FFFFFFFFFFFFFFF, c.length.toNat)) := by
  have htrue : e.IsTrue source span? _ := Span.isTrue_of_between h
  have hlength : c.length.toNat ≤ 0x7FFFFFFFFFFFFFFF := Nat.le_of_lt_succ c.source.toNat_length_lt
  rw [c.toInt_tailStart, Offset.toInt_toDisplacementClamped, Nat.min_eq_left hlength] at htrue
  exact htrue

/-! ### Errors of steps -/

namespace Cursor
variable [ByteTest τ]

def Op.span? : Op τ → Cursor → Option Span
  | substring s, _ => some s
  | nextWhile test, c | peekWhile test, c => some ⟨c.position, (c.advanceWhile test).2.position⟩
  | _, _ => none

/-- The bounds the operation asks for a span with. The position counts only up to the greatest
displacement. -/
def Op.bounds? : Op τ → Cursor → Option (Int × Int)
  | between start stop, _ => some (start.toInt, stop.toInt)
  | unconsumed, c => some (c.length.toNat - min c.position.toNat 0x7FFFFFFFFFFFFFFF, c.length.toNat)
  | _, _ => none

omit [ByteTest τ] in
private theorem error_of_map {α : Type} {wrap : α → Answer} {result : Except AccessError α}
    {scan : Option (Scan τ)} {e : AccessError} (h : Reply.error? ⟨result.map wrap, scan⟩ = some e)
    (hwrap : ∀ a, (wrap a).failure? = none) : result = .error e := by
  rw [Reply.error?_map wrap result scan hwrap] at h
  cases result with
  | ok a => cases h
  | error first => exact congrArg Except.error (Option.some.inj h)

theorem Op.isTrue_of_run {op : Op τ} {c : Cursor} {e : AccessError}
    (h : (op.run c).value.1.error? = some e) : e.IsTrue c.source (op.span? c) (op.bounds? c) := by
  cases op with
  | peek => exact isTrue_of_peekAt (k := 0) (error_of_map h fun _ => rfl)
  | peekAt k => exact isTrue_of_peekAt (error_of_map h fun _ => rfl)
  | substring s => exact isTrue_of_substring (error_of_map h fun _ => rfl)
  | next =>
    rw [run_next_reply] at h
    exact isTrue_of_next (error_of_map h fun _ => rfl)
  | take n => exact isTrue_of_take h
  | nextWhile test => exact isTrue_of_substring (error_of_map h fun _ => rfl)
  | peekWhile test => exact isTrue_of_substring (error_of_map h fun _ => rfl)
  | setPosition n => exact isTrue_of_setPosition (error_of_map h fun _ => rfl)
  | unconsumed => exact isTrue_of_unconsumed (error_of_map h fun _ => rfl)
  | between start stop => exact Span.isTrue_of_between (error_of_map h fun _ => rfl)
  | _ => cases h

end Cursor

namespace Reader
variable [ByteTest τ]

def Op.span? : Op τ → Reader → Option Span
  | .onCursor op, r => op.span? r.cursor
  | .onMark .text, r => r.marks.head?.map fun m => m.span r.cursor
  | _, _ => none

def Op.bounds? : Op τ → Reader → Option (Int × Int)
  | .onCursor op, r => op.bounds? r.cursor
  | _, _ => none

/-- An error of a step is right about the source and about what the step asked for: the length is that
of the source, an offset is outside or splits a character as it says, a span is the one asked for and
is reversed or too long, and a negative bound is the one given. -/
theorem errors_are_true (r : Reader) (op : Op τ) (t : Traced (Reply τ × Reader)) (made : r.step op = some t)
    (e : AccessError) (failed : t.value.1.error? = some e) :
    e.IsTrue r.cursor.source (op.span? r) (op.bounds? r) := by
  cases outcome_of_step made with
  | onCursor c marks op => exact Cursor.Op.isTrue_of_run failed
  | mark c marks => cases failed
  | drop c m outer => cases failed
  | onMark c m outer op =>
    cases op with
    | text => exact Cursor.isTrue_of_substring (Cursor.error_of_map failed fun _ => rfl)
    | _ => cases failed

/-- At the greatest position the tail has a start far below zero, which is named with its value. The span
of a mark there is too long, although its stop reads as a negative offset in the report. -/
theorem errors_are_true_at_greatest :
    let r : Reader := ⟨⟨⟨"aé", by decide⟩, Offset.greatest, false⟩, [⟨2, none⟩]⟩
    (∃ t, r.step (.onCursor .unconsumed : Op ByteRule) = some t ∧
      t.value.1.error? = some (.negative .start (-0x7FFFFFFFFFFFFFFC)) ∧
      AccessError.IsTrue r.cursor.source none (some (3 - 0x7FFFFFFFFFFFFFFF, 3))
        (.negative .start (-0x7FFFFFFFFFFFFFFC))) ∧
    ∃ t, r.step (.onMark .text : Op ByteRule) = some t ∧
      t.value.1.error? = some (.badSpan ⟨2, Offset.greatest⟩ 3) ∧
      (AccessError.badSpan ⟨2, Offset.greatest⟩ 3).offset = -1 ∧
      AccessError.IsTrue r.cursor.source (some ⟨2, Offset.greatest⟩) none
        (.badSpan ⟨2, Offset.greatest⟩ 3) := by
  intro r
  constructor
  · obtain ⟨t, made, failed⟩ : ∃ t, r.step (.onCursor .unconsumed : Op ByteRule) = some t ∧
        t.value.1.error? = some (.negative .start (-0x7FFFFFFFFFFFFFFC)) :=
      ⟨_, rfl, by decide +kernel⟩
    exact ⟨t, made, failed, errors_are_true r _ t made _ failed⟩
  · obtain ⟨t, made, failed⟩ : ∃ t, r.step (.onMark .text : Op ByteRule) = some t ∧
        t.value.1.error? = some (.badSpan ⟨2, Offset.greatest⟩ 3) :=
      ⟨_, rfl, by decide +kernel⟩
    exact ⟨t, made, failed, by decide, errors_are_true r _ t made _ failed⟩

end Reader

end TextCursor
