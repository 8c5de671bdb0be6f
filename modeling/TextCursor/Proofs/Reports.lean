import TextCursor.Proofs.ErrorTruth

/-! The events of a single step: what it does to marks, then the report of its error, if that is one to
report. -/
namespace TextCursor
variable {τ : Type}

/-- The event that reports a refused access. Negative bounds and split characters are not reported. -/
def AccessError.report? : AccessError → Option Event
  | .outside offset length => some (.outside offset length)
  | .badSpan asked length => some (.rejectedSpan asked length)
  | .negative .. | .splitCharacter .. => none

private theorem AccessError.level_report? {e : AccessError} {report : Event} (h : e.report? = some report) :
    report.level = .debug := by
  cases e with
  | outside offset length =>
    cases h
    rfl
  | badSpan asked length =>
    cases h
    rfl
  | _ => cases h

def AccessError.due (e? : Option AccessError) : List Event := (e?.bind report?).toList

open AccessError (due of?)

private theorem Span.due_between (start stop : Displacement) : due (of? (Span.between start stop)) = [] := by
  rw [between_eq]
  split
  · split
    · rfl
    · rfl
  · rfl

namespace Cursor
variable (c : Cursor)

private theorem peekAt_events (k : Displacement) : (c.peekAt k).events = due (of? (c.peekAt k).value) := by
  unfold peekAt
  cases (c.position.shift? k).bind c.source.byte? with
  | some b => rfl
  | none => rfl

private theorem peek_events : c.peek.events = due (of? c.peek.value) := c.peekAt_events 0

private theorem substring_events (s : Span) : (c.substring s).events = due (of? (c.substring s).value) := by
  unfold substring
  split
  · rfl
  · cases c.source.slice? s.start s.stop with
    | some text => rfl
    | none => rfl

private theorem setPosition_events (n : Offset) :
    (c.setPosition n).events = due (of? (c.setPosition n).value.1) := by
  unfold setPosition
  split
  · rfl
  · rfl

private theorem next_events : c.next.events = due (of? c.next.value.1) := by
  have hpeek := c.peek_events
  have hnext := next_of_peek (c := c) rfl
  generalize c.peek = outcome at hpeek hnext
  obtain ⟨result, events⟩ := outcome
  rw [hnext]
  cases result with
  | ok b => exact hpeek
  | error e => exact hpeek

private theorem take_events (n : Nat) : (c.take n).events = due (c.take n).value.1.failure := by
  induction n generalizing c with
  | zero => rfl
  | succ n ih =>
    rw [failure_take, take_of_next rfl, next_events, next_cursor]
    cases c.next.value.1 with
    | ok b => exact ih c.pastByte
    | error e => rfl

variable [ByteTest τ]

/-- What the operation does to marks. Looking ahead goes through a mark of its own. -/
def Op.trace : Op τ → Cursor → List Event
  | peekWhile test, c =>
    [.reverted (c.advanceWhile test).2.position c.position,
      .released ⟨c.position, (c.advanceWhile test).2.position⟩]
  | _, _ => []

private theorem nextWhile_events (test : τ) :
    (c.nextWhile test).events = due (of? (c.nextWhile test).value.text) :=
  (List.append_nil _).trans ((c.advanceWhile test).2.substring_events _)

private theorem peekWhile_events (test : τ) :
    (c.peekWhile test).events =
      Op.trace (.peekWhile test) c ++ due (of? (c.peekWhile test).value.text) := by
  have htext := (c.mark.back (c.advanceWhile test).2).substring_events
    ⟨c.position, (c.advanceWhile test).2.position⟩
  exact congrArg (Op.trace (.peekWhile test) c ++ ·) ((List.append_nil _).trans htext)

omit [ByteTest τ] in
private theorem due_of_result {α : Type} {events : List Event} {result : Except AccessError α}
    (h : events = due (of? result)) (wrap : α → Answer) (hwrap : ∀ a, (wrap a).failure? = none)
    (scan : Option (Scan τ)) : events ++ [] = due (Reply.error? ⟨result.map wrap, scan⟩) := by
  rw [Reply.error?_map wrap result scan hwrap, List.append_nil, h]

-- No outcome is compared before it is a variable, so that nothing computes with the bound on words.

private theorem run_peek_of {c : Cursor} {x : Traced (Except AccessError UInt8)} (h : c.peek = x) :
    ((Op.peek : Op τ).run c).events = x.events ++ [] ∧
      ((Op.peek : Op τ).run c).value.1 = .ofExcept .byte x.value := by
  rw [Op.run, h]
  exact ⟨rfl, rfl⟩

private theorem Op.run_events (op : Op τ) (c : Cursor) :
    (op.run c).events = op.trace c ++ due (op.run c).value.1.error? := by
  cases op with
  | peek =>
    obtain ⟨hevents, hreply⟩ := run_peek_of (τ := τ) (c := c) rfl
    rw [hevents, hreply]
    exact (due_of_result c.peek_events .byte (fun _ => rfl) none).trans (List.nil_append _).symm
  | next =>
    obtain ⟨hreply, _, hevents⟩ := run_next_of_next (τ := τ) (c := c) rfl
    have hdue := due_of_result (τ := τ) c.next_events .byte (fun _ => rfl) none
    rw [List.append_nil] at hdue
    rw [hevents, hreply]
    exact hdue.trans (List.nil_append _).symm
  | peekAt k =>
    have hpeek := c.peekAt_events k
    rw [Op.run]
    generalize c.peekAt k = outcome at hpeek ⊢
    exact due_of_result hpeek .byte (fun _ => rfl) none
  | substring s =>
    have htext := c.substring_events s
    rw [Op.run]
    generalize c.substring s = outcome at htext ⊢
    exact due_of_result htext .text (fun _ => rfl) none
  | take n =>
    have htake := c.take_events n
    rw [Op.run]
    generalize c.take n = outcome at htake ⊢
    exact (List.append_nil _).trans htake
  | nextWhile test =>
    have hlexeme := c.nextWhile_events test
    rw [Op.run]
    generalize c.nextWhile test = outcome at hlexeme ⊢
    exact due_of_result hlexeme .text (fun _ => rfl) (some outcome.value.scan)
  | peekWhile test =>
    have hlexeme := c.peekWhile_events test
    rw [Op.run]
    generalize c.peekWhile test = outcome at hlexeme ⊢
    rw [Traced.events_bind, hlexeme, List.append_assoc]
    exact congrArg (_ ++ ·) (due_of_result rfl .text (fun _ => rfl) (some outcome.value.scan))
  | setPosition n =>
    have hset := c.setPosition_events n
    rw [Op.run]
    generalize c.setPosition n = outcome at hset ⊢
    exact due_of_result hset .offset (fun _ => rfl) none
  | unconsumed => exact due_of_result (Span.due_between _ _).symm .span (fun _ => rfl) none
  | between start stop =>
    exact due_of_result (Span.due_between start stop).symm .span (fun _ => rfl) none
  | _ => rfl

end Cursor

namespace Mark

/-- What the operation does to the mark. Only the first commit or release does anything to it. -/
def Op.trace : Op → Mark → Cursor → List Event
  | revert, m, c => [.reverted c.position m.anchor]
  | commit, m, c => if m.isResolved then [] else [.committed ⟨m.anchor, c.position⟩]
  | release, m, c =>
    if m.isResolved then []
    else [.reverted c.position m.anchor, .released ⟨m.anchor, c.position⟩]
  | _, _, _ => []

private theorem Op.run_events (op : Op) (m : Mark) (c : Cursor) : (op.run m c).events =
    op.trace m c ++ due (Reply.error? { result := (op.run m c).value.1 : Reply τ }) := by
  obtain ⟨anchor, stop?⟩ := m
  cases op with
  | text =>
    have htext := c.substring_events ⟨anchor, stop?.getD c.position⟩
    exact Cursor.due_of_result htext .text (fun _ => rfl) none
  | commit =>
    cases stop? with
    | none => rfl
    | some stop => rfl
  | release =>
    cases stop? with
    | none => rfl
    | some stop => rfl
  | _ => rfl

private theorem Op.level_trace {op : Op} {m : Mark} {c : Cursor} {event : Event} (h : event ∈ op.trace m c) :
    event.level = .trace := by
  cases op with
  | revert =>
    cases List.mem_singleton.mp h
    rfl
  | commit =>
    rw [trace] at h
    split at h
    · cases h
    · cases List.mem_singleton.mp h
      rfl
  | release =>
    rw [trace] at h
    split at h
    · cases h
    · rcases List.mem_cons.mp h with rfl | h
      · rfl
      · cases List.mem_singleton.mp h
        rfl
  | _ => cases h

end Mark

namespace Reader
variable [ByteTest τ]

def Op.trace : Op τ → Reader → List Event
  | .onCursor op, r => op.trace r.cursor
  | .onMark op, ⟨c, m :: _⟩ => op.trace m c
  | _, _ => []

/-- A step reports what it does to marks, then its error if that is one to report, and nothing else. -/
theorem step_events {r : Reader} {op : Op τ} {t : Traced (Reply τ × Reader)} (h : r.step op = some t) :
    t.events = op.trace r ++ due t.value.1.error? := by
  cases outcome_of_step h with
  | onCursor c marks op => exact op.run_events c
  | mark c marks => rfl
  | drop c m outer => rfl
  | onMark c m outer op => exact op.run_events m c

private theorem level_trace {r : Reader} {op : Op τ} {event : Event} (h : event ∈ op.trace r) :
    event.level = .trace := by
  cases op with
  | onCursor op =>
    cases op with
    | peekWhile test =>
      rcases List.mem_cons.mp h with rfl | h
      · rfl
      · cases List.mem_singleton.mp h
        rfl
    | _ => cases h
  | onMark op =>
    obtain ⟨c, marks⟩ := r
    cases marks with
    | nil => cases h
    | cons m outer => exact op.level_trace h
  | _ => cases h

theorem level_due {e? : Option AccessError} {event : Event} (h : event ∈ due e?) :
    event.level = .debug := by
  rw [due, Option.mem_toList, Option.bind_eq_some_iff] at h
  obtain ⟨e, _, he⟩ := h
  exact AccessError.level_report? he

/-- What a step reports about errors is exactly the report of its own error. -/
theorem step_debug {r : Reader} {op : Op τ} {t : Traced (Reply τ × Reader)} (h : r.step op = some t) :
    t.events.filter (·.level = .debug) = due t.value.1.error? := by
  rw [step_events h, List.filter_append, List.filter_eq_nil_iff.mpr, List.nil_append,
    List.filter_eq_self.mpr]
  · intro event hevent
    exact decide_eq_true (level_due hevent)
  · intro event hevent
    rw [level_trace hevent]
    decide

theorem step_trace {r : Reader} {op : Op τ} {t : Traced (Reply τ × Reader)} (h : r.step op = some t) :
    t.events.filter (·.level = .trace) = op.trace r := by
  rw [step_events h, List.filter_append, List.filter_eq_self.mpr, List.filter_eq_nil_iff.mpr,
    List.append_nil]
  · intro event hevent
    rw [level_due hevent]
    decide
  · intro event hevent
    exact decide_eq_true (level_trace hevent)

theorem level_ne_warn_of_step {r : Reader} {op : Op τ} {t : Traced (Reply τ × Reader)}
    (h : r.step op = some t) : ∀ event ∈ t.events, event.level ≠ .warn := by
  intro event hevent
  rw [step_events h] at hevent
  rcases List.mem_append.mp hevent with htrace | hdue
  · rw [level_trace htrace]
    decide
  · rw [level_due hdue]
    decide

/-- The errors that a run reports are those of its replies, in their order. -/
theorem run_debug {r : Reader} {ops : List (Op τ)} {t : Account τ} (h : r.run ops = some t) :
    t.events.filter (·.level = .debug) =
      (t.value.1.filterMap Reply.error?).filterMap AccessError.report? := by
  induction ops generalizing r t with
  | nil =>
    cases h
    rfl
  | cons op ops ih =>
    obtain ⟨s, u, hs, hu, rfl⟩ := run_cons_eq_some h
    rw [List.filter_append, step_debug hs, ih hu, List.filterMap_cons]
    cases s.value.1.error? with
    | none => rfl
    | some e =>
      rw [List.filterMap_cons, due, Option.bind_some]
      cases e.report? with
      | none => rfl
      | some report => rfl

end Reader

end TextCursor
