import TextCursor.ByteRule
import TextCursor.Proofs.MarkLog

/-! The log of a whole run, event by event: what each event is about, and that no other event occurs. -/
namespace TextCursor.Reader
variable {τ : Type}

/-! ### Looking ahead in single steps -/

/-- The steps that a step consists of. Looking ahead opens a mark, scans, releases the mark and reads
its text. Every other step is its only part. -/
def Op.parts : Op τ → List (Op τ)
  | .onCursor (.peekWhile test) =>
    [.mark, .onCursor (.advanceWhile test), .onMark .release, .onMark .text, .drop]
  | op => [op]

def Op.looksAhead : Op τ → Bool
  | .onCursor (.peekWhile _) => true
  | _ => false

private theorem looksAhead_of_mem_parts {op part : Op τ} (h : part ∈ op.parts) : part.looksAhead = false := by
  cases op with
  | onCursor op =>
    cases op with
    | peekWhile test =>
      simp only [Op.parts, List.mem_cons, List.not_mem_nil, or_false] at h
      rcases h with rfl | rfl | rfl | rfl | rfl
      · rfl
      · rfl
      · rfl
      · rfl
      · rfl
    | _ =>
      cases List.mem_singleton.mp h
      rfl
  | _ =>
    cases List.mem_singleton.mp h
    rfl

variable [ByteTest τ]

private theorem run_parts {r : Reader} {op : Op τ} {t : Traced (Reply τ × Reader)} (h : r.step op = some t) :
    ∃ u, r.run op.parts = some u ∧ u.value.2 = t.value.2 ∧ u.events = t.events := by
  cases outcome_of_step h with
  | onCursor c marks op =>
    cases op with
    | peekWhile test =>
      refine ⟨_, run_cons_of (step_mark c marks) (run_cons_of (step_onCursor ..)
        (run_cons_of (step_onMark ..) (run_cons_of (step_onMark ..) (run_singleton (step_drop ..))))),
        rfl, ?_⟩
      simp only [Cursor.Op.run, Mark.Op.run, Cursor.peekWhile, Traced.events_bind, Traced.events_pure,
        List.append_nil, List.nil_append]
      rfl
    | _ => exact ⟨_, run_singleton h, rfl, rfl⟩
  | _ => exact ⟨_, run_singleton h, rfl, rfl⟩

theorem run_flatMap_parts {r : Reader} {ops : List (Op τ)} {t : Account τ} (h : r.run ops = some t) :
    ∃ u, r.run (ops.flatMap Op.parts) = some u ∧ u.value.2 = t.value.2 ∧ u.events = t.events := by
  induction ops generalizing r t with
  | nil =>
    cases h
    exact ⟨_, rfl, rfl, rfl⟩
  | cons op ops ih =>
    obtain ⟨s, v, hs, hv, rfl⟩ := run_cons_eq_some h
    obtain ⟨first, hfirst, hstate, hevents⟩ := run_parts hs
    obtain ⟨rest, hrest, hlast, hlater⟩ := ih hv
    rw [← hstate] at hrest
    refine ⟨_, run_append hfirst hrest, hlast, ?_⟩
    exact congrArg₂ (· ++ ·) hevents hlater

/-! ### The order of events -/

/-- Every event about a release follows at once the one about the way back. -/
def PairsReleases (events : List Event) : Prop :=
  ∀ before span after, events = before ++ .released span :: after →
    ∃ earlier, before = earlier ++ [.reverted span.stop span.start]

omit [ByteTest τ] in
theorem PairsReleases.append {first rest : List Event} (h : PairsReleases first)
    (k : PairsReleases rest) : PairsReleases (first ++ rest) := by
  intro before span after heq
  rcases List.append_eq_append_iff.mp heq with ⟨middle, rfl, hrest⟩ | ⟨middle, hfirst, hlast⟩
  · obtain ⟨earlier, rfl⟩ := k middle span after hrest
    exact ⟨first ++ earlier, (List.append_assoc ..).symm⟩
  · cases middle with
    | nil =>
      obtain ⟨earlier, hnil⟩ := k [] span after hlast.symm
      cases earlier with
      | _ => cases hnil
    | cons e middle =>
      cases hlast
      exact h before span middle hfirst

omit [ByteTest τ] in
private theorem pairsReleases_of_notMem {events : List Event} (h : ∀ span, .released span ∉ events) :
    PairsReleases events := by
  rintro before span after rfl
  exact absurd (List.mem_append_right before List.mem_cons_self) (h span)

private theorem pairsReleases_nil : PairsReleases [] :=
  pairsReleases_of_notMem fun _ => List.not_mem_nil

private theorem pairsReleases_pair (undone anchor : Offset) :
    PairsReleases [.reverted undone anchor, .released ⟨anchor, undone⟩] := by
  intro before span after heq
  match before with
  | [] => cases heq
  | [first] =>
    cases heq
    exact ⟨[], rfl⟩
  | first :: second :: before =>
    have hlength := congrArg List.length heq
    simp at hlength

private theorem pairsReleases_trace (op : Op τ) (r : Reader) : PairsReleases (op.trace r) := by
  obtain ⟨c, marks⟩ := r
  cases op with
  | onCursor op =>
    cases op with
    | peekWhile test => exact pairsReleases_pair _ _
    | _ => exact pairsReleases_nil
  | onMark op =>
    cases marks with
    | nil => exact pairsReleases_nil
    | cons m outer =>
      cases op with
      | release =>
        show PairsReleases (if m.isResolved then [] else _)
        split
        · exact pairsReleases_nil
        · exact pairsReleases_pair _ _
      | commit =>
        show PairsReleases (if m.isResolved then [] else _)
        split
        · exact pairsReleases_nil
        · exact pairsReleases_of_notMem fun span h => by cases List.mem_singleton.mp h
      | revert => exact pairsReleases_of_notMem fun span h => by cases List.mem_singleton.mp h
      | _ => exact pairsReleases_nil
  | _ => exact pairsReleases_nil

private theorem pairsReleases_step {r : Reader} {op : Op τ} {t : Traced (Reply τ × Reader)}
    (h : r.step op = some t) : PairsReleases t.events := by
  rw [step_events h]
  refine (pairsReleases_trace op r).append (pairsReleases_of_notMem fun span hspan => ?_)
  cases level_due hspan

theorem pairsReleases_run {r : Reader} {ops : List (Op τ)} {t : Account τ} (h : r.run ops = some t) :
    PairsReleases t.events :=
  events_of_run pairsReleases_nil (fun _ _ => .append) (fun _ _ _ => pairsReleases_step) h

/-! ### What events are about -/

private theorem level_ne_warn_of_run {r : Reader} {ops : List (Op τ)} {t : Account τ}
    (h : r.run ops = some t) : ∀ event ∈ t.events, event.level ≠ .warn := by
  refine events_of_run (P := fun events => ∀ event ∈ events, event.level ≠ .warn) ?_ ?_ ?_ h
  · exact List.forall_mem_nil _
  · intro first rest hfirst hrest
    exact List.forall_mem_append.mpr ⟨hfirst, hrest⟩
  · intro r op t hstep
    exact level_ne_warn_of_step hstep

private theorem depth?_of_run {r : Reader} {ops : List (Op τ)} {t : Account τ} (h : r.run ops = some t) :
    depth? r.marks.length ops = some t.value.2.marks.length := by
  induction ops generalizing r t with
  | nil =>
    cases h
    rfl
  | cons op ops ih =>
    obtain ⟨s, u, hs, hu, rfl⟩ := run_cons_eq_some h
    have hdepth : op.depth? r.marks.length = some s.value.2.marks.length := by
      cases outcome_of_step hs with
      | _ => rfl
    rw [depth?, hdepth]
    exact ih (t := u) hu

private theorem exists_onMark_of_trace {r : Reader} {op : Op τ} {t : Traced (Reply τ × Reader)}
    (h : r.step op = some t) (hop : op.looksAhead = false) {event : Event} (hevent : event ∈ t.events)
    (hlevel : event.level = .trace) : ∃ o, op = .onMark o ∧ 0 < r.marks.length := by
  have htrace : event ∈ op.trace r := by
    rw [← step_trace h]
    exact List.mem_filter.mpr ⟨hevent, decide_eq_true hlevel⟩
  cases outcome_of_step h with
  | onCursor c marks op =>
    cases op with
    | peekWhile test => cases hop
    | _ => cases htrace
  | mark c marks => cases htrace
  | drop c m outer => cases htrace
  | onMark c m outer op => exact ⟨op, rfl, Nat.succ_pos _⟩

/-- How the events of a run account for what it did. The run starts on a cursor without open marks. -/
structure ExactLog (c : Cursor) (ops : List (Op τ)) (t : Account τ) : Prop where
  /-- The errors that are reported at all are reported once, in the order of the replies and with the
  numbers of the error. -/
  errors : t.events.filter (·.level = .debug) =
    (t.value.1.filterMap Reply.error?).filterMap AccessError.report?
  /-- A step reports its own error and no other. -/
  error : ∀ before op after s u, ops = before ++ op :: after → run ⟨c, []⟩ before = some s →
    s.value.2.step op = some u →
      u.events.filter (·.level = .debug) = AccessError.due u.value.1.error?
  /-- Nothing else is reported but what was done to marks. -/
  warnings : ∀ event ∈ t.events, event.level ≠ .warn
  releases : PairsReleases t.events
  /-- Looking ahead reports what its parts report. -/
  unfolded : ∃ u, run ⟨c, []⟩ (ops.flatMap Op.parts) = some u ∧ u.value.2 = t.value.2 ∧
    u.events = t.events
  /-- From the step that opens a mark as long as the mark is open, its visits add up. -/
  marks : ∀ before during after s d, ops.flatMap Op.parts = before ++ .mark :: during ++ after →
    depth? 0 during = some d → run ⟨c, []⟩ before = some s →
      Tally s.value.2.cursor.position
        (visits ⟨s.value.2.cursor, s.value.2.cursor.mark :: s.value.2.marks⟩ 0 during)
  /-- Whatever is reported about marks belongs to a visit to one of them. -/
  others : ∀ before op after s u, ops.flatMap Op.parts = before ++ op :: after →
    run ⟨c, []⟩ before = some s → s.value.2.step op = some u → ∀ event ∈ u.events,
      event.level = .trace → ∃ o earlier during, op = .onMark o ∧
        before = earlier ++ .mark :: during ∧ depth? 0 during = some 0

end TextCursor.Reader
