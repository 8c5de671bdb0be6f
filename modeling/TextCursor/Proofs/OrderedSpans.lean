import TextCursor.ByteRule
import TextCursor.Proofs.Consumption
import TextCursor.Proofs.Runs

/-! Spans of open marks never come out reversed, as long as the cursor is not overwritten and no
position is set before the innermost open mark. Every other way back leads to an anchor. -/
namespace TextCursor
variable {τ : Type}

private theorem Offset.le_addClamped (p n : Offset) : p ≤ p.addClamped n := by
  have hp := p.toNat_lt
  rw [UInt64.le_iff_toNat_le, Offset.toNat_addClamped]
  omega

namespace Cursor

def Op.places : Op τ → Bool
  | setPosition _ | assign _ => true
  | _ => false

private theorem le_position_pastByte (c : Cursor) : c.position ≤ c.pastByte.position := by
  unfold pastByte
  split
  · exact Offset.le_addClamped c.position 1
  · exact UInt64.le_refl _

private theorem le_position_iterate_pastByte (c : Cursor) (n : Nat) :
    c.position ≤ (pastByte^[n] c).position := by
  refine Function.Iterate.rec (fun d : Cursor => c.position ≤ d.position) (UInt64.le_refl _) ?_ n
  intro d hd
  exact UInt64.le_trans hd d.le_position_pastByte

variable [ByteTest τ]

private theorem Op.le_position_after {op : Op τ} (h : op.places = false) (c : Cursor) :
    c.position ≤ (op.after c).position := by
  cases op with
  | advance => exact Offset.le_addClamped c.position 1
  | advanceBy n => exact Offset.le_addClamped c.position n
  | advanceWhile test => exact (c.passes_advanceWhile test).le
  | nextWhile test => exact (c.passes_advanceWhile test).le
  | next => exact c.le_position_pastByte
  | take n => exact c.le_position_iterate_pastByte n
  | setPosition n => cases h
  | assign other => cases h
  | _ => exact UInt64.le_refl _

end Cursor

namespace Mark

private theorem span_le {m : Mark} {c : Cursor} (hposition : m.anchor ≤ c.position)
    (hstop : ∀ e, m.stop? = some e → m.anchor ≤ e) : (m.span c).start ≤ (m.span c).stop := by
  rw [span]
  cases he : m.stop? with
  | none => exact hposition
  | some e => exact hstop e he

end Mark

namespace Reader

/-- From the outermost open mark to the innermost and on to the position, the offsets never fall, and
no span was frozen reversed. -/
structure Ordered (r : Reader) : Prop where
  anchors : r.marks.Pairwise fun inner outer => outer.anchor ≤ inner.anchor
  position : ∀ m ∈ r.marks, m.anchor ≤ r.cursor.position
  stop : ∀ m ∈ r.marks, ∀ e, m.stop? = some e → m.anchor ≤ e

private theorem Ordered.span_le {r : Reader} (h : r.Ordered) {m : Mark} (hm : m ∈ r.marks) :
    (m.span r.cursor).start ≤ (m.span r.cursor).stop :=
  Mark.span_le (h.position m hm) (h.stop m hm)

/-- Whether the step neither overwrites the cursor nor sets it to a position before the innermost open
mark. Trying a position that is refused sets nothing. -/
def Op.isForward (r : Reader) : Op τ → Bool
  | .onCursor (.assign _) => false
  | .onCursor (.setPosition n) =>
    match r.marks, (r.cursor.setPosition n).value.1 with
    | m :: _, .ok _ => m.anchor ≤ n
    | _, _ => true
  | _ => true

variable [ByteTest τ]

theorem Ordered.onCursor {c : Cursor} {marks : List Mark} (h : Ordered ⟨c, marks⟩)
    {op : Cursor.Op τ} (hop : Op.isForward ⟨c, marks⟩ (.onCursor op)) :
    Ordered ⟨op.after c, marks⟩ := by
  refine ⟨h.anchors, ?_, h.stop⟩
  intro m hm
  have hbefore : m.anchor ≤ c.position := h.position m hm
  cases op with
  | assign other => cases hop
  | setPosition n =>
    cases marks with
    | nil => cases hm
    | cons innermost outer =>
      simp only [Op.isForward, Cursor.setPosition_value] at hop
      simp only [Cursor.Op.after]
      split
      · exact hbefore
      · next haccepted =>
        -- The innermost anchor is the greatest one, so the target lies before no open mark.
        have hn : innermost.anchor ≤ n := by simpa [haccepted] using hop
        rcases List.mem_cons.mp hm with rfl | hm
        · exact hn
        · exact UInt64.le_trans (List.rel_of_pairwise_cons h.anchors hm) hn
  | _ => exact UInt64.le_trans hbefore (Cursor.Op.le_position_after rfl c)

theorem Ordered.onMark {c : Cursor} {m : Mark} {outer : List Mark} (h : Ordered ⟨c, m :: outer⟩)
    (op : Mark.Op) : Ordered ⟨op.cursorAfter m c, op.markAfter m c :: outer⟩ := by
  obtain ⟨habove, hanchors⟩ := List.pairwise_cons.mp h.anchors
  obtain ⟨hm, houter⟩ := List.forall_mem_cons.mp h.position
  obtain ⟨hstop, hstops⟩ := List.forall_mem_cons.mp h.stop
  refine ⟨?_, ?_, ?_⟩
  · rw [List.pairwise_cons, op.anchor_markAfter]
    exact ⟨habove, hanchors⟩
  · rw [List.forall_mem_cons, op.anchor_markAfter]
    rcases op.position_cursorAfter m c with hp | hp
    · simp only [hp]
      exact ⟨hm, houter⟩
    · simp only [hp]
      exact ⟨UInt64.le_refl _, habove⟩
  · rw [List.forall_mem_cons, op.anchor_markAfter]
    refine ⟨fun e he => ?_, hstops⟩
    rcases Mark.Op.stop_markAfter he with he | rfl
    · exact hstop e he
    · exact hm

private theorem ordered_step {r : Reader} {op : Op τ} {t : Traced (Reply τ × Reader)} (hr : r.Ordered)
    (hop : op.isForward r) (h : r.step op = some t) : t.value.2.Ordered := by
  cases outcome_of_step h with
  | onCursor c marks op => exact hr.onCursor hop
  | mark c marks =>
    refine ⟨List.pairwise_cons.mpr ⟨hr.position, hr.anchors⟩, ?_, ?_⟩
    · exact List.forall_mem_cons.mpr ⟨UInt64.le_refl _, hr.position⟩
    · exact List.forall_mem_cons.mpr ⟨nofun, hr.stop⟩
  | drop c m outer =>
    obtain ⟨_, hposition⟩ := List.forall_mem_cons.mp hr.position
    obtain ⟨_, hstop⟩ := List.forall_mem_cons.mp hr.stop
    exact ⟨hr.anchors.of_cons, hposition, hstop⟩
  | onMark c m outer op => exact hr.onMark op

/-- Whether the step may take the cursor back: it sets the position, reverts a mark, or releases one
that is not resolved. -/
def Op.goesBack (r : Reader) : Op τ → Bool
  | .onCursor op => op.places
  | .onMark .revert => true
  | .onMark .release => r.marks.head?.any (!·.isResolved)
  | _ => false

private theorem position_le_step {r : Reader} {op : Op τ} {t : Traced (Reply τ × Reader)}
    (hop : op.goesBack r = false) (h : r.step op = some t) :
    r.cursor.position ≤ t.value.2.cursor.position := by
  cases outcome_of_step h with
  | onCursor c marks op => exact Cursor.Op.le_position_after hop c
  | mark c marks => exact UInt64.le_refl _
  | drop c m outer => exact UInt64.le_refl _
  | onMark c m outer op =>
    cases op with
    | revert => cases hop
    | release =>
      have hm : m.isResolved := by simpa [Op.goesBack] using hop
      simp [Mark.Op.cursorAfter, hm]
    | _ => exact UInt64.le_refl _

def Op.tellsSpan : Op τ → Bool
  | .onMark op => op.tellsSpan
  | _ => false

private theorem step_span {r : Reader} {op : Op τ} {t : Traced (Reply τ × Reader)} (hr : r.Ordered)
    (hop : op.tellsSpan) (h : r.step op = some t) :
    ∃ s, t.value.1.result = .ok (.span s) ∧ s.start ≤ s.stop := by
  cases outcome_of_step h with
  | onMark c m outer op =>
    refine ⟨_, op.run_span hop m c, ?_⟩
    -- The answer is about the mark afterwards and the cursor before, which release moves away.
    apply Mark.span_le
    · rw [op.anchor_markAfter]
      exact hr.position m List.mem_cons_self
    · exact (hr.onMark op).stop _ List.mem_cons_self
  | _ => cases hop

def isForward : Reader → List (Op τ) → Bool
  | _, [] => true
  | r, op :: ops => op.isForward r && (r.step op).all fun t => t.value.2.isForward ops

theorem run_ordered {r : Reader} {before after : List (Op τ)} (hr : r.Ordered)
    (nested : isNested r.marks.length (before ++ after)) (forward : r.isForward (before ++ after)) :
    ∃ t, r.run before = some t ∧ t.value.2.Ordered ∧
      isNested t.value.2.marks.length after ∧ t.value.2.isForward after := by
  induction before generalizing r with
  | nil => exact ⟨_, rfl, hr, nested, forward⟩
  | cons op before ih =>
    obtain ⟨s, hs, hnested⟩ := exists_step_of_isNested nested
    rw [List.cons_append, isForward, hs, Bool.and_eq_true, Option.all_some] at forward
    obtain ⟨hop, hforward⟩ := forward
    obtain ⟨u, hu, hrest⟩ := ih (ordered_step hr hop hs) hnested hforward
    exact ⟨_, run_cons_of hs hu, hrest⟩

/-- In a nested run that starts without open marks and goes forward, the anchors of the open marks
and the position are in order at every moment, and so is every span, frozen or live. Only setting
the position, reverting, and the release that decides a mark move the cursor back. -/
theorem spans_of_open_marks_keep_order (c : Cursor) (ops : List (Op τ)) (nested : isNested 0 ops)
    (forward : isForward ⟨c, []⟩ ops) (before after : List (Op τ)) (reached : ops = before ++ after) :
    ∃ t, run ⟨c, []⟩ before = some t ∧ t.value.2.Ordered ∧
      (∀ m ∈ t.value.2.marks,
        (m.span t.value.2.cursor).start ≤ (m.span t.value.2.cursor).stop) ∧
      ∀ op rest, after = op :: rest → ∃ u, t.value.2.step op = some u ∧
        (op.tellsSpan → ∃ s, u.value.1.result = .ok (.span s) ∧ s.start ≤ s.stop) ∧
        (op.goesBack t.value.2 = false → t.value.2.cursor.position ≤ u.value.2.cursor.position) := by
  subst reached
  have hstart : Ordered ⟨c, []⟩ := ⟨.nil, nofun, nofun⟩
  obtain ⟨t, ht, hordered, hnested, _⟩ := run_ordered hstart nested forward
  refine ⟨t, ht, hordered, fun m hm => hordered.span_le hm, ?_⟩
  rintro op rest rfl
  obtain ⟨u, hu, _⟩ := exists_step_of_isNested hnested
  exact ⟨u, hu, fun hop => step_span hordered hop hu, fun hop => position_le_step hop hu⟩

/-- An outer mark is released after an inner one past the end was committed and reverted. A target
before the inner mark is no matter there, because the strict cursor refuses it. -/
theorem spans_of_open_marks_keep_order_past_end :
    let c : Cursor := ⟨⟨"aé=1", by decide⟩, 9, true⟩
    let before : List (Op ByteRule) := [.onCursor (.setPosition 1), .mark,
      .onCursor (.nextWhile (.between 128 255)), .onMark .revert, .onCursor (.advanceBy 20), .mark,
      .onCursor (.setPosition 10), .onCursor .advance, .onMark .commit, .onMark .revert, .drop]
    let after : List (Op ByteRule) := [.onMark .release, .onCursor (.setPosition 3), .onMark .text]
    isNested 0 (before ++ after) ∧ isForward ⟨c, []⟩ (before ++ after) ∧
      ∃ t u, run ⟨c, []⟩ before = some t ∧ t.value.2.Ordered ∧
        t.value.2.step (.onMark .release : Op ByteRule) = some u ∧
        ∃ s, u.value.1.result = .ok (.span s) ∧ s.start ≤ s.stop := by
  intro c before after
  have nested : isNested 0 (before ++ after) := by decide
  have forward : isForward ⟨c, []⟩ (before ++ after) := by decide +kernel
  obtain ⟨t, ht, hordered, _, hsteps⟩ :=
    spans_of_open_marks_keep_order c (before ++ after) nested forward before after rfl
  obtain ⟨u, hu, hspan, _⟩ := hsteps _ _ rfl
  exact ⟨nested, forward, t, u, ht, hordered, hu, hspan rfl⟩

end Reader

end TextCursor
