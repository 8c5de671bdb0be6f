import TextCursor.ByteRule
import TextCursor.Proofs.Nesting

/-! Going back through a mark undoes everything a nested run did to the reader, provided the run
overwrites nothing. Where the mark was set does not matter, so an anchor past the end is fine. -/
namespace TextCursor.Reader
variable {τ : Type} [ByteTest τ]

/-- A nested run through a fresh mark goes through and ends with that mark innermost. -/
theorem run_fresh (r : Reader) {ops : List (Op τ)} (nested : depth? 0 ops = some 0) :
    ∃ replies events d m, r.run (.mark :: ops) = some ⟨(replies, ⟨d, m :: r.marks⟩), events⟩ ∧
      m.anchor = r.cursor.position ∧ (settles 0 ops = false → m = r.cursor.mark) := by
  obtain ⟨⟨⟨replies, ⟨d, marks⟩⟩, events⟩, inner, m, ht, hlen, hmarks, hanchor, hsame⟩ :=
    run_above r.cursor [] r.cursor.mark r.marks nested
  cases List.length_eq_zero_iff.mp hlen
  cases hmarks
  exact ⟨_, _, d, m, run_cons_of (step_mark r.cursor r.marks) ht, hanchor, fun h => hsame (.inl h)⟩

private theorem step_release (d : Cursor) {m : Mark} (hm : m.isResolved = false) (outer : List Mark) :
    step ⟨d, m :: outer⟩ (.onMark .release : Op τ) =
      some ⟨(.ok (.span ⟨m.anchor, d.position⟩), ⟨m.back d, ⟨m.anchor, some d.position⟩ :: outer⟩),
        [.reverted d.position m.anchor, .released ⟨m.anchor, d.position⟩]⟩ := by
  obtain ⟨anchor, stop?⟩ := m
  cases stop? with
  | none => rfl
  | some stop => cases hm

private theorem back_eq_of_run {r : Reader} {ops : List (Op τ)} {replies : List (Reply τ)}
    {events : List Event} {d : Cursor} {m : Mark} {marks : List Mark}
    (keeps : ∀ op ∈ ops, op.keeps r.cursor.strict)
    (h : r.run (.mark :: ops) = some ⟨(replies, ⟨d, marks⟩), events⟩)
    (hanchor : m.anchor = r.cursor.position) : m.back d = r.cursor := by
  have hall : ∀ op ∈ .mark :: ops, op.keeps r.cursor.strict :=
    List.forall_mem_cons.mpr ⟨rfl, keeps⟩
  rw [Mark.back, hanchor]
  exact (sameText_run hall h).restore_eq

/-- Reverting the fresh mark and dropping it undoes the run. -/
theorem run_reverted {r : Reader} {ops : List (Op τ)} {replies : List (Reply τ)}
    {events : List Event} {d : Cursor} {m : Mark} (keeps : ∀ op ∈ ops, op.keeps r.cursor.strict)
    (h : r.run (.mark :: ops) = some ⟨(replies, ⟨d, m :: r.marks⟩), events⟩)
    (hanchor : m.anchor = r.cursor.position) :
    r.run (.mark :: ops ++ [.onMark .revert, .drop]) =
      some ⟨(replies ++ [.ok (.offset d.position), .ok .nothing], r),
        events ++ [.reverted d.position r.cursor.position]⟩ := by
  have hrevert : step ⟨d, m :: r.marks⟩ (.onMark .revert : Op τ) =
      some ⟨(.ok (.offset d.position), ⟨m.back d, m :: r.marks⟩), [.reverted d.position m.anchor]⟩ :=
    rfl
  rw [back_eq_of_run keeps h hanchor, hanchor] at hrevert
  exact run_append h (run_cons_of hrevert (run_singleton (step_drop r.cursor m r.marks)))

/-- Releasing the fresh mark, if nothing resolved it before, and dropping it undoes the run. -/
theorem run_released {r : Reader} {ops : List (Op τ)} {replies : List (Reply τ)}
    {events : List Event} {d : Cursor} {m : Mark} (keeps : ∀ op ∈ ops, op.keeps r.cursor.strict)
    (h : r.run (.mark :: ops) = some ⟨(replies, ⟨d, m :: r.marks⟩), events⟩)
    (hanchor : m.anchor = r.cursor.position) (hm : m.isResolved = false) :
    r.run (.mark :: ops ++ [.onMark .release, .drop]) =
      some ⟨(replies ++ [.ok (.span ⟨r.cursor.position, d.position⟩), .ok .nothing], r),
        events ++
          [.reverted d.position r.cursor.position, .released ⟨r.cursor.position, d.position⟩]⟩ := by
  have hrelease := step_release (τ := τ) d hm r.marks
  rw [back_eq_of_run keeps h hanchor, hanchor] at hrelease
  exact run_append h (run_cons_of hrelease (run_singleton (step_drop r.cursor _ r.marks)))

/-- Whatever a nested run did that overwrites nothing, reverting its mark gives the position held and
drops back to the very reader that set the mark, and so does releasing the mark while it is
unresolved, which freezes that position. -/
theorem backtracking_restores_reader (r : Reader) (ops : List (Op τ)) (nested : depth? 0 ops = some 0)
    (keeps : ∀ op ∈ ops, op.keeps r.cursor.strict) :
    ∃ replies events d m, r.run (.mark :: ops) = some ⟨(replies, ⟨d, m :: r.marks⟩), events⟩ ∧
      r.run (.mark :: ops ++ [.onMark .revert, .drop]) =
        some ⟨(replies ++ [.ok (.offset d.position), .ok .nothing], r),
          events ++ [.reverted d.position r.cursor.position]⟩ ∧
      (m.isResolved = false →
        step ⟨d, m :: r.marks⟩ (.onMark .release : Op τ) =
          some ⟨(.ok (.span ⟨r.cursor.position, d.position⟩),
              ⟨r.cursor, ⟨r.cursor.position, some d.position⟩ :: r.marks⟩),
            [.reverted d.position r.cursor.position, .released ⟨r.cursor.position, d.position⟩]⟩ ∧
        r.run (.mark :: ops ++ [.onMark .release, .drop]) =
          some ⟨(replies ++ [.ok (.span ⟨r.cursor.position, d.position⟩), .ok .nothing], r),
            events ++
              [.reverted d.position r.cursor.position, .released ⟨r.cursor.position, d.position⟩]⟩) := by
  obtain ⟨replies, events, d, m, hrun, hanchor, _⟩ := run_fresh r nested
  refine ⟨replies, events, d, m, hrun, run_reverted keeps hrun hanchor, ?_⟩
  intro hm
  have hrelease := step_release (τ := τ) d hm r.marks
  rw [back_eq_of_run keeps hrun hanchor, hanchor] at hrelease
  exact ⟨hrelease, run_released keeps hrun hanchor hm⟩

/-- A strict cursor past the end comes back to where it could not be set. -/
theorem backtracking_restores_reader_past_end :
    let r : Reader := ⟨⟨⟨"aé", by decide⟩, 5, true⟩, [⟨1, some 2⟩]⟩
    let ops : List (Op ByteRule) := [.onCursor .advance, .onCursor (.setPosition 5),
      .onCursor (.setPosition 0), .mark, .onCursor (.nextWhile (.first 2)), .onMark .release, .drop,
      .onCursor .next]
    depth? 0 ops = some 0 ∧ (∀ op ∈ ops, op.keeps r.cursor.strict) ∧
      ∃ replies events d m, r.run (.mark :: ops) = some ⟨(replies, ⟨d, m :: r.marks⟩), events⟩ ∧
        r.run (.mark :: ops ++ [.onMark .revert, .drop]) =
          some ⟨(replies ++ [.ok (.offset d.position), .ok .nothing], r),
            events ++ [.reverted d.position r.cursor.position]⟩ := by
  intro r ops
  have nested : depth? 0 ops = some 0 := rfl
  have keeps : ∀ op ∈ ops, op.keeps r.cursor.strict := by decide
  obtain ⟨replies, events, d, m, hrun, hrevert, _⟩ := backtracking_restores_reader r ops nested keeps
  exact ⟨nested, keeps, replies, events, d, m, hrun, hrevert⟩

end TextCursor.Reader
