import TextCursor.ByteRule
import TextCursor.Proofs.Backtracking

/-! The first commit or release of a mark decides its span for good. Until then the span follows the
cursor, and reverting decides nothing. -/
namespace TextCursor

def Reader.Op.overwrites {τ : Type} : Reader.Op τ → Bool
  | .onCursor (.assign _) => true
  | _ => false

private theorem Cursor.Op.source_after {τ : Type} [ByteTest τ] {op : Cursor.Op τ} {c : Cursor}
    (h : (Reader.Op.onCursor op).overwrites = false) : (op.after c).source = c.source := by
  cases op with
  | setStrict strict => rfl
  | assign other => cases h
  | _ => exact (Cursor.Op.sameText_after rfl).source

namespace Reader
variable {τ : Type} [ByteTest τ]

theorem source_step {r : Reader} {op : Op τ} {t : Traced (Reply τ × Reader)}
    (ho : op.overwrites = false) (h : r.step op = some t) :
    t.value.2.cursor.source = r.cursor.source := by
  cases op with
  | onCursor op =>
    rw [step_onCursor] at h
    cases h
    exact Cursor.Op.source_after ho
  | _ => exact (sameText_step rfl h).source

/-- A change of strictness may come between, so this asks less than `sameText_run`. -/
theorem source_run {r : Reader} {ops : List (Op τ)} {t : Account τ}
    (ho : ∀ op ∈ ops, op.overwrites = false) (h : r.run ops = some t) :
    t.value.2.cursor.source = r.cursor.source := by
  refine run_preserves (P := fun s => s.cursor.source = r.cursor.source) ?_ ho rfl h
  exact fun s op u hop hs hu => (source_step hop hu).trans hs

/-- What the innermost mark answers about itself. Asking changes nothing and reports nothing. -/
structure Tells (τ : Type) [ByteTest τ] (s : Reader) (anchor : Offset) (resolved : Bool)
    (span : Span) : Prop where
  anchor : s.step (.onMark .anchor : Op τ) = some ⟨(.ok (.offset anchor), s), []⟩
  isResolved : s.step (.onMark .isResolved : Op τ) = some ⟨(.ok (.flag resolved), s), []⟩
  span : s.step (.onMark .span : Op τ) = some ⟨(.ok (.span span), s), []⟩

private theorem tells (c : Cursor) (m : Mark) (outer : List Mark) :
    Tells τ ⟨c, m :: outer⟩ m.anchor m.isResolved (m.span c) := ⟨rfl, rfl, rfl⟩

private theorem step_first {first : Mark.Op} (hf : first.resolves) (d : Cursor) (anchor : Offset)
    (outer : List Mark) :
    ∃ e events, step ⟨d, ⟨anchor, none⟩ :: outer⟩ (.onMark first : Op τ) =
        some ⟨(.ok (.span ⟨anchor, d.position⟩), ⟨e, ⟨anchor, some d.position⟩ :: outer⟩), events⟩ ∧
      e.source = d.source := by
  cases first with
  | commit => exact ⟨_, _, rfl, rfl⟩
  | release => exact ⟨_, _, rfl, rfl⟩
  | _ => cases hf

private theorem step_again {again : Mark.Op} (ha : again.resolves) (c : Cursor) (anchor stop : Offset)
    (outer : List Mark) :
    step ⟨c, ⟨anchor, some stop⟩ :: outer⟩ (.onMark again : Op τ) =
      some ⟨(.ok (.span ⟨anchor, stop⟩), ⟨c, ⟨anchor, some stop⟩ :: outer⟩), []⟩ := by
  cases again with
  | commit => rfl
  | release => rfl
  | _ => cases ha

/-- Before any step settles it, a mark is unresolved and its span ends at the live position. The
first step that settles it fixes the span it then has: whatever follows, the mark tells that span,
settling it again moves nothing, and its text is what slicing that span gives on every cursor over
the source, as long as the cursor is not overwritten. -/
theorem first_resolution_decides (r : Reader) (before : List (Op τ))
    (nested : depth? 0 before = some 0) (unsettled : settles 0 before = false) :
    ∃ replies events d,
      r.run (.mark :: before) =
        some ⟨(replies, ⟨d, ⟨r.cursor.position, none⟩ :: r.marks⟩), events⟩ ∧
      Tells τ ⟨d, ⟨r.cursor.position, none⟩ :: r.marks⟩ r.cursor.position false
        ⟨r.cursor.position, d.position⟩ ∧
      ∀ first : Mark.Op, first.resolves → ∀ after : List (Op τ), depth? 0 after = some 0 →
        ∃ replies' events' c,
          let s : Reader := ⟨c, ⟨r.cursor.position, some d.position⟩ :: r.marks⟩
          r.run (.mark :: before ++ .onMark first :: after) =
            some ⟨(replies ++ .ok (.span ⟨r.cursor.position, d.position⟩) :: replies', s), events'⟩ ∧
          Tells τ s r.cursor.position true ⟨r.cursor.position, d.position⟩ ∧
          (∀ again : Mark.Op, again.resolves → s.step (.onMark again : Op τ) =
            some ⟨(.ok (.span ⟨r.cursor.position, d.position⟩), s), []⟩) ∧
          ((∀ op ∈ after, op.overwrites = false) → ∀ other : Cursor, other.source = d.source →
            Mark.text ⟨r.cursor.position, some d.position⟩ c =
              other.substring ⟨r.cursor.position, d.position⟩) := by
  obtain ⟨replies, events, d, m, hrun, _, hsame⟩ := run_fresh r nested
  cases hsame unsettled
  refine ⟨replies, events, d, hrun, tells d _ r.marks, fun first hf after hafter => ?_⟩
  obtain ⟨e, events₁, hfirst, hsource⟩ :=
    step_first (τ := τ) hf d r.cursor.position r.marks
  -- From here on the mark is resolved, so the run that follows leaves it as it is.
  obtain ⟨⟨⟨replies', ⟨c, marks⟩⟩, events'⟩, inner, m', hlater, hlen, hmarks, _, hkept⟩ :=
    run_above e [] ⟨r.cursor.position, some d.position⟩ r.marks hafter
  cases List.length_eq_zero_iff.mp hlen
  cases hkept (.inr rfl)
  cases hmarks
  refine ⟨replies', _, c, run_append hrun (run_cons_of hfirst hlater), tells c _ r.marks,
    fun again ha => step_again ha c _ _ r.marks, fun ho other hother => ?_⟩
  have hc : c.source = d.source := (source_run ho hlater).trans hsource
  exact Cursor.substring_congr (hc.trans hother.symm) _

/-- Reverting, moving and overwriting the cursor before a release leave the decision to the release,
and committing after it changes nothing. -/
theorem first_resolution_decides_release :
    let r : Reader := ⟨⟨⟨"aé", by decide⟩, 1, true⟩, [⟨0, none⟩]⟩
    let before : List (Op ByteRule) := [.onCursor .advance, .onMark .revert, .mark,
      .onCursor (.assign ⟨⟨"ab", by decide⟩, 0, false⟩), .onMark .commit, .drop,
      .onCursor (.advanceBy 5)]
    let after : List (Op ByteRule) := [.onMark .commit, .onCursor (.setStrict true),
      .onCursor (.nextWhile (.first 1)), .onMark .revert]
    depth? 0 before = some 0 ∧ settles 0 before = false ∧ depth? 0 after = some 0 ∧
      ∃ replies events d,
        r.run (.mark :: before) = some ⟨(replies, ⟨d, ⟨1, none⟩ :: r.marks⟩), events⟩ ∧
        ∃ replies' events' c, r.run (.mark :: before ++ .onMark .release :: after) =
            some ⟨(replies ++ .ok (.span ⟨1, d.position⟩) :: replies',
              ⟨c, ⟨1, some d.position⟩ :: r.marks⟩), events'⟩ ∧
          ∀ other : Cursor, other.source = d.source →
            Mark.text ⟨1, some d.position⟩ c = other.substring ⟨1, d.position⟩ := by
  intro r before after
  obtain ⟨replies, events, d, hrun, _, hfirst⟩ := first_resolution_decides r before rfl rfl
  obtain ⟨replies', events', c, hlater, _, _, htext⟩ := hfirst .release rfl after rfl
  exact ⟨rfl, rfl, rfl, replies, events, d, hrun, replies', events', c, hlater, htext (by decide)⟩

end Reader

end TextCursor
