import TextCursor.ByteRule
import TextCursor.Proofs.Runs

/-! Strictness decides only whether a position past the end can be set. Two readers that differ in
nothing else give the same replies and events until one of them refuses such a position. -/
namespace TextCursor
variable {τ : Type}

namespace Cursor

def withStrict (strict : Bool) (c : Cursor) : Cursor := { c with strict }

def Op.concernsStrictness : Op τ → Bool
  | inspect | setStrict _ | assign _ | equals _ => true
  | _ => false

def Op.setsPast (length : Offset) : Op τ → Bool
  | setPosition n => length < n
  | _ => false

private theorem Op.keeps_of_not_concernsStrictness {op : Op τ} (h : op.concernsStrictness = false)
    (strict : Bool) : op.keeps strict := by
  cases op with
  | setStrict new => cases h
  | assign other => cases h
  | _ => rfl

private theorem peekAt_withStrict (strict : Bool) (c : Cursor) (k : Displacement) :
    (c.withStrict strict).peekAt k = c.peekAt k := rfl

private theorem peek_withStrict (strict : Bool) (c : Cursor) : (c.withStrict strict).peek = c.peek :=
  peekAt_withStrict strict c 0

private theorem unconsumed_withStrict (strict : Bool) (c : Cursor) :
    (c.withStrict strict).unconsumed = c.unconsumed := rfl

private theorem next_withStrict (strict : Bool) (c : Cursor) :
    (c.withStrict strict).next =
      ⟨(c.next.value.1, c.next.value.2.withStrict strict), c.next.events⟩ := by
  unfold next
  rw [peek_withStrict]
  obtain ⟨result, events⟩ := c.peek
  cases result with
  | ok b => rfl
  | error e => rfl

private theorem take_withStrict (strict : Bool) (c : Cursor) (n : Nat) :
    (c.withStrict strict).take n =
      ⟨((c.take n).value.1, (c.take n).value.2.withStrict strict), (c.take n).events⟩ := by
  induction n generalizing c with
  | zero => rfl
  | succ n ih =>
    unfold take
    rw [next_withStrict]
    obtain ⟨⟨result, moved⟩, events⟩ := c.next
    cases result with
    | ok b =>
      simp only [bind, Traced.andThen, ih]
      rfl
    | error e => rfl

private theorem setPosition_withStrict (strict : Bool) {c : Cursor} {n : Offset} (h : ¬ c.length < n) :
    (c.withStrict strict).setPosition n =
      ⟨(.ok c.position, { c with position := n, strict }), []⟩ := by
  unfold setPosition
  rw [if_neg (fun hboth => h hboth.2)]
  rfl

variable [ByteTest τ]

-- The outcome is a variable here, so that nothing computes with the bound on words inside it.
private theorem Op.run_next_withStrict {strict : Bool} {c d : Cursor}
    {x : Traced (Except AccessError UInt8 × Cursor)} (hc : c.next = x)
    (hd : d.next = ⟨(x.value.1, x.value.2.withStrict strict), x.events⟩) :
    (next : Op τ).run d =
      ⟨(((next : Op τ).run c).value.1, ((next : Op τ).run c).value.2.withStrict strict),
        ((next : Op τ).run c).events⟩ := by
  rw [run, hd, run, hc]
  rfl

private theorem Op.run_withStrict (strict : Bool) {op : Op τ} {c : Cursor}
    (hop : op.concernsStrictness = false) (hin : op.setsPast c.length = false) :
    op.run (c.withStrict strict) =
      ⟨((op.run c).value.1, (op.run c).value.2.withStrict strict), (op.run c).events⟩ := by
  cases op with
  | inspect => cases hop
  | setStrict new => cases hop
  | assign other => cases hop
  | equals other => cases hop
  | next => exact run_next_withStrict rfl (next_withStrict strict c)
  | peek =>
    rw [run, peek_withStrict, run]
    generalize c.peek = outcome
    rfl
  | take n =>
    rw [run, take_withStrict, run]
    generalize c.take n = outcome
    rfl
  | setPosition n =>
    have hn : ¬ c.length < n := of_decide_eq_false hin
    have hc : c.setPosition n = ⟨(.ok c.position, { c with position := n }), []⟩ :=
      setPosition_withStrict c.strict hn
    rw [run, setPosition_withStrict strict hn, run, hc]
    rfl
  | unconsumed =>
    rw [run, unconsumed_withStrict, run]
    generalize c.unconsumed = outcome
    rfl
  | between start stop =>
    rw [run, run]
    generalize Span.between start stop = outcome
    rfl
  | _ => rfl

end Cursor

namespace Mark

private theorem Op.run_withStrict (strict : Bool) {op : Op} (hop : op ≠ .inspect) (m : Mark) (c : Cursor) :
    op.run m (c.withStrict strict) =
      ⟨((op.run m c).value.1, (op.run m c).value.2.1, (op.run m c).value.2.2.withStrict strict),
        (op.run m c).events⟩ := by
  obtain ⟨anchor, stop?⟩ := m
  cases op with
  | inspect => exact absurd rfl hop
  | commit =>
    cases stop? with
    | none => rfl
    | some stop => rfl
  | release =>
    cases stop? with
    | none => rfl
    | some stop => rfl
  | _ => rfl

end Mark

namespace Reader

def withStrict (strict : Bool) (r : Reader) : Reader := ⟨r.cursor.withStrict strict, r.marks⟩

def Op.concernsStrictness : Op τ → Bool
  | .onCursor op => op.concernsStrictness
  | .onMark op => op == .inspect
  | _ => false

def Op.setsPast (length : Offset) : Op τ → Bool
  | .onCursor op => op.setsPast length
  | _ => false

private theorem Op.keeps_of_not_concernsStrictness {op : Op τ} (h : op.concernsStrictness = false)
    (strict : Bool) : op.keeps strict := by
  cases op with
  | onCursor op => exact Cursor.Op.keeps_of_not_concernsStrictness h strict
  | _ => rfl

variable [ByteTest τ]

private theorem step_withStrict (strict : Bool) {r : Reader} {op : Op τ} {t : Traced (Reply τ × Reader)}
    (hop : op.concernsStrictness = false) (hin : op.setsPast r.cursor.length = false)
    (h : r.step op = some t) :
    (r.withStrict strict).step op = some ⟨(t.value.1, t.value.2.withStrict strict), t.events⟩ := by
  cases outcome_of_step h with
  | onCursor c marks op =>
    rw [withStrict, step_onCursor, ← op.run_cursor, ← op.run_cursor,
      Cursor.Op.run_withStrict strict hop hin]
    rfl
  | mark c marks => rfl
  | drop c m outer => rfl
  | onMark c m outer op =>
    have hshows : op ≠ .inspect := by simpa [Op.concernsStrictness] using hop
    rw [withStrict, step_onMark, ← op.run_cursor, ← op.run_mark, ← op.run_cursor, ← op.run_mark,
      Mark.Op.run_withStrict strict hshows]
    rfl

theorem run_withStrict (strict : Bool) {r : Reader} {ops : List (Op τ)} {t : Account τ}
    (hops : ∀ op ∈ ops, op.concernsStrictness = false)
    (hin : ∀ op ∈ ops, op.setsPast r.cursor.length = false) (h : r.run ops = some t) :
    (r.withStrict strict).run ops =
      some ⟨(t.value.1, t.value.2.withStrict strict), t.events⟩ := by
  induction ops generalizing r t with
  | nil =>
    cases h
    rfl
  | cons op ops ih =>
    obtain ⟨s, u, hs, hu, rfl⟩ := run_cons_eq_some h
    obtain ⟨hop, hops⟩ := List.forall_mem_cons.mp hops
    obtain ⟨hpast, hin⟩ := List.forall_mem_cons.mp hin
    have hlength : s.value.2.cursor.length = r.cursor.length :=
      congrArg Source.length (sameText_step (op.keeps_of_not_concernsStrictness hop _) hs).source
    rw [← hlength] at hin
    exact run_cons_of (step_withStrict strict hop hpast hs) (ih hops hin hu)

/-- Setting a position past the end parts the two: the strict reader refuses and stays as it is, the
lenient one moves there. -/
private theorem step_past_end (s : Reader) {n : Offset} (h : s.cursor.length < n) :
    (s.withStrict true).step (.onCursor (.setPosition n) : Op τ) =
        some ⟨({ result := .error (.outside n.wrapped s.cursor.length) }, s.withStrict true),
          [.outside n.wrapped s.cursor.length]⟩ ∧
      (s.withStrict false).step (.onCursor (.setPosition n) : Op τ) =
        some ⟨(.ok (.offset s.cursor.position),
          ⟨{ s.cursor with position := n, strict := false }, s.marks⟩), []⟩ := by
  have hstrict : (s.cursor.withStrict true).setPosition n =
      ⟨(.error (.outside n.wrapped s.cursor.length), s.cursor.withStrict true),
        [.outside n.wrapped s.cursor.length]⟩ := by
    unfold Cursor.setPosition
    rw [if_pos ⟨rfl, h⟩]
    rfl
  have hlenient : (s.cursor.withStrict false).setPosition n =
      ⟨(.ok s.cursor.position, { s.cursor with position := n, strict := false }), []⟩ := by
    unfold Cursor.setPosition
    rw [if_neg (fun hboth => nomatch hboth.1)]
    rfl
  constructor
  · rw [withStrict, step_onCursor, ← Cursor.Op.run_cursor, Cursor.Op.run, hstrict]
    rfl
  · rw [withStrict, step_onCursor, ← Cursor.Op.run_cursor, Cursor.Op.run, hlenient]
    rfl

/-- Two readers that differ only in strictness run alike, reply for reply and event for event, as
long as no position past the end is set. The first attempt to do so is refused by the strict one,
which stays as it is, and moves the lenient one. -/
theorem strictness_matters_only_past_end (r : Reader) (ops : List (Op τ))
    (nested : isNested r.marks.length ops) (unconcerned : ∀ op ∈ ops, op.concernsStrictness = false)
    (before : List (Op τ)) (reached : before <+: ops)
    (inside : ∀ op ∈ before, op.setsPast r.cursor.length = false) :
    ∃ (replies : List (Reply τ)) (s : Reader) (events : List Event),
      (r.withStrict true).run before = some ⟨(replies, s.withStrict true), events⟩ ∧
      (r.withStrict false).run before = some ⟨(replies, s.withStrict false), events⟩ ∧
      ∀ n, r.cursor.length < n →
        (s.withStrict true).step (.onCursor (.setPosition n) : Op τ) =
            some ⟨({ result := .error (.outside n.wrapped r.cursor.length) }, s.withStrict true),
              [.outside n.wrapped r.cursor.length]⟩ ∧
          (s.withStrict false).step (.onCursor (.setPosition n) : Op τ) =
            some ⟨(.ok (.offset s.cursor.position),
              ⟨{ s.cursor with position := n, strict := false }, s.marks⟩), []⟩ := by
  obtain ⟨after, rfl⟩ := reached
  obtain ⟨⟨⟨replies, s⟩, events⟩, ht, _⟩ := exists_run_of_isNested nested
  have hbefore : ∀ op ∈ before, op.concernsStrictness = false :=
    fun op hop => unconcerned op (List.mem_append_left after hop)
  refine ⟨replies, s, events, run_withStrict true hbefore inside ht,
    run_withStrict false hbefore inside ht, ?_⟩
  intro n hn
  have hsame : r.cursor.SameText s.cursor := sameText_run
    (fun op hop => op.keeps_of_not_concernsStrictness (hbefore op hop) r.cursor.strict) ht
  have hlength : s.cursor.length = r.cursor.length := congrArg Source.length hsame.source
  rw [← hlength] at hn ⊢
  exact step_past_end s hn

/-- Reverting and releasing past the end are the same for both readers. -/
theorem strictness_matters_only_past_end_after_revert :
    let r : Reader := ⟨⟨⟨"aé", by decide⟩, 5, true⟩, [⟨7, none⟩]⟩
    let before : List (Op ByteRule) := [.mark, .onCursor (.setPosition 0), .onCursor .next,
      .onMark .revert, .onCursor (.peekWhile (.inClass .all)), .onCursor (.setPosition 2),
      .onCursor (.nextWhile (.first 3)), .onMark .release, .onMark .text, .drop]
    let ops := before ++ [.onCursor (.setPosition 4), .onMark .release]
    isNested r.marks.length ops ∧ (∀ op ∈ ops, op.concernsStrictness = false) ∧ before <+: ops ∧
      (∀ op ∈ before, op.setsPast r.cursor.length = false) ∧
      ∃ replies s events,
        (r.withStrict true).run before = some ⟨(replies, withStrict true s), events⟩ ∧
        (r.withStrict false).run before = some ⟨(replies, withStrict false s), events⟩ ∧
        (withStrict false s).step (.onCursor (.setPosition 4) : Op ByteRule) =
          some ⟨(.ok (.offset s.cursor.position),
            ⟨{ s.cursor with position := 4, strict := false }, s.marks⟩), []⟩ := by
  intro r before ops
  have nested : isNested r.marks.length ops := by decide
  have unconcerned : ∀ op ∈ ops, op.concernsStrictness = false := by decide
  have reached : before <+: ops := List.prefix_append before _
  have inside : ∀ op ∈ before, op.setsPast r.cursor.length = false := by decide
  obtain ⟨replies, s, events, hstrict, hlenient, hparts⟩ :=
    strictness_matters_only_past_end r ops nested unconcerned before reached inside
  exact ⟨nested, unconcerned, reached, inside, replies, s, events, hstrict, hlenient,
    (hparts 4 (by decide)).2⟩

end Reader

end TextCursor
