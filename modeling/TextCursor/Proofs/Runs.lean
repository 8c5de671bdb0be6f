import TextCursor.Proofs.Movement

/-! Runs of a reader: what a single step does and which offsets it brings in, how runs compose, which
runs go through, and what carries over from every step to the run. -/
namespace TextCursor

abbrev Account (τ : Type) := Traced (List (Reply τ) × Reader)

def Account.followedBy {τ : Type} (t u : Account τ) : Account τ :=
  ⟨(t.value.1 ++ u.value.1, u.value.2), t.events ++ u.events⟩

namespace Reader
variable {τ : Type} [ByteTest τ]

/-! ### Single steps -/

theorem step_onCursor (c : Cursor) (marks : List Mark) (op : Cursor.Op τ) :
    step ⟨c, marks⟩ (.onCursor op) =
      some ⟨((op.run c).value.1, ⟨op.after c, marks⟩), (op.run c).events⟩ := by
  rw [← op.run_cursor c, step]
  exact congrArg some (congrArg (Traced.mk _) (List.append_nil _))

theorem step_onMark (c : Cursor) (m : Mark) (marks : List Mark) (op : Mark.Op) :
    step ⟨c, m :: marks⟩ (.onMark op : Op τ) =
      some ⟨({ result := (op.run m c).value.1 }, ⟨op.cursorAfter m c, op.markAfter m c :: marks⟩),
        (op.run m c).events⟩ := by
  rw [← op.run_cursor m c, ← op.run_mark m c, step]
  exact congrArg some (congrArg (Traced.mk _) (List.append_nil _))

theorem step_mark (c : Cursor) (marks : List Mark) :
    step ⟨c, marks⟩ (.mark : Op τ) =
      some ⟨(.ok (.offset c.position), ⟨c, c.mark :: marks⟩), []⟩ := rfl

theorem step_drop (c : Cursor) (m : Mark) (marks : List Mark) :
    step ⟨c, m :: marks⟩ (.drop : Op τ) = some ⟨(.ok .nothing, ⟨c, marks⟩), []⟩ := rfl

inductive Outcome : Reader → Op τ → Traced (Reply τ × Reader) → Prop
  | onCursor (c : Cursor) (marks : List Mark) (op : Cursor.Op τ) :
    Outcome ⟨c, marks⟩ (.onCursor op)
      ⟨((op.run c).value.1, ⟨op.after c, marks⟩), (op.run c).events⟩
  | mark (c : Cursor) (marks : List Mark) :
    Outcome ⟨c, marks⟩ .mark ⟨(.ok (.offset c.position), ⟨c, c.mark :: marks⟩), []⟩
  | drop (c : Cursor) (m : Mark) (outer : List Mark) :
    Outcome ⟨c, m :: outer⟩ .drop ⟨(.ok .nothing, ⟨c, outer⟩), []⟩
  | onMark (c : Cursor) (m : Mark) (outer : List Mark) (op : Mark.Op) :
    Outcome ⟨c, m :: outer⟩ (.onMark op)
      ⟨({ result := (op.run m c).value.1 }, ⟨op.cursorAfter m c, op.markAfter m c :: outer⟩),
        (op.run m c).events⟩

theorem outcome_of_step {r : Reader} {op : Op τ} {t : Traced (Reply τ × Reader)}
    (h : r.step op = some t) : Outcome r op t := by
  obtain ⟨c, marks⟩ := r
  cases op with
  | onCursor op =>
    rw [step_onCursor] at h
    cases h
    exact .onCursor c marks op
  | mark =>
    cases h
    exact .mark c marks
  | drop =>
    cases marks with
    | nil => cases h
    | cons m outer =>
      cases h
      exact .drop c m outer
  | onMark op =>
    cases marks with
    | nil => cases h
    | cons m outer =>
      rw [step_onMark] at h
      cases h
      exact .onMark c m outer op

/-! ### Offsets -/

/-- The position, every anchor and every frozen end satisfy P. -/
structure Everywhere (P : Offset → Prop) (r : Reader) : Prop where
  position : P r.cursor.position
  anchor : ∀ m ∈ r.marks, P m.anchor
  stop : ∀ m ∈ r.marks, ∀ e, m.stop? = some e → P e

namespace Everywhere
variable {P : Offset → Prop} {r : Reader}

omit [ByteTest τ] in
theorem stop_span (hr : r.Everywhere P) {m : Mark} (hm : m ∈ r.marks) :
    P (m.span r.cursor).stop := by
  rw [Mark.span]
  cases he : m.stop? with
  | none => exact hr.position
  | some e => exact hr.stop m hm e he

/-- Steps on marks bring in no new offsets. So only an operation on the cursor can end what holds
everywhere, by its new position. -/
theorem step (hr : r.Everywhere P) {op : Op τ} {t : Traced (Reply τ × Reader)}
    (h : r.step op = some t) (hcursor : ∀ o, op = .onCursor o → P (o.after r.cursor).position) :
    t.value.2.Everywhere P := by
  obtain ⟨hposition, hanchor, hstop⟩ := hr
  cases outcome_of_step h with
  | onCursor c marks op => exact ⟨hcursor op rfl, hanchor, hstop⟩
  | mark c marks =>
    refine ⟨hposition, List.forall_mem_cons.mpr ⟨hposition, hanchor⟩, ?_⟩
    exact List.forall_mem_cons.mpr ⟨nofun, hstop⟩
  | drop c m outer =>
    exact ⟨hposition, (List.forall_mem_cons.mp hanchor).2, (List.forall_mem_cons.mp hstop).2⟩
  | onMark c m outer op =>
    obtain ⟨hm, hanchors⟩ := List.forall_mem_cons.mp hanchor
    obtain ⟨hfrozen, hstops⟩ := List.forall_mem_cons.mp hstop
    refine ⟨?_, ?_, ?_⟩
    · rcases op.position_cursorAfter m c with hp | hp
      · simp only [hp]
        exact hposition
      · simp only [hp]
        exact hm
    · rw [List.forall_mem_cons, op.anchor_markAfter]
      exact ⟨hm, hanchors⟩
    · refine List.forall_mem_cons.mpr ⟨fun e he => ?_, hstops⟩
      rcases Mark.Op.stop_markAfter he with he | rfl
      · exact hfrozen e he
      · exact hposition

end Everywhere

/-! ### Composition -/

theorem run_cons_of {r : Reader} {op : Op τ} {ops : List (Op τ)} {t : Traced (Reply τ × Reader)}
    {u : Account τ} (ht : r.step op = some t) (hu : t.value.2.run ops = some u) :
    r.run (op :: ops) = some ⟨(t.value.1 :: u.value.1, u.value.2), t.events ++ u.events⟩ := by
  rw [run, ht]
  show (t.value.2.run ops).bind _ = _
  rw [hu]
  rfl

theorem run_cons_eq_some {r : Reader} {op : Op τ} {ops : List (Op τ)} {w : Account τ}
    (h : r.run (op :: ops) = some w) :
    ∃ t u, r.step op = some t ∧ t.value.2.run ops = some u ∧
      w = ⟨(t.value.1 :: u.value.1, u.value.2), t.events ++ u.events⟩ := by
  cases ht : r.step op with
  | none =>
    rw [run, ht] at h
    cases h
  | some t =>
    cases hu : t.value.2.run ops with
    | none =>
      rw [run, ht] at h
      change (t.value.2.run ops).bind _ = _ at h
      rw [hu] at h
      cases h
    | some u =>
      rw [run_cons_of ht hu] at h
      exact ⟨t, u, rfl, hu, (Option.some.inj h).symm⟩

theorem run_append {r : Reader} {first rest : List (Op τ)} {t u : Account τ}
    (ht : r.run first = some t) (hu : t.value.2.run rest = some u) :
    r.run (first ++ rest) = some (t.followedBy u) := by
  induction first generalizing r t with
  | nil =>
    cases ht
    exact hu
  | cons op first ih =>
    obtain ⟨s, v, hs, hv, rfl⟩ := run_cons_eq_some ht
    rw [List.cons_append, run_cons_of hs (ih hv hu)]
    exact congrArg some (congrArg (Traced.mk _) (List.append_assoc ..).symm)

theorem run_singleton {r : Reader} {op : Op τ} {t : Traced (Reply τ × Reader)}
    (h : r.step op = some t) : r.run [op] = some ⟨([t.value.1], t.value.2), t.events⟩ := by
  rw [run_cons_of h rfl]
  exact congrArg some (congrArg (Traced.mk _) (List.append_nil _))

theorem run_onCursor (c : Cursor) (marks : List Mark) (op : Cursor.Op τ) :
    run ⟨c, marks⟩ [.onCursor op] =
      some ⟨([(op.run c).value.1], ⟨op.after c, marks⟩), (op.run c).events⟩ :=
  run_singleton (step_onCursor c marks op)

theorem length_replies {r : Reader} {ops : List (Op τ)} {t : Account τ} (h : r.run ops = some t) :
    t.value.1.length = ops.length := by
  induction ops generalizing r t with
  | nil =>
    cases h
    rfl
  | cons op ops ih =>
    obtain ⟨s, u, _, hu, rfl⟩ := run_cons_eq_some h
    exact congrArg (· + 1) (ih hu)

/-! ### Nesting -/

def Op.openMarks? : Op τ → Nat → Option Nat
  | .onCursor _, n => some n
  | .mark, n => some (n + 1)
  | .drop, n + 1 => some n
  | .onMark _, n + 1 => some (n + 1)
  | .drop, 0 | .onMark _, 0 => none

/-- Whether every step finds the mark it needs, with n marks open at first. -/
def isNested (n : Nat) : List (Op τ) → Bool
  | [] => true
  | op :: ops => (op.openMarks? n).any fun k => isNested k ops

private theorem openMarks?_step (r : Reader) (op : Op τ) :
    op.openMarks? r.marks.length = (r.step op).map (·.value.2.marks.length) := by
  obtain ⟨c, marks⟩ := r
  cases op with
  | onCursor op => simp [step_onCursor, Op.openMarks?]
  | mark => rfl
  | drop =>
    cases marks with
    | nil => rfl
    | cons m marks => rfl
  | onMark op =>
    cases marks with
    | nil => rfl
    | cons m marks => simp [step_onMark, Op.openMarks?]

theorem exists_step_of_isNested {r : Reader} {op : Op τ} {ops : List (Op τ)}
    (h : isNested r.marks.length (op :: ops)) :
    ∃ t, r.step op = some t ∧ isNested t.value.2.marks.length ops := by
  rw [isNested, openMarks?_step] at h
  cases hs : r.step op with
  | none => simp [hs] at h
  | some t => exact ⟨t, rfl, by simpa [hs] using h⟩

/-- A nested run goes through, and what follows its beginning is nested there. -/
theorem exists_run_of_isNested {r : Reader} {before after : List (Op τ)}
    (h : isNested r.marks.length (before ++ after)) :
    ∃ t, r.run before = some t ∧ isNested t.value.2.marks.length after := by
  induction before generalizing r with
  | nil => exact ⟨_, rfl, h⟩
  | cons op before ih =>
    obtain ⟨s, hs, hrest⟩ := exists_step_of_isNested h
    obtain ⟨u, hu, hafter⟩ := ih hrest
    exact ⟨_, run_cons_of hs hu, hafter⟩

/-- A run goes through exactly if it is nested. -/
theorem exists_run_iff {r : Reader} {ops : List (Op τ)} :
    (∃ t, r.run ops = some t) ↔ isNested r.marks.length ops := by
  constructor
  · rintro ⟨t, h⟩
    induction ops generalizing r t with
    | nil => rfl
    | cons op ops ih =>
      obtain ⟨s, u, hs, hu, _⟩ := run_cons_eq_some h
      rw [isNested, openMarks?_step, hs]
      exact ih u hu
  · intro h
    rw [← List.append_nil ops] at h
    obtain ⟨t, ht, _⟩ := exists_run_of_isNested h
    exact ⟨t, ht⟩

/-! ### What steps preserve, runs preserve -/

theorem run_preserves {P : Reader → Prop} {allowed : Op τ → Prop}
    (hstep : ∀ r op t, allowed op → P r → r.step op = some t → P t.value.2)
    {r : Reader} {ops : List (Op τ)} {t : Account τ} (hops : ∀ op ∈ ops, allowed op)
    (hr : P r) (h : r.run ops = some t) : P t.value.2 := by
  induction ops generalizing r t with
  | nil =>
    cases h
    exact hr
  | cons op ops ih =>
    obtain ⟨s, u, hs, hu, rfl⟩ := run_cons_eq_some h
    have hp := hstep r op s (hops op List.mem_cons_self) hr hs
    exact ih (t := u) (fun o ho => hops o (List.mem_cons_of_mem op ho)) hp hu

/-- What holds of the events of every step and carries over to two lists in a row holds of the events of
a run. -/
theorem events_of_run {P : List Event → Prop} (hnil : P [])
    (happend : ∀ first rest, P first → P rest → P (first ++ rest))
    (hstep : ∀ (r : Reader) (op : Op τ) t, r.step op = some t → P t.events)
    {r : Reader} {ops : List (Op τ)} {t : Account τ} (h : r.run ops = some t) : P t.events := by
  induction ops generalizing r t with
  | nil =>
    cases h
    exact hnil
  | cons op ops ih =>
    obtain ⟨s, u, hs, hu, rfl⟩ := run_cons_eq_some h
    exact happend _ _ (hstep r op s hs) (ih hu)

def Op.keeps (strict : Bool) : Op τ → Bool
  | .onCursor op => op.keeps strict
  | _ => true

theorem sameText_step {r : Reader} {op : Op τ} {t : Traced (Reply τ × Reader)}
    (hk : op.keeps r.cursor.strict) (h : r.step op = some t) :
    r.cursor.SameText t.value.2.cursor := by
  cases outcome_of_step h with
  | onCursor c marks op => exact Cursor.Op.sameText_after hk
  | mark c marks => exact .refl c
  | drop c m outer => exact .refl c
  | onMark c m outer op => exact op.sameText_cursorAfter m c

/-- A run that overwrites nothing ends on the text it began with. -/
theorem sameText_run {r : Reader} {ops : List (Op τ)} {t : Account τ}
    (hk : ∀ op ∈ ops, op.keeps r.cursor.strict) (h : r.run ops = some t) :
    r.cursor.SameText t.value.2.cursor := by
  refine run_preserves (P := fun s => r.cursor.SameText s.cursor) ?_ hk (.refl r.cursor) h
  intro s op u hop hs hu
  rw [← hs.strict] at hop
  exact hs.trans (sameText_step hop hu)

end Reader

end TextCursor
