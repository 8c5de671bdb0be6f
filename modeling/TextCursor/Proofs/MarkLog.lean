import TextCursor.Proofs.Nesting
import TextCursor.Proofs.Reports

/-! The log of a run as an account of its marks. Every mark is followed from the step that opens it, and
each operation on it is set against the events it caused. -/
namespace TextCursor

structure Visit where
  op : Mark.Op
  position : Offset
  result : Except AccessError Answer
  events : List Event

namespace Visit

def trace (v : Visit) : List Event := v.events.filter (·.level = .trace)

/-- The visit reports that it moved the cursor back, if that is what it did, and no other thing. -/
def ReportsRevert (anchor : Offset) (v : Visit) : Prop :=
  v.trace = if v.op = .revert then [.reverted v.position anchor] else []

/-- The visit reports that it settled the mark, and how. A release reports first that it moved the
cursor back. The last text shows the span. -/
def ReportsSettling (anchor : Offset) (v : Visit) : Prop :=
  let span : Span := ⟨anchor, v.position⟩
  (v.trace =
    if v.op = .release then [.reverted v.position anchor, .released span] else [.committed span]) ∧
  v.trace.getLast?.map Event.message =
    some (if v.op = .release then s!"Released mark {span.text}" else s!"Committed mark {span.text}")

def Tells (span : Span) (v : Visit) : Prop := v.op.tellsSpan → v.result = .ok (.span span)

end Visit

/-- The visits to a mark with this anchor report every revert. If one of them settles the mark, the
first one that does reports that as well, with the span that is told from then on. -/
inductive Tally (anchor : Offset) : List Visit → Prop
  | unsettled {visits : List Visit} (none : ∀ v ∈ visits, v.op.resolves = false)
    (reverts : ∀ v ∈ visits, v.ReportsRevert anchor) : Tally anchor visits
  | settled {before after : List Visit} {v : Visit} (none : ∀ w ∈ before, w.op.resolves = false)
    (first : v.op.resolves) (report : v.ReportsSettling anchor)
    (reverts : ∀ w ∈ before ++ after, w.ReportsRevert anchor)
    (told : ∀ w ∈ v :: after, w.Tells ⟨anchor, v.position⟩) : Tally anchor (before ++ v :: after)

theorem Tally.cons {anchor : Offset} {v : Visit} {visits : List Visit} (hv : v.op.resolves = false)
    (hreport : v.ReportsRevert anchor) (h : Tally anchor visits) : Tally anchor (v :: visits) := by
  cases h with
  | unsettled none reverts =>
    exact .unsettled (List.forall_mem_cons.mpr ⟨hv, none⟩) (List.forall_mem_cons.mpr ⟨hreport, reverts⟩)
  | settled none first report reverts told =>
    rw [← List.cons_append]
    exact .settled (List.forall_mem_cons.mpr ⟨hv, none⟩) first report
      (List.forall_mem_cons.mpr ⟨hreport, reverts⟩) told

def Mark.Op.visit (op : Mark.Op) (m : Mark) (c : Cursor) : Visit :=
  ⟨op, c.position, (op.run m c).value.1, (op.run m c).events⟩

namespace Mark.Op
variable (op : Mark.Op) (c : Cursor) (anchor : Offset)

private theorem trace_visit (m : Mark) : (op.visit m c).trace = op.trace m c :=
  Reader.step_trace (τ := UInt8 → Bool) (Reader.step_onMark c m [] op)

private theorem reportsRevert_of_settled (stop : Offset) :
    (op.visit ⟨anchor, some stop⟩ c).ReportsRevert anchor := by
  rw [Visit.ReportsRevert, trace_visit]
  cases op with
  | _ => rfl

private theorem tells_visit (m : Mark) : (op.visit m c).Tells ((op.markAfter m c).span c) :=
  fun htells => run_span htells m c

variable {op}

private theorem reportsRevert_of_not_resolves (h : op.resolves = false) :
    (op.visit ⟨anchor, none⟩ c).ReportsRevert anchor := by
  rw [Visit.ReportsRevert, trace_visit]
  cases op with
  | commit => cases h
  | release => cases h
  | _ => rfl

private theorem reportsSettling_of_resolves (h : op.resolves) :
    (op.visit ⟨anchor, none⟩ c).ReportsSettling anchor := by
  rw [Visit.ReportsSettling, trace_visit]
  cases op with
  | commit => exact ⟨rfl, rfl⟩
  | release => exact ⟨rfl, rfl⟩
  | _ => cases h

end Mark.Op

namespace Reader
variable {τ : Type} [ByteTest τ]

/-- The visit that a step pays to the mark d marks below the innermost one. -/
def Op.visit? (d : Nat) : Op τ → Reader → Option Visit
  | .onMark op, ⟨c, m :: _⟩ => if d = 0 then some (op.visit m c) else none
  | _, _ => none

/-- The visits of a run to the mark d marks below the innermost one, until that mark is dropped. -/
def visits (r : Reader) (d : Nat) : List (Op τ) → List Visit
  | [] => []
  | op :: ops =>
    match r.step op, op.depth? d with
    | some t, some e => (op.visit? d r).toList ++ visits t.value.2 e ops
    | _, _ => []

private theorem visits_cons {r : Reader} {op : Op τ} (ops : List (Op τ)) {d e : Nat}
    {t : Traced (Reply τ × Reader)} (ht : r.step op = some t) (he : op.depth? d = some e) :
    visits r d (op :: ops) = (op.visit? d r).toList ++ visits t.value.2 e ops := by
  rw [visits, ht, he]

private theorem visits_cons_of_none {r s : Reader} {op : Op τ} (ops : List (Op τ)) {d e : Nat}
    {reply : Reply τ} {events : List Event} (ht : r.step op = some ⟨(reply, s), events⟩)
    (he : op.depth? d = some e) (hvisit : op.visit? d r = none) :
    visits r d (op :: ops) = visits s e ops := by
  rw [visits_cons ops ht he, hvisit]
  rfl

private theorem visits_cases (c : Cursor) (inner : List Mark) (m : Mark) (outer : List Mark) {op : Op τ}
    (ops : List (Op τ)) {k : Nat} (h : op.depth? inner.length = some k) :
    (∃ (o : Mark.Op) (d : Cursor), inner = [] ∧ k = 0 ∧
      visits ⟨c, inner ++ m :: outer⟩ inner.length (op :: ops) =
        o.visit m c :: visits ⟨d, o.markAfter m c :: outer⟩ 0 ops) ∨
    ∃ d inner', inner'.length = k ∧
      visits ⟨c, inner ++ m :: outer⟩ inner.length (op :: ops) =
        visits ⟨d, inner' ++ m :: outer⟩ inner'.length ops := by
  cases op with
  | onCursor op =>
    cases h
    exact .inr ⟨op.after c, inner, rfl, visits_cons_of_none ops (step_onCursor ..) rfl rfl⟩
  | mark =>
    cases h
    exact .inr ⟨c, c.mark :: inner, rfl, visits_cons_of_none ops (step_mark ..) rfl rfl⟩
  | drop =>
    cases inner with
    | nil => cases h
    | cons top inner =>
      cases h
      exact .inr ⟨c, inner, rfl, visits_cons_of_none ops (step_drop ..) rfl rfl⟩
  | onMark op =>
    cases inner with
    | nil =>
      cases h
      exact .inl ⟨op, op.cursorAfter m c, rfl, rfl, visits_cons ops (step_onMark ..) rfl⟩
    | cons top inner =>
      cases h
      exact .inr ⟨op.cursorAfter top c, op.markAfter top c :: inner, rfl,
        visits_cons_of_none ops (step_onMark ..) rfl rfl⟩

/-- Once a mark is settled its visits report nothing but reverts, and they tell the frozen span. -/
private theorem visits_of_settled (c : Cursor) (inner : List Mark) (anchor stop : Offset) (outer : List Mark)
    {ops : List (Op τ)} {d : Nat} (h : depth? inner.length ops = some d) :
    ∀ v ∈ visits ⟨c, inner ++ ⟨anchor, some stop⟩ :: outer⟩ inner.length ops,
      v.ReportsRevert anchor ∧ v.Tells ⟨anchor, stop⟩ := by
  induction ops generalizing c inner with
  | nil => exact List.forall_mem_nil _
  | cons op ops ih =>
    obtain ⟨k, hk, hrest, _⟩ := depth?_cons h
    rcases visits_cases c inner ⟨anchor, some stop⟩ outer ops hk with
      ⟨o, e, rfl, rfl, hvisits⟩ | ⟨e, inner', rfl, hvisits⟩
    · have hkept : o.markAfter ⟨anchor, some stop⟩ c = ⟨anchor, some stop⟩ := by
        rw [Mark.Op.markAfter, Mark.settledAt_of_isResolved rfl, ite_self]
      have htells := o.tells_visit c ⟨anchor, some stop⟩
      rw [hkept] at htells
      rw [hvisits, hkept, List.forall_mem_cons]
      exact ⟨⟨o.reportsRevert_of_settled c anchor stop, htells⟩, ih e [] hrest⟩
    · rw [hvisits]
      exact ih e inner' hrest

/-- The visits to a mark since it was opened. -/
theorem tally_visits (c : Cursor) (inner : List Mark) (anchor : Offset) (outer : List Mark)
    {ops : List (Op τ)} {d : Nat} (h : depth? inner.length ops = some d) :
    Tally anchor (visits ⟨c, inner ++ ⟨anchor, none⟩ :: outer⟩ inner.length ops) := by
  induction ops generalizing c inner with
  | nil => exact .unsettled (List.forall_mem_nil _) (List.forall_mem_nil _)
  | cons op ops ih =>
    obtain ⟨k, hk, hrest, _⟩ := depth?_cons h
    rcases visits_cases c inner ⟨anchor, none⟩ outer ops hk with
      ⟨o, e, rfl, rfl, hvisits⟩ | ⟨e, inner', rfl, hvisits⟩
    · cases hresolves : o.resolves with
      | false =>
        have hkept : o.markAfter ⟨anchor, none⟩ c = ⟨anchor, none⟩ := by
          rw [Mark.Op.markAfter, hresolves]
          rfl
        rw [hvisits, hkept]
        exact (ih e [] hrest).cons hresolves (Mark.Op.reportsRevert_of_not_resolves c anchor hresolves)
      | true =>
        -- From this visit on the mark is settled.
        have hsettled : o.markAfter ⟨anchor, none⟩ c = ⟨anchor, some c.position⟩ := by
          rw [Mark.Op.markAfter, hresolves]
          rfl
        have htells := o.tells_visit c ⟨anchor, none⟩
        have hlater := visits_of_settled e [] anchor c.position outer hrest
        rw [hsettled] at htells
        rw [hvisits, hsettled]
        exact .settled (List.forall_mem_nil _) hresolves
          (Mark.Op.reportsSettling_of_resolves c anchor hresolves) (fun v hv => (hlater v hv).1)
          (List.forall_mem_cons.mpr ⟨htells, fun v hv => (hlater v hv).2⟩)
    · rw [hvisits]
      exact ih e inner' hrest

end Reader

end TextCursor
