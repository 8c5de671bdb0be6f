import Mathlib.Data.List.Induction
import TextCursor.Proofs.Runs

/-! Runs through an open mark. The depth counts the marks opened above it and not yet dropped, so a
list of steps is nested when it drops no other marks than it opened. -/
namespace TextCursor.Reader
variable {τ : Type}

/-- The depth after a step, or none if the step would drop the mark below. -/
def Op.depth? : Op τ → Nat → Option Nat
  | .mark, d => some (d + 1)
  | .drop, 0 => none
  | .drop, d + 1 => some d
  | _, d => some d

def depth? (d : Nat) : List (Op τ) → Option Nat
  | [] => some d
  | op :: ops =>
    match op.depth? d with
    | some e => depth? e ops
    | none => none

/-- Whether the step commits or releases the mark below. At any other depth it works on another. -/
def Op.settles (d : Nat) : Op τ → Bool
  | .onMark op => d == 0 && op.resolves
  | _ => false

def settles (d : Nat) : List (Op τ) → Bool
  | [] => false
  | op :: ops =>
    op.settles d || match op.depth? d with
      | some e => settles e ops
      | none => false

theorem depth?_cons {d e : Nat} {op : Op τ} {ops : List (Op τ)}
    (h : depth? d (op :: ops) = some e) :
    ∃ k, op.depth? d = some k ∧ depth? k ops = some e ∧
      settles d (op :: ops) = (op.settles d || settles k ops) := by
  cases hk : op.depth? d with
  | none =>
    rw [depth?, hk] at h
    cases h
  | some k =>
    rw [depth?, hk] at h
    exact ⟨k, rfl, h, by rw [settles, hk]⟩

private theorem depth?_append (d : Nat) (ops rest : List (Op τ)) :
    depth? d (ops ++ rest) = (depth? d ops).bind fun e => depth? e rest := by
  induction ops generalizing d with
  | nil => rfl
  | cons op ops ih =>
    rw [List.cons_append, depth?, depth?]
    cases op.depth? d with
    | none => rfl
    | some e => exact ih e

/-- For every mark that is open in the end there is the step that opened it. At that time j marks were
open, and since then k more were opened above it. -/
theorem exists_opening {ops : List (Op τ)} {j k : Nat} (h : depth? 0 ops = some (j + k + 1)) :
    ∃ before during, ops = before ++ .mark :: during ∧ depth? 0 before = some j ∧
      depth? 0 during = some k := by
  induction ops using List.reverseRecOn generalizing k with
  | nil => cases h
  | append_singleton first op ih =>
    rw [depth?_append, Option.bind_eq_some_iff] at h
    obtain ⟨e, hfirst, hlast⟩ := h
    have hopen : ∀ {i : Nat}, e = j + i + 1 → op.depth? i = some k →
        ∃ before during, first ++ [op] = before ++ .mark :: during ∧ depth? 0 before = some j ∧
          depth? 0 during = some k := by
      rintro i rfl hop
      obtain ⟨before, during, rfl, hbefore, hduring⟩ := ih hfirst
      refine ⟨before, during ++ [op], by simp, hbefore, ?_⟩
      rw [depth?_append, hduring, Option.bind_some, depth?, hop]
      rfl
    cases op with
    | onCursor op =>
      cases hlast
      exact hopen rfl rfl
    | onMark op =>
      cases hlast
      exact hopen rfl rfl
    | drop =>
      cases e with
      | zero => cases hlast
      | succ e =>
        cases hlast
        exact hopen (i := k + 1) rfl rfl
    | mark =>
      cases hlast
      cases k with
      | zero => exact ⟨first, [], rfl, hfirst, rfl⟩
      | succ k => exact hopen (i := k) rfl rfl

variable [ByteTest τ]

/-- A nested step goes through. It leaves the marks below alone, except that it freezes the mark it
settles at the position it finds. -/
private theorem step_above (c : Cursor) (inner : List Mark) (m : Mark) (outer : List Mark) {op : Op τ}
    {d : Nat} (h : op.depth? inner.length = some d) :
    ∃ t inner', step ⟨c, inner ++ m :: outer⟩ op = some t ∧ inner'.length = d ∧
      t.value.2.marks =
        inner' ++ (if op.settles inner.length then m.settledAt c.position else m) :: outer := by
  cases op with
  | onCursor op =>
    cases h
    exact ⟨_, inner, step_onCursor .., rfl, rfl⟩
  | mark =>
    cases h
    exact ⟨_, c.mark :: inner, step_mark .., rfl, rfl⟩
  | drop =>
    cases inner with
    | nil => cases h
    | cons top inner =>
      cases h
      exact ⟨_, inner, step_drop .., rfl, rfl⟩
  | onMark op =>
    cases inner with
    | nil =>
      cases h
      exact ⟨_, [], step_onMark .., rfl, rfl⟩
    | cons top inner =>
      cases h
      exact ⟨_, op.markAfter top c :: inner, step_onMark .., rfl, rfl⟩

/-- A nested run goes through. The mark below keeps its anchor, and it stays entirely as it is if no
step settles it or if it was resolved before. -/
theorem run_above (c : Cursor) (inner : List Mark) (m : Mark) (outer : List Mark)
    {ops : List (Op τ)} {d : Nat} (h : depth? inner.length ops = some d) :
    ∃ t inner' m', run ⟨c, inner ++ m :: outer⟩ ops = some t ∧ inner'.length = d ∧
      t.value.2.marks = inner' ++ m' :: outer ∧ m'.anchor = m.anchor ∧
      (settles inner.length ops = false ∨ m.isResolved → m' = m) := by
  induction ops generalizing c inner m with
  | nil =>
    cases h
    exact ⟨_, inner, m, rfl, rfl, rfl, rfl, fun _ => rfl⟩
  | cons op ops ih =>
    obtain ⟨k, hk, hrest, hsettles⟩ := depth?_cons h
    obtain ⟨⟨⟨reply, ⟨c₁, marks⟩⟩, events⟩, inner₁, ht, hlen, hmarks⟩ :=
      step_above c inner m outer hk
    cases hmarks
    subst hlen
    obtain ⟨u, inner', m', hu, hlen', hmarks', hanchor, hsame⟩ := ih c₁ inner₁
      (if op.settles inner.length then m.settledAt c.position else m) hrest
    refine ⟨_, inner', m', run_cons_of ht hu, hlen', hmarks', ?_, ?_⟩
    · rw [hanchor]
      split
      · rfl
      · rfl
    · rw [hsettles, Bool.or_eq_false_iff]
      rintro (⟨hnot, hrest⟩ | hres)
      · rw [hsame (.inl hrest), hnot]
        rfl
      · have hm : (if op.settles inner.length then m.settledAt c.position else m) = m := by
          split
          · exact Mark.settledAt_of_isResolved hres c.position
          · rfl
        rw [hm] at hsame
        exact hsame (.inr hres)

end TextCursor.Reader
