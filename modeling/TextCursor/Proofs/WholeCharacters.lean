import TextCursor.ByteRule
import TextCursor.Proofs.Characters
import TextCursor.Proofs.LongestRun
import TextCursor.Proofs.Runs

/-! Reading with tests for ASCII never splits a character. Such a test either takes continuation
bytes as they come or takes no lead byte, so its scans end only at character boundaries. -/
namespace TextCursor
variable {τ : Type}

/-- Whether the scan accepted every continuation byte shown to it, or refused every lead byte. -/
def Scan.keepsCharacters (s : Scan τ) : Bool :=
  s.refused.all (!isContinuation ·) || s.accepted.all (!isLead ·)

variable [ByteTest τ]

private theorem Scan.safeCut {test : τ} {l : List UInt8} (h : (along test l).keepsCharacters) :
    SafeCut (along test l).accepted (l.drop (along test l).accepted.length) := by
  rw [keepsCharacters, Bool.or_eq_true] at h
  rcases h with h | h
  · rw [refused_eq_head?, Option.all_eq_true] at h
    exact .inl fun b hb => Bool.not_eq_true' _ ▸ h b hb
  · exact .inr (by simpa using h)

namespace Cursor
variable {c : Cursor}

private theorem isBoundary_advanceWhile {test : τ} (hc : c.source.IsBoundary c.position)
    (h : (Scan.along test c.unread).keepsCharacters) :
    c.source.IsBoundary (c.advanceWhile test).2.position :=
  hc.of_safeCut (Scan.accepted_append_drop test c.unread).symm (Scan.safeCut h)
    (c.position_advanceWhile test)

private theorem isBoundary_pastByte (hc : c.source.IsBoundary c.position)
    (h : ∀ b, c.source.byte? c.position = some b → b < 0x80) :
    c.source.IsBoundary c.pastByte.position := by
  cases hb : c.source.byte? c.position with
  | none =>
    rw [pastByte_of_none hb]
    exact hc
  | some b =>
    obtain ⟨rest, hrest⟩ := unread_eq_cons hb
    have hlead : isLead b = false := by
      have hlt := UInt8.lt_iff_toNat_lt.mp (h b hb)
      simp [isLead, UInt8.le_iff_toNat_le] at hlt ⊢
      omega
    have hpast : c.pastByte.position.toNat = c.position.toNat + [b].length := by
      rw [pastByte_of_some hb]
      exact position_advance hb
    have hbytes : c.source.bytes.drop c.position.toNat = [b] ++ rest := hrest
    exact hc.of_safeCut hbytes (.inr (by simp [hlead])) hpast

/-- Between boundaries in order, and only in order, there is a text. -/
theorem hasText_iff_le {s : Span} (hstart : c.source.IsBoundary s.start)
    (hstop : c.source.IsBoundary s.stop) : c.HasText s ↔ s.start ≤ s.stop :=
  hasText_iff.trans (and_iff_left ⟨hstart, hstop⟩)

private theorem hasText_advanceWhile {test : τ} (hc : c.source.IsBoundary c.position)
    (h : (Scan.along test c.unread).keepsCharacters) :
    c.HasText ⟨c.position, (c.advanceWhile test).2.position⟩ :=
  (hasText_iff_le hc (isBoundary_advanceWhile hc h)).mpr (c.passes_advanceWhile test).le

/-- Whether the operation, carried out at the cursor, is sure to split no character: it scans with a
test for ASCII, reads a byte below 128, moves to a boundary or does not move at all. -/
def Op.keepsCharacters : Op τ → Cursor → Bool
  | advanceWhile test, c | nextWhile test, c | peekWhile test, c =>
    (Scan.along test c.unread).keepsCharacters
  | next, c => (c.source.byte? c.position).all (· < 0x80)
  | setPosition n, c => c.source.IsBoundary n
  | advance, _ | advanceBy _, _ | take _, _ | assign _, _ => false
  | _, _ => true

private theorem Op.isBoundary_after {op : Op τ} (hop : op.keepsCharacters c)
    (hc : c.source.IsBoundary c.position) :
    (op.after c).source = c.source ∧ c.source.IsBoundary (op.after c).position := by
  cases op with
  | advanceWhile test => exact ⟨rfl, isBoundary_advanceWhile hc hop⟩
  | nextWhile test => exact ⟨rfl, isBoundary_advanceWhile hc hop⟩
  | next =>
    refine ⟨c.sameText_pastByte.source, isBoundary_pastByte hc fun b hb => ?_⟩
    rw [keepsCharacters, hb] at hop
    exact of_decide_eq_true hop
  | setPosition n =>
    simp only [after]
    split
    · exact ⟨rfl, hc⟩
    · exact ⟨rfl, of_decide_eq_true hop⟩
  | advance => cases hop
  | advanceBy n => cases hop
  | take n => cases hop
  | assign other => cases hop
  | _ => exact ⟨rfl, hc⟩

def Op.isLexeme : Op τ → Bool
  | nextWhile _ | peekWhile _ => true
  | _ => false

private theorem Op.text_of_isLexeme {op : Op τ} (hlexeme : op.isLexeme) (hop : op.keepsCharacters c)
    (hc : c.source.IsBoundary c.position) :
    ∃ text, (op.run c).value.1.result = .ok (.text text) := by
  cases op with
  | nextWhile test =>
    obtain ⟨text, h⟩ := hasText_advanceWhile hc hop
    rw [substring_congr (c := c) (d := (c.advanceWhile test).2) rfl] at h
    exact ⟨text, congrArg (Except.map Answer.text) h⟩
  | peekWhile test =>
    obtain ⟨text, h⟩ := hasText_advanceWhile hc hop
    exact ⟨text, congrArg (Except.map Answer.text) h⟩
  | _ => cases hlexeme

end Cursor

namespace Reader

/-- The position, every anchor and every frozen end is a character boundary, so none of them lies
past the end. -/
structure Aligned (r : Reader) : Prop where
  position : r.cursor.source.IsBoundary r.cursor.position
  anchor : ∀ m ∈ r.marks, r.cursor.source.IsBoundary m.anchor
  stop : ∀ m ∈ r.marks, ∀ e, m.stop? = some e → r.cursor.source.IsBoundary e

private theorem Aligned.everywhere {r : Reader} (h : r.Aligned) :
    r.Everywhere r.cursor.source.IsBoundary := ⟨h.position, h.anchor, h.stop⟩

/-- An open mark has a text unless its span is reversed. -/
theorem Aligned.hasText_span_iff {r : Reader} (h : r.Aligned) {m : Mark} (hm : m ∈ r.marks) :
    r.cursor.HasText (m.span r.cursor) ↔ (m.span r.cursor).start ≤ (m.span r.cursor).stop :=
  Cursor.hasText_iff_le (h.anchor m hm) (h.everywhere.stop_span hm)

def Op.keepsCharacters : Op τ → Cursor → Bool
  | .onCursor op, c => op.keepsCharacters c
  | _, _ => true

private theorem aligned_step {r : Reader} {op : Op τ} {t : Traced (Reply τ × Reader)} (hr : r.Aligned)
    (hop : op.keepsCharacters r.cursor) (h : r.step op = some t) : t.value.2.Aligned := by
  have hsource : t.value.2.cursor.source = r.cursor.source := by
    cases op with
    | onCursor op =>
      rw [step_onCursor] at h
      cases h
      exact (Cursor.Op.isBoundary_after hop hr.position).1
    | _ => exact (sameText_step rfl h).source
  have hafter : t.value.2.Everywhere r.cursor.source.IsBoundary := by
    apply hr.everywhere.step h
    rintro o rfl
    exact (Cursor.Op.isBoundary_after hop hr.position).2
  rw [← hsource] at hafter
  exact ⟨hafter.position, hafter.anchor, hafter.stop⟩

/-- Whether every step is possible where it is made and sure to split no character there. -/
def admits (r : Reader) : List (Op τ) → Bool
  | [] => true
  | op :: ops => op.keepsCharacters r.cursor &&
    match r.step op with
    | some t => t.value.2.admits ops
    | none => false

private theorem admits_cons {r : Reader} {op : Op τ} {ops : List (Op τ)} (h : r.admits (op :: ops)) :
    op.keepsCharacters r.cursor ∧ ∃ t, r.step op = some t ∧ t.value.2.admits ops := by
  obtain ⟨hop, hrest⟩ := Bool.and_eq_true_iff.mp h
  cases ht : r.step op with
  | none =>
    rw [ht] at hrest
    cases hrest
  | some t =>
    rw [ht] at hrest
    exact ⟨hop, t, rfl, hrest⟩

private theorem admits_of_append {r : Reader} {before after : List (Op τ)} (h : r.admits (before ++ after)) :
    r.admits before := by
  induction before generalizing r with
  | nil => rfl
  | cons op before ih =>
    obtain ⟨hop, t, ht, hrest⟩ := admits_cons h
    rw [admits, hop, ht]
    exact ih hrest

def Op.isLexeme : Op τ → Bool
  | .onCursor op => op.isLexeme
  | _ => false

private theorem step_text {r : Reader} {op : Op τ} {t : Traced (Reply τ × Reader)} (hr : r.Aligned)
    (hop : op.keepsCharacters r.cursor) (hlexeme : op.isLexeme) (h : r.step op = some t) :
    ∃ text, t.value.1.result = .ok (.text text) := by
  cases op with
  | onCursor op =>
    obtain ⟨c, marks⟩ := r
    rw [step_onCursor] at h
    cases h
    exact Cursor.Op.text_of_isLexeme hlexeme hop hr.position
  | _ => cases hlexeme

theorem run_aligned {r : Reader} {ops : List (Op τ)} (hr : r.Aligned) (h : r.admits ops) :
    ∃ t, r.run ops = some t ∧ t.value.2.Aligned ∧
      ∀ p ∈ ops.zip t.value.1, p.1.isLexeme → ∃ text, p.2.result = .ok (.text text) := by
  induction ops generalizing r with
  | nil =>
    refine ⟨_, rfl, hr, fun p hp => ?_⟩
    rw [List.zip_nil_left] at hp
    cases hp
  | cons op ops ih =>
    obtain ⟨hop, s, hs, hrest⟩ := admits_cons h
    obtain ⟨u, hu, haligned, htexts⟩ := ih (aligned_step hr hop hs) hrest
    refine ⟨_, run_cons_of hs hu, haligned, ?_⟩
    rw [List.zip_cons_cons, List.forall_mem_cons]
    exact ⟨fun hlexeme => step_text hr hop hlexeme hs, htexts⟩

/-- From boundaries, a run with tests for ASCII stays at boundaries after every step. All its scans
have a text, and so has every open mark whose span is not reversed. -/
theorem ascii_scans_split_no_character (r : Reader) (aligned : r.Aligned) (ops : List (Op τ))
    (admitted : r.admits ops) (before : List (Op τ)) (reached : before <+: ops) :
    ∃ t, r.run before = some t ∧ t.value.2.Aligned ∧
      (∀ p ∈ before.zip t.value.1, p.1.isLexeme → ∃ text, p.2.result = .ok (.text text)) ∧
      ∀ m ∈ t.value.2.marks, (∃ text, (m.text t.value.2.cursor).value = .ok text) ↔
        (m.span t.value.2.cursor).start ≤ (m.span t.value.2.cursor).stop := by
  obtain ⟨after, rfl⟩ := reached
  obtain ⟨t, ht, haligned, htexts⟩ := run_aligned aligned (admits_of_append admitted)
  exact ⟨t, ht, haligned, htexts, fun m hm => haligned.hasText_span_iff hm⟩

/-- A test that stops only at a comma takes the two bytes of é together, and a test for letters
takes neither. -/
theorem ascii_scans_split_no_character_between_tokens :
    let r : Reader := ⟨⟨⟨"a=é,b", by decide⟩, 2, true⟩, [⟨0, some 1⟩]⟩
    let ops : List (Op ByteRule) := [.mark, .onCursor (.nextWhile (.not (.equal 44))),
      .onMark .commit, .onCursor .next, .onMark .revert, .onCursor (.peekWhile (.inClass .alpha)),
      .onCursor (.setPosition 6), .onMark .text, .drop, .onCursor .next, .onMark .release]
    r.Aligned ∧ r.admits ops ∧
      ∃ t, r.run ops = some t ∧ t.value.2.Aligned ∧
        ∀ p ∈ ops.zip t.value.1, p.1.isLexeme → ∃ text, p.2.result = .ok (.text text) := by
  intro r ops
  have aligned : r.Aligned := by
    refine ⟨by decide, by decide, ?_⟩
    intro m hm e he
    cases List.mem_singleton.mp hm
    cases he
    decide
  have admitted : r.admits ops := by decide +kernel
  obtain ⟨t, ht, haligned, htexts, _⟩ :=
    ascii_scans_split_no_character r aligned ops admitted ops (List.prefix_refl ops)
  exact ⟨aligned, admitted, t, ht, haligned, htexts⟩

end Reader

end TextCursor
