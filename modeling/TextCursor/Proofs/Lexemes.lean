import TextCursor.Proofs.Bounds
import TextCursor.Proofs.LongestRun
import TextCursor.Proofs.Runs
import TextCursor.Proofs.Slicing

/-! The text of a scan. It is one text or one error, decided by the two ends of the scan alone, and
looking ahead gives the same without moving anything. -/
namespace TextCursor
variable {τ : Type} [ByteTest τ]

namespace Cursor

/-- The text of a scan is that of the span between its ends. -/
theorem nextWhile_text (c : Cursor) (test : τ) : (c.nextWhile test).value.text =
    (c.substring ⟨c.position, (c.advanceWhile test).2.position⟩).value :=
  congrArg Traced.value (substring_congr rfl _)

/-- If the accepted bytes have a text, it is their text. -/
theorem utf8_of_nextWhile {c : Cursor} {test : τ} {text : String}
    (h : (c.nextWhile test).value.text = .ok text) : utf8 text = (c.advanceWhile test).1.accepted := by
  rw [nextWhile_text] at h
  rw [utf8_of_substring h, (c.passes_advanceWhile test).eq_between]

/-- The outcome of taking the text of a scan, from the position p to where the scan ends. Past the end of
the source nothing is asked or moved, and the empty span there is refused. Elsewhere the text is that of
the span, if both its ends are character boundaries. If not, the first end that splits a character is to
blame, also if nothing was accepted. The cursor has moved in any case. -/
theorem nextWhile_decided_by_ends (c : Cursor) (test : τ) :
    let p := c.position
    let q := (c.advanceWhile test).2.position
    let lexeme := (c.nextWhile test).value
    lexeme.cursor = { c with position := q } ∧
      (c.length < p → lexeme.scan.asked = [] ∧ lexeme.scan.test = test ∧ q = p ∧
        lexeme.text = .error (.badSpan ⟨p, p⟩ c.length)) ∧
      (p ≤ c.length → p ≤ q ∧ q ≤ c.length ∧
        (∀ asked n, lexeme.text ≠ .error (.badSpan asked n)) ∧
        (∀ k n, lexeme.text ≠ .error (.outside k n)) ∧
        ((∃ text, lexeme.text = .ok text ∧ utf8 text = c.source.bytesBetween p q) ↔
          c.source.IsBoundary p ∧ c.source.IsBoundary q) ∧
        (¬ c.source.IsBoundary p → lexeme.text = .error (.splitCharacter p)) ∧
        (c.source.IsBoundary p → ¬ c.source.IsBoundary q →
          lexeme.text = .error (.splitCharacter q))) := by
  intro p q lexeme
  have htext : lexeme.text = (c.substring ⟨p, q⟩).value := c.nextWhile_text test
  refine ⟨rfl, ?_, ?_⟩
  · intro past
    have hempty : c.advanceWhile test = (⟨[], none, test⟩, c) :=
      advanceWhile_of_length_le (UInt64.le_of_lt past)
    have hq : q = p := congrArg (·.2.position) hempty
    refine ⟨congrArg (·.1.asked) hempty, congrArg (·.1.test) hempty, hq, ?_⟩
    rw [htext, hq]
    exact substring_eq_badSpan_iff.mpr ⟨.inr past, rfl, rfl⟩
  · intro inside
    have hle : p ≤ q := (c.passes_advanceWhile test).le
    have hstop : q ≤ c.length := position_advanceWhile_le inside test
    have hok : c.HasText ⟨p, q⟩ ↔ c.source.IsBoundary p ∧ c.source.IsBoundary q :=
      hasText_iff.trans (and_iff_right hle)
    have hfailed : ∀ e, (c.substring ⟨p, q⟩).value = .error e →
        e = .splitCharacter (if c.source.IsBoundary p then q else p) := by
      intro e he
      exact eq_splitCharacter_of_error (s := ⟨p, q⟩) hle hstop he
    rw [htext]
    refine ⟨hle, hstop, ?_, ?_, ?_, ?_, ?_⟩
    · intro asked n h
      cases hfailed _ h
    · intro k n h
      cases hfailed _ h
    · rw [← hok]
      constructor
      · rintro ⟨text, hvalue, _⟩
        exact ⟨text, hvalue⟩
      · rintro ⟨text, hvalue⟩
        exact ⟨text, hvalue, utf8_of_substring hvalue⟩
    · intro hp
      rw [substring_of_split (s := ⟨p, q⟩) hle hstop fun h => hp h.1, if_neg hp]
    · intro hp hq
      rw [substring_of_split (s := ⟨p, q⟩) hle hstop fun h => hq h.2, if_pos hp]

/-- Inside é even an empty scan is refused for its start. Behind the end a scan is refused for
its bounds, and its test is as before. -/
theorem nextWhile_decided_by_ends_outside :
    let c : Cursor := ⟨⟨"aé", by decide⟩, 2, true⟩
    let past : Cursor := { c with position := Offset.greatest }
    let test : ByteRule := .first 0
    c.position ≤ c.length ∧ ¬ c.source.IsBoundary c.position ∧
      (c.nextWhile test).value.text = .error (.splitCharacter 2) ∧
      past.length < past.position ∧ (past.nextWhile test).value.scan.test = test ∧
      (past.nextWhile test).value.text = .error (.badSpan ⟨Offset.greatest, Offset.greatest⟩ 3) := by
  intro c past test
  have inside : c.position ≤ c.length := by decide
  have split : ¬ c.source.IsBoundary c.position := by decide +kernel
  have behind : past.length < past.position := by decide
  obtain ⟨_, _, hinside⟩ := nextWhile_decided_by_ends c test
  obtain ⟨_, hpast, _⟩ := nextWhile_decided_by_ends past test
  obtain ⟨_, _, _, _, _, hstart, _⟩ := hinside inside
  obtain ⟨_, same_test, _, refused⟩ := hpast behind
  exact ⟨inside, split, hstart split, behind, same_test, refused⟩

/-! ### Looking ahead -/

private theorem peekWhile_value (c : Cursor) (test : τ) :
    (c.peekWhile test).value = { (c.nextWhile test).value with cursor := c } := by
  have hmark : (c.peekWhile test).value.text =
      (c.substring ⟨c.position, (c.advanceWhile test).2.position⟩).value := rfl
  have htext := hmark.trans (c.nextWhile_text test).symm
  exact congrArg (fun text => (⟨text, (c.advanceWhile test).1, c⟩ : Lexeme τ)) htext

private theorem Op.run_peekWhile_reply (c : Cursor) (test : τ) :
    ((Op.peekWhile test).run c).value.1 = ((Op.nextWhile test).run c).value.1 :=
  (congrArg Reply.ofLexeme (c.peekWhile_value test)).trans rfl

end Cursor

namespace ByteTest

def IsStateless (test : τ) : Prop := ∀ b, (ask test b).2 = test

theorem IsStateless.after_eq {test : τ} (h : IsStateless test) (bytes : List UInt8) :
    after test bytes = test := by
  induction bytes with
  | nil => rfl
  | cons b rest ih =>
    rw [after, List.foldl_cons, h b]
    exact ih

end ByteTest

namespace Reader

private theorem run_replicate_peekWhile (c : Cursor) (marks : List Mark) (test : τ) (n : Nat) :
    ∃ events, run ⟨c, marks⟩
        (List.replicate n (.onCursor (.peekWhile test)) ++ [.onCursor (.nextWhile test)]) =
      some ⟨(List.replicate (n + 1) ((Cursor.Op.nextWhile test).run c).value.1,
        ⟨(c.advanceWhile test).2, marks⟩), events⟩ := by
  induction n with
  | zero => exact ⟨_, run_onCursor c marks (.nextWhile test)⟩
  | succ n ih =>
    obtain ⟨events, hrun⟩ := ih
    have hstep := step_onCursor c marks (.peekWhile test)
    rw [Cursor.Op.run_peekWhile_reply] at hstep
    exact ⟨_, run_cons_of hstep hrun⟩

/-- Looking ahead replies what taking the text replies on a copy of the cursor, with the same calls and the
same test in the end, and leaves cursor and marks as they were, whether there is a text or not. A test that
never changes is left as it was too, so it may look ahead any number of times before the text is taken, and
all replies are the same. -/
theorem lookahead_replies_as_reading (r : Reader) (test : τ) :
    ∃ ahead taken, r.step (.onCursor (.peekWhile test)) = some ahead ∧
      step ⟨r.cursor, []⟩ (.onCursor (.nextWhile test)) = some taken ∧
      ahead.value.1 = taken.value.1 ∧ ahead.value.2 = r ∧
      (ByteTest.IsStateless test →
        (∃ scan, ahead.value.1.scan = some scan ∧ scan.test = test) ∧
        ∀ n, ∃ events, r.run
            (List.replicate n (.onCursor (.peekWhile test)) ++ [.onCursor (.nextWhile test)]) =
          some ⟨(List.replicate (n + 1) ahead.value.1, ⟨taken.value.2.cursor, r.marks⟩), events⟩) := by
  obtain ⟨c, marks⟩ := r
  refine ⟨_, _, step_onCursor c marks (.peekWhile test), step_onCursor c [] (.nextWhile test), ?_, rfl,
    ?_⟩
  · exact Cursor.Op.run_peekWhile_reply c test
  · intro stateless
    refine ⟨⟨_, rfl, ?_⟩, ?_⟩
    · exact (Scan.test_eq_after test c.unread).trans (stateless.after_eq _)
    · intro n
      rw [Cursor.Op.run_peekWhile_reply]
      exact run_replicate_peekWhile c marks test n

/-- The text of a scan into é is refused again and again in the same words. The open mark does not notice. -/
theorem lookahead_replies_as_reading_inside_character :
    let r : Reader := ⟨⟨⟨"aé", by decide⟩, 0, false⟩, [⟨2, some 1⟩]⟩
    let test : ByteRule := .not (.equal 0xA9)
    ByteTest.IsStateless test ∧
      ∃ ahead events, r.step (.onCursor (.peekWhile test)) = some ahead ∧ ahead.value.2 = r ∧
        ahead.value.1.error? = some (.splitCharacter 2) ∧
        r.run [.onCursor (.peekWhile test), .onCursor (.peekWhile test), .onCursor (.nextWhile test)] =
          some ⟨([ahead.value.1, ahead.value.1, ahead.value.1],
            ⟨{ r.cursor with position := 2 }, r.marks⟩), events⟩ := by
  intro r test
  have stateless : ByteTest.IsStateless test := fun b => rfl
  obtain ⟨ahead, taken, hahead, htaken, hreply, hsame, hrepeat⟩ := lookahead_replies_as_reading r test
  obtain ⟨_, hrun⟩ := hrepeat stateless
  obtain ⟨events, hrun⟩ := hrun 2
  have hrefused : ahead.value.1.error? = some (.splitCharacter 2) := by
    have h : (r.step (.onCursor (.peekWhile test))).map (·.value.1.error?) =
        some (some (.splitCharacter 2)) := by decide +kernel
    rw [hahead] at h
    exact Option.some.inj h
  have hcursor : taken.value.2.cursor = { r.cursor with position := 2 } := by
    have h : (step ⟨r.cursor, []⟩ (.onCursor (.nextWhile test))).map (·.value.2.cursor) =
        some { r.cursor with position := 2 } := by decide +kernel
    rw [htaken] at h
    exact Option.some.inj h
  rw [hcursor] at hrun
  exact ⟨stateless, ahead, events, hahead, hsame, hrefused, hrun⟩

end Reader

end TextCursor
