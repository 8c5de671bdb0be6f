import TextCursor.ByteRule
import TextCursor.Proofs.Lexemes

/-! Reading one byte after the other up to the end and against it, and scans that count their bytes. -/
namespace TextCursor
variable {τ : Type} [ByteTest τ]

namespace ByteTest

/-- Asked about the bytes one after the other, the test accepts the first n of them and no others. -/
def AcceptsFirst (n : Nat) (test : τ) (bytes : List UInt8) : Prop :=
  ∀ asked b, asked ++ [b] <+: bytes → (ask (after test asked) b).1 = decide (asked.length < n)

namespace AcceptsFirst
variable {n : Nat} {test : τ} {b : UInt8} {rest : List UInt8}

private theorem ask_zero (h : AcceptsFirst 0 test (b :: rest)) : ask test b = (false, (ask test b).2) :=
  Prod.ext (h [] b ⟨rest, rfl⟩) rfl

private theorem ask_succ (h : AcceptsFirst (n + 1) test (b :: rest)) :
    ask test b = (true, (ask test b).2) :=
  Prod.ext ((h [] b ⟨rest, rfl⟩).trans (decide_eq_true (Nat.zero_lt_succ n))) rfl

theorem next (h : AcceptsFirst (n + 1) test (b :: rest)) : AcceptsFirst n (ask test b).2 rest := by
  intro asked x hprefix
  have hx := h (b :: asked) x ((List.prefix_cons_inj b).mpr hprefix)
  rw [List.length_cons, decide_eq_decide.mpr Nat.add_lt_add_iff_right] at hx
  exact hx

end AcceptsFirst

end ByteTest

private theorem Scan.accepted_of_acceptsFirst {n : Nat} {test : τ} {l : List UInt8}
    (h : ByteTest.AcceptsFirst n test l) : (along test l).accepted = l.take n := by
  induction l generalizing n test with
  | nil => exact List.take_nil.symm
  | cons b rest ih =>
    cases n with
    | zero =>
      rw [along_of_refused h.ask_zero]
      rfl
    | succ n =>
      rw [along_of_accepted h.ask_succ, List.take_succ_cons]
      exact congrArg (b :: ·) (ih h.next)

namespace ByteRule

private theorem after_first (n : Nat) (asked : List UInt8) :
    ByteTest.after (first n) asked = first (n - asked.length) := by
  induction asked generalizing n with
  | nil => rfl
  | cons b rest ih =>
    rw [ByteTest.after, List.foldl_cons, List.length_cons, Nat.add_comm, Nat.sub_add_eq]
    exact ih (n - 1)

private theorem acceptsFirst_first (n : Nat) (bytes : List UInt8) :
    ByteTest.AcceptsFirst n (first n) bytes := by
  intro asked b _
  rw [after_first]
  show (n - asked.length != 0) = decide (asked.length < n)
  rw [Bool.eq_iff_iff, bne_iff_ne, decide_eq_true_eq]
  omega

end ByteRule

namespace Cursor

private theorem take_unread (c : Cursor) (n : Nat) : c.unread.take n =
    c.source.bytes.extract c.position.toNat (min (c.position.toNat + n) c.length.toNat) := by
  rw [List.extract_eq_take_drop]
  apply List.take_eq_take_iff.mpr
  show min n c.unread.length = min _ c.unread.length
  rw [length_unread]
  omega

/-- Past the end nothing moves, so n steps lead over n bytes or over all there are. -/
private theorem position_iterate_pastByte (c : Cursor) (n : Nat) :
    (pastByte^[n] c).position.toNat = c.position.toNat + min n c.unread.length := by
  induction n generalizing c with
  | zero => simp
  | succ n ih =>
    rw [Function.iterate_succ_apply, ih]
    cases hb : c.source.byte? c.position with
    | some b =>
      have hp := position_advance hb
      have hunread := congrArg List.length (unread_of_some hb)
      rw [List.length_cons] at hunread
      rw [pastByte_of_some hb]
      omega
    | none =>
      have hunread := congrArg List.length (unread_of_none hb)
      rw [List.length_nil] at hunread
      rw [pastByte_of_none hb]
      omega

def exhaustion (τ : Type) (c : Cursor) : Reply τ :=
  .ofExcept .byte (.error (.outside (c.position.target 0) c.length))

end Cursor

namespace Reader

/-- The replies of n reads: the unread bytes in order, and then always the same error. -/
theorem run_replicate_next (c : Cursor) (marks : List Mark) (n : Nat) :
    ∃ events, run ⟨c, marks⟩ (List.replicate n (.onCursor .next : Op τ)) =
      some ⟨((c.unread.take n).map (fun b => .ok (.byte b)) ++
          List.replicate (n - c.unread.length) (Cursor.exhaustion τ (Cursor.pastByte^[n] c)),
        ⟨Cursor.pastByte^[n] c, marks⟩), events⟩ := by
  induction n generalizing c with
  | zero =>
    refine ⟨[], ?_⟩
    rw [List.take_zero, Nat.zero_sub]
    rfl
  | succ n ih =>
    have hstep := step_onCursor c marks (.next : Cursor.Op τ)
    rw [Cursor.Op.run_next_reply, c.next_value] at hstep
    obtain ⟨events, hrun⟩ := ih c.pastByte
    refine ⟨((.next : Cursor.Op τ).run c).events ++ events, ?_⟩
    rw [Function.iterate_succ_apply, List.replicate_succ, run_cons_of hstep hrun]
    cases hb : c.source.byte? c.position with
    | some b =>
      rw [Cursor.pastByte_of_some hb, Cursor.unread_of_some hb, List.take_succ_cons, List.length_cons,
        Nat.add_sub_add_right]
      rfl
    | none =>
      have hfix := Cursor.pastByte_of_none hb
      rw [hfix, Cursor.unread_of_none hb, List.take_nil, List.take_nil, List.length_nil, Nat.sub_zero,
        Nat.sub_zero, List.replicate_succ, Function.iterate_fixed hfix]
      rfl

/-- Reading n times gives the bytes from the position up to n further on or up to the end, in order. All
other replies are one error, about the offset where the cursor stays, which is behind the last byte read, or
where it was if that was past the end. A scan ends there too if its test accepts the first n bytes and no
others, and if it gives a text, that is the text of these bytes. -/
theorem reading_drains_source (r : Reader) (n : Nat) :
    let p := r.cursor.position.toNat
    let stop := min (p + n) r.cursor.length.toNat
    let bytes := r.cursor.source.bytes.extract p stop
    ∃ d events,
      r.run (List.replicate n (.onCursor .next : Op τ)) =
          some ⟨(bytes.map (fun b => .ok (.byte b)) ++
            List.replicate (n - bytes.length) (Cursor.exhaustion τ d), ⟨d, r.marks⟩), events⟩ ∧
        r.cursor.SameText d ∧ d.position.toNat = max p stop ∧
        ∀ test : τ, ByteTest.AcceptsFirst n test r.cursor.unread →
          (r.cursor.advanceWhile test).2 = d ∧
            ∀ text, (r.cursor.nextWhile test).value.text = .ok text → utf8 text = bytes := by
  intro p stop bytes
  have hlength : r.cursor.unread.length = r.cursor.length.toNat - p := r.cursor.length_unread
  have hbytes : r.cursor.unread.take n = bytes := r.cursor.take_unread n
  have hcount : n - bytes.length = n - r.cursor.unread.length := by
    rw [← hbytes, List.length_take]
    omega
  have hposition : (Cursor.pastByte^[n] r.cursor).position.toNat = p + min n r.cursor.unread.length :=
    r.cursor.position_iterate_pastByte n
  obtain ⟨events, hrun⟩ := run_replicate_next (τ := τ) r.cursor r.marks n
  rw [hbytes, ← hcount] at hrun
  refine ⟨Cursor.pastByte^[n] r.cursor, events, hrun, r.cursor.sameText_iterate_pastByte n, ?_, ?_⟩
  · omega
  · intro test counts
    have haccepted : (r.cursor.advanceWhile test).1.accepted = r.cursor.unread.take n :=
      Scan.accepted_of_acceptsFirst counts
    have hscan := r.cursor.position_advanceWhile test
    rw [haccepted, List.length_take] at hscan
    constructor
    · -- Both cursors differ from c in the position only, so equal positions are enough.
      have hsame := (r.cursor.sameText_iterate_pastByte n).symm.trans
        (r.cursor.passes_advanceWhile test).sameText
      exact hsame.eq_of_position (hscan.trans hposition.symm)
    · intro text htext
      rw [Cursor.utf8_of_nextWhile htext, haccepted, hbytes]

/-- From the second byte of aé there are two bytes to read, and the third reply is an error. Behind the end
all replies are. -/
theorem reading_drains_source_from_tail :
    let r : Reader := ⟨⟨⟨"aé", by decide⟩, 1, true⟩, [⟨0, none⟩]⟩
    let past : Reader := ⟨{ r.cursor with position := 5 }, r.marks⟩
    let next : Op ByteRule := .onCursor .next
    ByteTest.AcceptsFirst 3 (ByteRule.first 3) r.cursor.unread ∧
      ∃ d e events later,
        r.run [next, next, next] =
            some ⟨([.ok (.byte 0xC3), .ok (.byte 0xA9), Cursor.exhaustion ByteRule d], ⟨d, r.marks⟩),
              events⟩ ∧
          d.position.toNat = 3 ∧ (r.cursor.advanceWhile (ByteRule.first 3)).2 = d ∧
          (r.cursor.nextWhile (ByteRule.first 3)).value.text = .ok "é" ∧ utf8 "é" = [0xC3, 0xA9] ∧
          past.run [next] = some ⟨([Cursor.exhaustion ByteRule e], ⟨e, past.marks⟩), later⟩ ∧
          e.position.toNat = 5 := by
  intro r past next
  have counts : ByteTest.AcceptsFirst 3 (ByteRule.first 3) r.cursor.unread :=
    ByteRule.acceptsFirst_first 3 _
  have htext : (r.cursor.nextWhile (ByteRule.first 3)).value.text = .ok "é" := by
    rw [Cursor.nextWhile_text]
    exact Cursor.substring_ok_iff.mpr (by decide +kernel)
  obtain ⟨d, events, hrun, _, hposition, hscan⟩ := reading_drains_source (τ := ByteRule) r 3
  obtain ⟨e, later, hlater, _, hstill, _⟩ := reading_drains_source (τ := ByteRule) past 1
  obtain ⟨hmoved, hbytes⟩ := hscan (ByteRule.first 3) counts
  refine ⟨counts, d, e, events, later, hrun, hposition, hmoved, htext, hbytes _ htext, hlater,
    hstill⟩

end Reader

end TextCursor
