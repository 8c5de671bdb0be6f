import TextCursor.ByteRule
import TextCursor.Proofs.Consumption

/-! A scan takes the longest run of bytes that its test accepts, and asks about each byte once. The loop
that looks at the cursor before every single step asks the same and ends in the same place. -/
namespace TextCursor
variable {τ : Type} [ByteTest τ]

namespace ByteTest

def after (test : τ) (bytes : List UInt8) : τ := bytes.foldl (fun t b => (ask t b).2) test

def answers (test : τ) : List UInt8 → List Bool
  | [] => []
  | b :: rest => (ask test b).1 :: answers (ask test b).2 rest

private theorem length_answers (test : τ) (bytes : List UInt8) :
    (answers test bytes).length = bytes.length := by
  induction bytes generalizing test with
  | nil => rfl
  | cons b rest ih => simp [answers, ih]

end ByteTest

namespace Scan
variable {test next : τ} {b : UInt8}

theorem along_of_accepted (h : ByteTest.ask test b = (true, next)) (rest : List UInt8) :
    along test (b :: rest) =
      { along next rest with accepted := b :: (along next rest).accepted } := by
  rw [along, h]

theorem along_of_refused (h : ByteTest.ask test b = (false, next)) (rest : List UInt8) :
    along test (b :: rest) = ⟨[], some b, next⟩ := by
  rw [along, h]

/-- The bytes shown to the test come in their order, from the first one on, without a gap. -/
theorem asked_prefix (test : τ) (l : List UInt8) : (along test l).asked <+: l := by
  fun_induction along test l with
  | case1 test => exact List.prefix_refl []
  | case2 test b rest next h s ih => exact (List.prefix_cons_inj b).mpr ih
  | case3 test b rest next h => exact ⟨rest, rfl⟩

/-- The byte that is refused is the first one not accepted. -/
theorem refused_eq_head? (test : τ) (l : List UInt8) :
    (along test l).refused = (l.drop (along test l).accepted.length).head? := by
  fun_induction along test l with
  | case1 test => rfl
  | case2 test b rest next h s ih => exact ih
  | case3 test b rest next h => rfl

private theorem asked_eq_of_refused_none {l : List UInt8} (h : (along test l).refused = none) :
    (along test l).asked = l := by
  fun_induction along test l with
  | case1 test => rfl
  | case2 test b rest next hask s ih => exact congrArg (b :: ·) (ih h)
  | case3 test b rest next hask => cases h

/-- The scan leaves the test as asking about those bytes and no others leaves it. -/
theorem test_eq_after (test : τ) (l : List UInt8) :
    (along test l).test = ByteTest.after test (along test l).asked := by
  fun_induction along test l with
  | case1 test => rfl
  | case2 test b rest next h s ih =>
    simp only [asked, List.cons_append, ByteTest.after, List.foldl_cons, h]
    exact ih
  | case3 test b rest next h => simp [asked, ByteTest.after, h]

/-- All answers are yes, but for the one that ends the scan before the bytes run out. -/
theorem answers_asked (test : τ) (l : List UInt8) :
    ByteTest.answers test (along test l).asked =
      List.replicate (along test l).accepted.length true ++
        (along test l).refused.toList.map fun _ => false := by
  fun_induction along test l with
  | case1 test => rfl
  | case2 test b rest next h s ih =>
    simp only [asked, List.cons_append, ByteTest.answers, h, List.length_cons,
      List.replicate_succ]
    exact congrArg (true :: ·) ih
  | case3 test b rest next h => simp [asked, ByteTest.answers, h]

private theorem count_answers (test : τ) (l : List UInt8) :
    (ByteTest.answers test (along test l).asked).count true = (along test l).accepted.length := by
  rw [answers_asked, List.count_append, List.count_replicate_self]
  cases (along test l).refused with
  | none => rfl
  | some b => rfl

end Scan

namespace Cursor

/-- Looks up the byte at the position. Where there is none a loop ends. -/
def lookUp (c : Cursor) : Option (Except AccessError UInt8) :=
  (c.source.byte? c.position).map .ok

def lookAndRead (c : Cursor) : Option (Except AccessError UInt8) :=
  if c.isReadable then some c.peek.value else none

/-- The loop that looks at the cursor and steps forward while there is a byte and the test accepts it: what
it asked about on the way, and the cursor and the test it ends with. It does not get past a failing read. -/
inductive Loops (look : Cursor → Option (Except AccessError UInt8)) :
    Cursor → τ → List UInt8 → Cursor → τ → Prop
  | exhausted {c : Cursor} {test : τ} (nothing : look c = none) : Loops look c test [] c test
  | refused {c : Cursor} {test next : τ} {b : UInt8} (seen : look c = some (.ok b))
    (answer : ByteTest.ask test b = (false, next)) : Loops look c test [b] c next
  | accepted {c d : Cursor} {test next last : τ} {b : UInt8} {asked : List UInt8}
    (seen : look c = some (.ok b)) (answer : ByteTest.ask test b = (true, next))
    (others : Loops look c.advance next asked d last) : Loops look c test (b :: asked) d last

section
variable {c : Cursor} {b : UInt8}

/-- The sum that decides readability is exact, so it finds a byte where the source has one. -/
theorem isReadable_iff (c : Cursor) : c.isReadable ↔ (c.source.byte? c.position).isSome := by
  have hlength : c.length.toNat = c.source.bytes.length := c.source.toNat_length
  rw [isReadable, isReadableBy_iff, hlength, Source.byte?_eq, isSome_getElem?]
  exact Nat.succ_le_iff

/-- Both ways of looking see the same at every position, so what is readable never fails to be read. -/
theorem lookAndRead_eq : lookAndRead = lookUp := by
  funext c
  have hreadable := c.isReadable_iff
  rw [lookAndRead, lookUp, peek_value]
  cases hb : c.source.byte? c.position with
  | some b =>
    rw [if_pos (hreadable.mpr (by rw [hb]; rfl))]
    rfl
  | none =>
    rw [hb] at hreadable
    rw [if_neg (fun h => Bool.false_ne_true (hreadable.mp h))]
    rfl

private theorem lookUp_eq_ok_iff : c.lookUp = some (.ok b) ↔ c.source.byte? c.position = some b := by
  rw [lookUp]
  cases c.source.byte? c.position with
  | some x => simp
  | none => simp

theorem unread_of_none (h : c.source.byte? c.position = none) : c.unread = [] := by
  rw [Source.byte?_eq, List.getElem?_eq_none_iff] at h
  exact List.drop_eq_nil_of_le h

theorem unread_of_some (h : c.source.byte? c.position = some b) : c.unread = b :: c.advance.unread := by
  obtain ⟨rest, hrest⟩ := unread_eq_cons h
  have hunread : c.advance.unread = c.unread.drop 1 := by
    rw [unread, position_advance h, unread, List.drop_drop]
    rfl
  rw [hunread, hrest]
  rfl

end

section
variable {c : Cursor} {test next : τ} {b : UInt8}

private theorem advanceWhile_of_unread_nil (h : c.unread = []) :
    c.advanceWhile test = (⟨[], none, test⟩, c) := by
  have hscan : (c.advanceWhile test).1 = ⟨[], none, test⟩ := by
    rw [advanceWhile, h]
    rfl
  exact Prod.ext hscan ((c.advanceWhile_eq_self_iff test).mpr (by rw [hscan]))

/-- At the end and behind it nothing is asked and nothing moves. -/
theorem advanceWhile_of_length_le (h : c.length ≤ c.position) :
    c.advanceWhile test = (⟨[], none, test⟩, c) := by
  apply advanceWhile_of_unread_nil
  apply List.drop_eq_nil_of_le
  rw [← Source.toNat_length]
  exact UInt64.le_iff_toNat_le.mp h

private theorem advanceWhile_of_refused (h : c.source.byte? c.position = some b)
    (hask : ByteTest.ask test b = (false, next)) :
    c.advanceWhile test = (⟨[], some b, next⟩, c) := by
  have hscan : (c.advanceWhile test).1 = ⟨[], some b, next⟩ := by
    rw [advanceWhile, unread_of_some h]
    exact Scan.along_of_refused hask _
  exact Prod.ext hscan ((c.advanceWhile_eq_self_iff test).mpr (by rw [hscan]))

private theorem advanceWhile_of_accepted (h : c.source.byte? c.position = some b)
    (hask : ByteTest.ask test b = (true, next)) :
    c.advanceWhile test =
      ({ (c.advance.advanceWhile next).1 with
          accepted := b :: (c.advance.advanceWhile next).1.accepted },
        (c.advance.advanceWhile next).2) := by
  have hscan : (c.advanceWhile test).1 = { (c.advance.advanceWhile next).1 with
      accepted := b :: (c.advance.advanceWhile next).1.accepted } := by
    rw [advanceWhile, unread_of_some h]
    exact Scan.along_of_accepted hask _
  have hone := position_advance h
  have hp := c.position_advanceWhile test
  have hrest := c.advance.position_advanceWhile next
  rw [hscan, List.length_cons] at hp
  refine Prod.ext hscan (SameText.eq_of_position ⟨rfl, rfl⟩ ?_)
  show (c.advanceWhile test).2.position.toNat = (c.advance.advanceWhile next).2.position.toNat
  omega

private theorem eq_of_loops {d : Cursor} {last : τ} {asked : List UInt8}
    (h : Loops lookUp c test asked d last) :
    asked = (c.advanceWhile test).1.asked ∧ d = (c.advanceWhile test).2 ∧
      last = (c.advanceWhile test).1.test := by
  induction h with
  | exhausted nothing =>
    rw [advanceWhile_of_unread_nil (unread_of_none (Option.map_eq_none_iff.mp nothing))]
    exact ⟨rfl, rfl, rfl⟩
  | refused seen answer =>
    rw [advanceWhile_of_refused (lookUp_eq_ok_iff.mp seen) answer]
    exact ⟨rfl, rfl, rfl⟩
  | accepted seen answer others ih =>
    obtain ⟨rfl, rfl, rfl⟩ := ih
    rw [advanceWhile_of_accepted (lookUp_eq_ok_iff.mp seen) answer]
    exact ⟨rfl, rfl, rfl⟩

private theorem loops_advanceWhile (c : Cursor) (test : τ) : Loops lookUp c test (c.advanceWhile test).1.asked
    (c.advanceWhile test).2 (c.advanceWhile test).1.test := by
  induction hl : c.unread generalizing c test with
  | nil =>
    rw [advanceWhile_of_unread_nil hl]
    apply Loops.exhausted
    cases hb : c.source.byte? c.position with
    | none =>
      rw [lookUp, hb]
      rfl
    | some b =>
      rw [unread_of_some hb] at hl
      cases hl
  | cons b rest ih =>
    cases hb : c.source.byte? c.position with
    | none =>
      rw [unread_of_none hb] at hl
      cases hl
    | some b =>
      rw [unread_of_some hb] at hl
      cases hask : ByteTest.ask test b with
      | mk yes next =>
        cases yes with
        | true =>
          rw [advanceWhile_of_accepted hb hask]
          exact .accepted (lookUp_eq_ok_iff.mpr hb) hask (ih c.advance next (List.cons.inj hl).2)
        | false =>
          rw [advanceWhile_of_refused hb hask]
          exact .refused (lookUp_eq_ok_iff.mpr hb) hask

theorem loops_iff {look : Cursor → Option (Except AccessError UInt8)} (hlook : look = lookUp)
    {d : Cursor} {last : τ} {asked : List UInt8} : Loops look c test asked d last ↔
      asked = (c.advanceWhile test).1.asked ∧ d = (c.advanceWhile test).2 ∧
        last = (c.advanceWhile test).1.test := by
  subst hlook
  constructor
  · exact eq_of_loops
  · rintro ⟨rfl, rfl, rfl⟩
    exact c.loops_advanceWhile test

private theorem byte?_of_refused (h : (c.advanceWhile test).1.refused = some b) :
    (c.advanceWhile test).2.source.byte? (c.advanceWhile test).2.position = some b := by
  rw [Source.byte?_eq, position_advanceWhile, ← List.getElem?_drop, ← List.head?_drop, ← h]
  exact (Scan.refused_eq_head? test c.unread).symm

end

/-- A scan shows its test the unread bytes in order, each once, up to the first that is refused or to the
end, and moves by the number of bytes accepted. Past the end it asks nothing and moves nothing. The loop
that reads before each step only what is readable, and the one that looks the byte up, make the same calls
and end with the same cursor and test, and so do the scans behind texts. -/
theorem scan_takes_longest_accepted_run (c : Cursor) (test : τ) :
    let scan := (c.advanceWhile test).1
    let moved := (c.advanceWhile test).2
    let answers := ByteTest.answers test scan.asked
    let accepted := answers.count true
    scan.asked <+: c.unread ∧ scan.test = ByteTest.after test scan.asked ∧
      c.SameText moved ∧ moved.position.toNat = c.position.toNat + accepted ∧
      (∀ b, scan.refused = some b →
        scan.asked.length = accepted + 1 ∧ answers = List.replicate accepted true ++ [false] ∧
          moved.source.byte? moved.position = some b) ∧
      (scan.refused = none →
        scan.asked.length = accepted ∧ answers = List.replicate accepted true ∧
          scan.asked = c.unread) ∧
      (c.length ≤ c.position → scan.asked = [] ∧ scan.test = test ∧ moved = c) ∧
      (∀ asked d last, Loops lookAndRead c test asked d last ↔
        asked = scan.asked ∧ d = moved ∧ last = scan.test) ∧
      (∀ asked d last, Loops lookUp c test asked d last ↔
        asked = scan.asked ∧ d = moved ∧ last = scan.test) ∧
      (c.nextWhile test).value.scan = scan ∧ (c.peekWhile test).value.scan = scan := by
  intro scan moved answers accepted
  have hcount : accepted = scan.accepted.length := Scan.count_answers test c.unread
  have hanswers : answers = List.replicate accepted true ++ scan.refused.toList.map fun _ => false := by
    rw [hcount]
    exact Scan.answers_asked test c.unread
  have hlength : scan.asked.length = answers.length := (ByteTest.length_answers test scan.asked).symm
  refine ⟨Scan.asked_prefix test c.unread, Scan.test_eq_after test c.unread, ⟨rfl, rfl⟩, ?_, ?_, ?_, ?_,
    ?_, ?_, rfl, rfl⟩
  · rw [hcount]
    exact c.position_advanceWhile test
  · intro b hb
    rw [hb] at hanswers
    refine ⟨?_, hanswers, byte?_of_refused hb⟩
    rw [hlength, hanswers]
    simp
  · intro hnone
    rw [hnone] at hanswers
    have hall : answers = List.replicate accepted true := hanswers.trans (List.append_nil _)
    refine ⟨?_, hall, Scan.asked_eq_of_refused_none hnone⟩
    rw [hlength, hall, List.length_replicate]
  · intro past
    have hempty : c.advanceWhile test = (⟨[], none, test⟩, c) := advanceWhile_of_length_le past
    refine ⟨?_, ?_, ?_⟩
    · exact congrArg (·.1.asked) hempty
    · exact congrArg (·.1.test) hempty
    · exact congrArg Prod.snd hempty
  · intro asked d last
    exact loops_iff lookAndRead_eq
  · intro asked d last
    exact loops_iff rfl

/-- A test that refuses repetitions changes with each byte. It is asked about the second a, refuses it and
keeps that in mind. At the greatest position it is not asked at all. -/
theorem scan_takes_longest_accepted_run_changing :
    let test : ByteRule := .noRepeat none
    let c : Cursor := ⟨⟨"baa", by decide⟩, 0, true⟩
    let past : Cursor := { c with position := Offset.greatest }
    (c.advanceWhile test).1.asked = [98, 97, 97] ∧ (c.advanceWhile test).2.position.toNat = 2 ∧
      Loops lookAndRead c test [98, 97, 97] { c with position := 2 } (.noRepeat (some 97)) ∧
      past.length ≤ past.position ∧ (past.advanceWhile test).1.asked = [] ∧
      (past.advanceWhile test).2 = past := by
  intro test c past
  have asked : (c.advanceWhile test).1.asked = [98, 97, 97] := by decide +kernel
  have hpast : past.length ≤ past.position := by decide
  obtain ⟨_, _, _, hmoved, _, _, _, hloops, _⟩ := scan_takes_longest_accepted_run c test
  obtain ⟨_, _, _, _, _, _, hstill, _⟩ := scan_takes_longest_accepted_run past test
  obtain ⟨hasked, _, hcursor⟩ := hstill hpast
  refine ⟨asked, ?_, ?_, hpast, hasked, hcursor⟩
  · rw [hmoved, asked]
    decide
  · exact (hloops _ _ _).mpr ⟨asked.symm, by decide +kernel, by decide +kernel⟩

end Cursor

end TextCursor
