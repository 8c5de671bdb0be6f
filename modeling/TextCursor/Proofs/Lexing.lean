import TextCursor.ByteRule
import TextCursor.Proofs.Backtracking
import TextCursor.Proofs.Consumption

/-! Lexing gives back the source without gap or overlap. A lexing run mixes single bytes, scans,
captured lexemes and lookaheads, and reports what it consumed in three different ways. -/
namespace TextCursor

def Answer.bytes : Answer → List UInt8
  | byte b => [b]
  | text s => utf8 s
  | _ => []

def Reply.bytes? {τ : Type} (r : Reply τ) : Option (List UInt8) :=
  r.result.toOption.map Answer.bytes

namespace Lexing

inductive Piece (τ : Type) where
  | next
  | nextWhile (test : τ)
  /-- Scans through a fresh mark, commits it and reads its text. -/
  | capture (tests : List τ)
  | peek
  | peekAt (k : Displacement)
  | peekWhile (test : τ)
  /-- Tries steps through a fresh mark and reverts it. -/
  | reverted (ops : List (Reader.Op τ))
  /-- Tries steps through a fresh mark and releases it. -/
  | released (ops : List (Reader.Op τ))

namespace Piece
variable {τ : Type}

def isLookahead : Piece τ → Bool
  | next | nextWhile _ | capture _ => false
  | _ => true

/-- Whether the steps that are only tried are nested and overwrite nothing, and leave the mark
unresolved if it is to be released. -/
def isAdmissible (strict : Bool) : Piece τ → Bool
  | reverted ops => Reader.depth? 0 ops == some 0 && ops.all (·.keeps strict)
  | released ops =>
    Reader.depth? 0 ops == some 0 && ops.all (·.keeps strict) && !Reader.settles 0 ops
  | _ => true

def scans (tests : List τ) : List (Reader.Op τ) :=
  tests.map fun test => .onCursor (.advanceWhile test)

def ops : Piece τ → List (Reader.Op τ)
  | next => [.onCursor .next]
  | nextWhile test => [.onCursor (.nextWhile test)]
  | capture tests => .mark :: scans tests ++ [.onMark .commit, .onMark .text, .drop]
  | peek => [.onCursor .peek]
  | peekAt k => [.onCursor (.peekAt k)]
  | peekWhile test => [.onCursor (.peekWhile test)]
  | reverted ops => .mark :: ops ++ [.onMark .revert, .drop]
  | released ops => .mark :: ops ++ [.onMark .release, .drop]

/-- The bytes that a piece delivers, given the replies to its steps, or none if a text was refused.
Failing to read a byte delivers nothing, and so does every lookahead. -/
def delivery : Piece τ → List (Reply τ) → Option (List UInt8)
  | next, replies => some ((replies.head?.bind Reply.bytes?).getD [])
  | nextWhile _, replies => replies.head?.bind Reply.bytes?
  | capture tests, replies => replies[tests.length + 2]?.bind Reply.bytes?
  | _, _ => some []

/-- Whether the piece is a lookahead or an attempt to read a byte that fails. -/
def Idle : Piece τ → List (Reply τ) → Prop
  | next, replies => ∃ e, replies = [{ result := .error e }]
  | p, _ => p.isLookahead

end Piece

def allOps {τ : Type} (pieces : List (Piece τ)) : List (Reader.Op τ) := pieces.flatMap Piece.ops

def delivery {τ : Type} : List (Piece τ) → List (Reply τ) → Option (List UInt8)
  | [], _ => some []
  | p :: rest, replies =>
    match p.delivery (replies.take p.ops.length), delivery rest (replies.drop p.ops.length) with
    | some first, some others => some (first ++ others)
    | _, _ => none

variable {τ : Type}

/-- What a piece does to a cursor: the bytes it delivers are those it passes, and an idle piece
moves nothing and delivers nothing. -/
structure Conserves (p : Piece τ) (replies : List (Reply τ)) (c d : Cursor) : Prop where
  sameText : c.SameText d
  passes : ∀ bytes, p.delivery replies = some bytes → c.Passes bytes d
  idle : p.Idle replies → d = c ∧ p.delivery replies = some []

private theorem Conserves.of_isLookahead {p : Piece τ} (h : p.isLookahead) (replies : List (Reply τ))
    (c : Cursor) : Conserves p replies c c := by
  have hd : p.delivery replies = some [] := by
    cases p with
    | next => cases h
    | nextWhile test => cases h
    | capture tests => cases h
    | _ => rfl
  refine ⟨.refl c, fun bytes hb => ?_, fun _ => ⟨rfl, hd⟩⟩
  cases hd.symm.trans hb
  exact .nil c

private theorem passes_of_bytes? {c d e : Cursor} {read : List UInt8} (hp : c.Passes read d)
    (he : e.source = c.source) {reply : Reply τ}
    (hr : reply.result = (e.substring ⟨c.position, d.position⟩).value.map .text)
    {bytes : List UInt8} (hb : reply.bytes? = some bytes) : c.Passes bytes d := by
  rw [Reply.bytes?, hr] at hb
  cases hs : (e.substring ⟨c.position, d.position⟩).value with
  | error failure =>
    rw [hs] at hb
    cases hb
  | ok text =>
    rw [hs] at hb
    have hbytes := Source.utf8_slice? (Cursor.substring_ok_iff.mp hs)
    rw [he] at hbytes
    cases hb
    exact ⟨hp.sameText, hp.le, hbytes⟩

private theorem conserves_next (c : Cursor) :
    Conserves (.next : Piece τ) [.ofExcept .byte c.next.value.1] c c.pastByte := by
  have hv := congrArg Prod.fst c.next_value
  cases hb : c.source.byte? c.position with
  | some b =>
    rw [hb] at hv
    rw [hv, Cursor.pastByte_of_some hb]
    refine ⟨⟨rfl, rfl⟩, fun bytes h => ?_, fun h => ?_⟩
    · cases h
      exact Cursor.passes_advance hb
    · obtain ⟨e, he⟩ := h
      cases he
  | none =>
    rw [hb] at hv
    rw [hv, Cursor.pastByte_of_none hb]
    refine ⟨.refl c, fun bytes h => ?_, fun _ => ⟨rfl, rfl⟩⟩
    cases h
    exact .nil c

variable [ByteTest τ]

private theorem conserves_nextWhile (c : Cursor) (test : τ) :
    Conserves (.nextWhile test) [.ofLexeme (c.nextWhile test).value] c (c.advanceWhile test).2 where
  sameText := ⟨rfl, rfl⟩
  passes _ hb := passes_of_bytes? (c.passes_advanceWhile test) rfl rfl hb
  idle h := nomatch h

private theorem run_scans (tests : List τ) (c : Cursor) (marks : List Mark) :
    ∃ replies d events read,
      Reader.run ⟨c, marks⟩ (Piece.scans tests) = some ⟨(replies, ⟨d, marks⟩), events⟩ ∧
      c.Passes read d := by
  induction tests generalizing c with
  | nil => exact ⟨[], c, [], [], rfl, .nil c⟩
  | cons test tests ih =>
    obtain ⟨replies, d, events, read, hrun, hpass⟩ := ih (c.advanceWhile test).2
    exact ⟨_, d, _, _, Reader.run_cons_of (Reader.step_onCursor c marks (.advanceWhile test)) hrun,
      (c.passes_advanceWhile test).append hpass⟩

omit [ByteTest τ] in
private theorem text_reply (mark commit text drop : Reply τ) {scanned : List (Reply τ)} {n : Nat}
    (h : scanned.length = n) : (mark :: scanned ++ [commit, text, drop])[n + 2]? = some text := by
  rw [List.getElem?_append_right (by rw [List.length_cons, h]; omega), List.length_cons, h,
    Nat.add_sub_add_left]
  rfl

private theorem run_capture (tests : List τ) (c : Cursor) (outer : List Mark) :
    ∃ replies d events,
      Reader.run ⟨c, outer⟩ (Piece.capture tests).ops = some ⟨(replies, ⟨d, outer⟩), events⟩ ∧
      Conserves (.capture tests) replies c d := by
  obtain ⟨replies, d, events, read, hscans, hpass⟩ := run_scans tests c (c.mark :: outer)
  have hlen : replies.length = tests.length :=
    (Reader.length_replies hscans).trans (List.length_map ..)
  have hcommit : Reader.step ⟨d, c.mark :: outer⟩ (.onMark .commit : Reader.Op τ) =
      some ⟨(.ok (.span ⟨c.position, d.position⟩), ⟨d, ⟨c.position, some d.position⟩ :: outer⟩),
        [.committed ⟨c.position, d.position⟩]⟩ := rfl
  have hend := Reader.run_cons_of hcommit (Reader.run_cons_of
    (Reader.step_onMark d ⟨c.position, some d.position⟩ outer .text)
    (Reader.run_singleton (Reader.step_drop d _ outer)))
  have hrun := Reader.run_append (Reader.run_cons_of (Reader.step_mark c outer) hscans) hend
  refine ⟨_, d, _, hrun, hpass.sameText, fun bytes hb => ?_, fun h => nomatch h⟩
  -- The text is the reply after those to the mark, the scans and the commit.
  have hreply := congrArg (Option.bind · Reply.bytes?) (text_reply (.ok (.offset c.mark.anchor))
    (.ok (.span ⟨c.position, d.position⟩))
    { result := (Mark.Op.run .text ⟨c.position, some d.position⟩ d).value.1 } (.ok .nothing) hlen)
  exact passes_of_bytes? hpass hpass.sameText.source rfl (hreply.symm.trans hb)

variable (τ) in
private theorem run_next (c : Cursor) (outer : List Mark) :
    ∃ events, Reader.run ⟨c, outer⟩ (Piece.next : Piece τ).ops =
      some ⟨([.ofExcept .byte c.next.value.1], ⟨c.pastByte, outer⟩), events⟩ := by
  have hrun := Reader.run_onCursor c outer (.next : Cursor.Op τ)
  rw [Cursor.Op.run_next_reply] at hrun
  exact ⟨_, hrun⟩

private theorem run_still (op : Cursor.Op τ) {c : Cursor} (h : op.after c = c) (outer : List Mark) :
    ∃ replies events, Reader.run ⟨c, outer⟩ [.onCursor op] =
      some ⟨(replies, ⟨c, outer⟩), events⟩ := by
  have hrun := Reader.run_onCursor c outer op
  rw [h] at hrun
  exact ⟨_, _, hrun⟩

private theorem run_piece (c : Cursor) (outer : List Mark) {p : Piece τ} (h : p.isAdmissible c.strict) :
    ∃ replies d events, Reader.run ⟨c, outer⟩ p.ops = some ⟨(replies, ⟨d, outer⟩), events⟩ ∧
      Conserves p replies c d := by
  cases p with
  | next =>
    obtain ⟨events, hrun⟩ := run_next τ c outer
    exact ⟨_, _, events, hrun, conserves_next c⟩
  | nextWhile test =>
    exact ⟨_, _, _, Reader.run_onCursor c outer (.nextWhile test), conserves_nextWhile c test⟩
  | capture tests => exact run_capture tests c outer
  | peek =>
    obtain ⟨replies, events, hrun⟩ := run_still (.peek : Cursor.Op τ) (c := c) rfl outer
    exact ⟨replies, c, events, hrun, .of_isLookahead rfl replies c⟩
  | peekAt k =>
    obtain ⟨replies, events, hrun⟩ := run_still (.peekAt k : Cursor.Op τ) (c := c) rfl outer
    exact ⟨replies, c, events, hrun, .of_isLookahead rfl replies c⟩
  | peekWhile test =>
    obtain ⟨replies, events, hrun⟩ := run_still (.peekWhile test) (c := c) rfl outer
    exact ⟨replies, c, events, hrun, .of_isLookahead rfl replies c⟩
  | reverted ops =>
    obtain ⟨hnest, hkeeps⟩ := Bool.and_eq_true_iff.mp h
    obtain ⟨replies, events, d, m, hrun, hanchor, _⟩ :=
      Reader.run_fresh ⟨c, outer⟩ (eq_of_beq hnest)
    have hall := Reader.run_reverted (List.all_eq_true.mp hkeeps) hrun hanchor
    exact ⟨_, c, _, hall, .of_isLookahead rfl _ c⟩
  | released ops =>
    obtain ⟨hboth, hsettles⟩ := Bool.and_eq_true_iff.mp h
    obtain ⟨hnest, hkeeps⟩ := Bool.and_eq_true_iff.mp hboth
    obtain ⟨replies, events, d, m, hrun, hanchor, hsame⟩ :=
      Reader.run_fresh ⟨c, outer⟩ (eq_of_beq hnest)
    have hm : m.isResolved = false := by
      rw [hsame (by simpa using hsettles)]
      rfl
    have hall := Reader.run_released (List.all_eq_true.mp hkeeps) hrun hanchor hm
    exact ⟨_, c, _, hall, .of_isLookahead rfl _ c⟩

/-- A whole lexing run goes through, and if no text was refused, it passes what it delivers. -/
theorem run_pieces (pieces : List (Piece τ)) (c : Cursor) (outer : List Mark)
    (h : ∀ p ∈ pieces, p.isAdmissible c.strict) :
    ∃ replies d events,
      Reader.run ⟨c, outer⟩ (allOps pieces) = some ⟨(replies, ⟨d, outer⟩), events⟩ ∧
      c.SameText d ∧ ∀ bytes, delivery pieces replies = some bytes → c.Passes bytes d := by
  induction pieces generalizing c with
  | nil =>
    refine ⟨[], c, [], rfl, .refl c, fun bytes hb => ?_⟩
    cases hb
    exact .nil c
  | cons p pieces ih =>
    obtain ⟨first, d, events₁, hfirst, hp⟩ := run_piece c outer (h p List.mem_cons_self)
    have hrest : ∀ q ∈ pieces, q.isAdmissible d.strict := by
      intro q hq
      rw [hp.sameText.strict]
      exact h q (List.mem_cons_of_mem p hq)
    obtain ⟨others, e, events₂, hothers, htext, hpass⟩ := ih d hrest
    have hlen : first.length = p.ops.length := Reader.length_replies hfirst
    refine ⟨_, e, _, Reader.run_append hfirst hothers, hp.sameText.trans htext, fun bytes hb => ?_⟩
    change delivery (p :: pieces) (first ++ others) = some bytes at hb
    rw [delivery, ← hlen, List.take_left, List.drop_left] at hb
    split at hb
    · next b₁ b₂ h₁ h₂ =>
      cases hb
      exact (hp.passes b₁ h₁).append (hpass b₂ h₂)
    · cases hb

/-- A lexing run goes through, below any open marks, and if no text was refused, the bytes it
delivers are in order exactly those from its first position to its last. On the way every lookahead
and every failing read leaves the reader as it was and delivers nothing. -/
theorem lexing_delivers_every_byte_once (r : Reader) (pieces : List (Piece τ))
    (admissible : ∀ p ∈ pieces, p.isAdmissible r.cursor.strict) :
    ∃ replies d events, r.run (allOps pieces) = some ⟨(replies, ⟨d, r.marks⟩), events⟩ ∧
      r.cursor.SameText d ∧
      (∀ bytes, delivery pieces replies = some bytes → r.cursor.position ≤ d.position ∧
        bytes = r.cursor.source.bytesBetween r.cursor.position d.position) ∧
      ∀ before p after, pieces = before ++ p :: after →
        ∃ t u, r.run (allOps before) = some t ∧ t.value.2.run p.ops = some u ∧
          (p.Idle u.value.1 → u.value.2 = t.value.2 ∧ p.delivery u.value.1 = some []) := by
  obtain ⟨replies, d, events, hrun, htext, hpass⟩ := run_pieces pieces r.cursor r.marks admissible
  refine ⟨replies, d, events, hrun, htext, fun bytes hb => ?_, fun before p after heq => ?_⟩
  · exact ⟨(hpass bytes hb).le, (hpass bytes hb).eq_between⟩
  · subst heq
    obtain ⟨_, c, _, hbefore, hsame, _⟩ := run_pieces before r.cursor r.marks
      (fun q hq => admissible q (List.mem_append_left _ hq))
    have hp : p.isAdmissible c.strict := by
      rw [hsame.strict]
      exact admissible p (List.mem_append_right _ List.mem_cons_self)
    obtain ⟨_, e, _, hpiece, hconserves⟩ := run_piece c r.marks hp
    refine ⟨_, _, hbefore, hpiece, fun hidle => ?_⟩
    obtain ⟨hstill, hnothing⟩ := hconserves.idle hidle
    exact ⟨congrArg (Reader.mk · r.marks) hstill, hnothing⟩

/-- Two tokens with a released lookahead between them that runs past the end, and reads there. -/
theorem lexing_delivers_every_byte_once_past_end :
    let r : Reader := ⟨⟨⟨"aé=1", by decide⟩, 0, true⟩, [⟨3, none⟩]⟩
    let pieces : List (Piece ByteRule) := [.next, .capture [.between 128 255, .first 1],
      .released [.onCursor (.advanceBy 9), .mark, .onCursor .next, .onMark .revert, .drop],
      .nextWhile (.inClass .digit), .next, .peek]
    (∀ p ∈ pieces, p.isAdmissible r.cursor.strict) ∧
      ∃ replies d events, r.run (allOps pieces) = some ⟨(replies, ⟨d, r.marks⟩), events⟩ ∧
        delivery pieces replies = some [0x61, 0xC3, 0xA9, 0x3D, 0x31] ∧
        [0x61, 0xC3, 0xA9, 0x3D, 0x31] = r.cursor.source.bytesBetween 0 d.position := by
  intro r pieces
  have admissible : ∀ p ∈ pieces, p.isAdmissible r.cursor.strict := by decide
  obtain ⟨replies, d, events, hrun, _, hbytes, _⟩ :=
    lexing_delivers_every_byte_once r pieces admissible
  have hall : (r.run (allOps pieces)).map (fun t => delivery pieces t.value.1) =
      some (some [0x61, 0xC3, 0xA9, 0x3D, 0x31]) := by decide +kernel
  rw [hrun] at hall
  have hdelivery := Option.some.inj hall
  exact ⟨admissible, replies, d, events, hrun, hdelivery, (hbytes _ hdelivery).2⟩

end Lexing

end TextCursor
