import TextCursor.Proofs.Saturation

/-! Whole runs over words against the same runs over natural numbers. Every state is the exact one with
its offsets clamped, and every reply that does not print or compare the whole cursor is the exact one. -/
namespace TextCursor
variable {τ : Type}

/-- Whether the reply prints or compares all fields of the cursor. Only such a reply can tell a position
from a greater one that is clamped to it. -/
def Reader.Op.showsFields : Reader.Op τ → Bool
  | .onCursor .inspect | .onCursor (.equals _) | .onMark .inspect => true
  | _ => false

namespace Cursor

private theorem advance_iterate (c : Cursor) (n : Nat) :
    advance^[n] c = { c with position := Offset.ofNatClamped (c.position.toNat + n) } := by
  induction n with
  | zero => rw [Nat.add_zero, Offset.ofNatClamped_toNat, Function.iterate_zero_apply]
  | succ n ih =>
    rw [Function.iterate_succ_apply', ih, advance, advanceBy]
    exact congrArg (mk c.source · c.strict) (Offset.addClamped_ofNatClamped _ 1)

variable [ByteTest τ]

/-- No sum and no difference made at the cursor wraps around. Where a result does not fit in a word, it
stops at the greatest or the least number, or it is refused. -/
structure NeverWraps (τ : Type) [ByteTest τ] (c : Cursor) : Prop where
  advance : c.advance.position.toNat = min (c.position.toNat + 1) 0xFFFFFFFFFFFFFFFF
  advanceBy : ∀ n : Offset, c.advanceBy n = Cursor.advance^[n.toNat] c
  scan : ∀ test : τ, (c.advanceWhile test).2.position.toNat =
    c.position.toNat + (c.advanceWhile test).1.accepted.length
  remaining : c.remaining.toNat = c.length.toNat - c.position.toNat
  sum? : ∀ n e : Offset, c.position.add? n = some e ↔ e.toNat = c.position.toNat + n.toNat
  target? : ∀ (k : Displacement) (e : Offset),
    c.position.shift? k = some e ↔ (e.toNat : Int) = c.position.toNat + k.toInt
  reported : ∀ k : Displacement, (c.position.target k).toInt =
    if c.position.toNat < 0x8000000000000000 then min (c.position.toNat + k.toInt) 0x7FFFFFFFFFFFFFFF
    else 0x7FFFFFFFFFFFFFFF
  tail : (c.length.toDisplacementClamped - c.position.toDisplacementClamped).toInt =
    c.length.toNat - min c.position.toNat 0x7FFFFFFFFFFFFFFF

private theorem neverWraps (c : Cursor) : c.NeverWraps τ where
  advance := Offset.toNat_addClamped c.position 1
  advanceBy n := by
    rw [advance_iterate, ← Offset.addClamped_ofNatClamped, Offset.ofNatClamped_toNat]
    rfl
  scan test := c.position_advanceWhile test
  remaining := Offset.toNat_subClamped c.length c.position
  sum? _ _ := Offset.add?_eq_some_iff
  target? _ _ := Offset.shift?_eq_some_iff
  reported := c.position.toInt_target
  tail := c.toInt_tailStart

end Cursor

namespace Ideal

/-! ### Replies of a cursor -/

namespace Cursor
variable (c : Ideal.Cursor)

private theorem isEmpty_clamped : c.clamped.isEmpty = (c.length == 0) := by
  rw [TextCursor.Cursor.isEmpty, Bool.eq_iff_iff, beq_iff_eq, beq_iff_eq, ← UInt64.toNat_inj]
  rw [← c.length_clamped]
  rfl

private theorem peekAt_clamped (k : Displacement) :
    (c.clamped.peekAt k).value.toOption = c.byteAt? k.toInt := by
  have hbyte : (c.clamped.position.shift? k).bind c.clamped.source.byte? = c.byteAt? k.toInt :=
    c.source.byte?_shift? c.position c.strict k
  rw [TextCursor.Cursor.peekAt_value, hbyte]
  cases c.byteAt? k.toInt with
  | some b => rfl
  | none => rfl

variable [ByteTest τ]

private theorem text_clamped_scan (test : τ) {d : TextCursor.Cursor} (h : d.source = c.source) :
    (d.substring ⟨c.clamped.position, (c.clamped.advanceWhile test).2.position⟩).value.toOption =
      c.text? c.position (c.scan test).2.position := by
  rw [advanceWhile_clamped]
  exact c.toOption_substring h _ _

private theorem text?_scan (test : τ) (start stop : Nat) :
    (c.scan test).2.text? start stop = c.text? start stop := by
  rw [scan_eq]
  rfl

omit [ByteTest τ] in
private theorem agrees_lexeme {l : Lexeme τ} {text? : Option String} {scan : Scan τ}
    (htext : l.text.toOption = text?) (hscan : l.scan = scan) :
    Ideal.Reply.Agrees { seen := .ofOption .text text?, scan := some scan } (.ofLexeme l) := by
  obtain ⟨text, _, _⟩ := l
  cases hscan
  cases htext
  refine ⟨?_, rfl⟩
  cases text with
  | ok s => rfl
  | error e => rfl

private theorem agrees_run (short : c.length < 0x7FFFFFFFFFFFFFFF) {op : TextCursor.Cursor.Op τ}
    (hop : (Reader.Op.onCursor op).showsFields = false) :
    (c.run op).1.Agrees (op.run c.clamped).value.1 := by
  cases op with
  | inspect => cases hop
  | equals other => cases hop
  | length => exact ⟨congrArg Observation.offset c.ofNatClamped_length.symm, rfl⟩
  | isEmpty => exact ⟨congrArg Observation.flag c.isEmpty_clamped, rfl⟩
  | remaining => exact ⟨congrArg Observation.offset c.remaining_clamped, rfl⟩
  | isReadable => exact ⟨congrArg Observation.flag (c.isReadableBy_clamped 1), rfl⟩
  | isReadableBy n => exact ⟨congrArg Observation.flag (c.isReadableBy_clamped n), rfl⟩
  | peek =>
    refine Reply.Agrees.of_option id ?_ fun _ => rfl
    rw [Option.map_id]
    exact c.peekAt_clamped 0
  | peekAt k =>
    refine Reply.Agrees.of_option id ?_ fun _ => rfl
    rw [Option.map_id]
    exact c.peekAt_clamped k
  | substring s =>
    refine Reply.Agrees.of_option id ?_ fun _ => rfl
    rw [Option.map_id, ← c.toOption_substring (d := c.clamped) rfl, Offset.ofNatClamped_toNat,
      Offset.ofNatClamped_toNat]
    rfl
  | advanceWhile test =>
    have hscan : (c.clamped.advanceWhile test).1 = (c.scan test).1 :=
      congrArg Prod.fst (c.advanceWhile_clamped test)
    exact ⟨rfl, congrArg some hscan⟩
  | next =>
    rw [TextCursor.Cursor.Op.run_next_reply]
    refine Reply.Agrees.of_option id ?_ fun _ => rfl
    rw [Option.map_id]
    exact c.next_clamped.1
  | take n =>
    obtain ⟨t, ht, hsame⟩ := c.take_clamped n
    refine ⟨?_, rfl⟩
    show Observation.taken (c.clamped.take n).value.1.bytes (c.clamped.take n).value.1.failure.isSome =
      .taken (c.take n).1.1 (c.take n).1.2
    rw [ht, ← hsame]
  | nextWhile test =>
    refine agrees_lexeme ?_ (congrArg Prod.fst (c.advanceWhile_clamped test))
    rw [text?_scan]
    exact c.text_clamped_scan test (d := (c.clamped.advanceWhile test).2) rfl
  | peekWhile test =>
    refine agrees_lexeme ?_ (congrArg Prod.fst (c.advanceWhile_clamped test))
    exact c.text_clamped_scan test (d := c.clamped.mark.back (c.clamped.advanceWhile test).2) rfl
  | setPosition n => exact .of_option _ (c.setPosition_clamped n).1 fun _ => rfl
  | full => exact ⟨congrArg (Observation.span 0) c.ofNatClamped_length.symm, rfl⟩
  | unconsumed => exact .of_option _ (c.toOption_unconsumed short) fun _ => rfl
  | between start stop => exact .of_option _ (toOption_between start stop) fun _ => rfl
  | expand s t =>
    have hmin := Offset.eq_ofNatClamped (Offset.toNat_min s.start t.start)
    have hmax := Offset.eq_ofNatClamped (Offset.toNat_max s.stop t.stop)
    exact ⟨congrArg₂ Observation.span hmin hmax, rfl⟩
  | _ => exact ⟨rfl, rfl⟩

end Cursor

/-! ### Marks -/

namespace Mark
variable (m : Ideal.Mark) (c : Ideal.Cursor)

def clamped (m : Ideal.Mark) : TextCursor.Mark :=
  ⟨Offset.ofNatClamped m.anchor, m.stop?.map Offset.ofNatClamped⟩

theorem clamped_ofWords (m : TextCursor.Mark) : (ofWords m).clamped = m := by
  obtain ⟨anchor, stop?⟩ := m
  cases stop? with
  | none => exact congrArg (TextCursor.Mark.mk · none) anchor.ofNatClamped_toNat
  | some stop =>
    exact congrArg₂ TextCursor.Mark.mk anchor.ofNatClamped_toNat
      (congrArg some stop.ofNatClamped_toNat)

private theorem span_clamped : m.clamped.span c.clamped =
    ⟨Offset.ofNatClamped m.anchor, Offset.ofNatClamped (m.stop c)⟩ := by
  obtain ⟨anchor, stop?⟩ := m
  cases stop? with
  | none => rfl
  | some stop => rfl

private theorem settledAt_span : (m.clamped.settledAt c.clamped.position).span c.clamped =
    ⟨Offset.ofNatClamped m.anchor, Offset.ofNatClamped (m.stop c)⟩ := by
  obtain ⟨anchor, stop?⟩ := m
  cases stop? with
  | none => rfl
  | some stop => rfl

theorem after_clamped (op : TextCursor.Mark.Op) :
    op.markAfter m.clamped c.clamped = (m.run c op).2.1.clamped ∧
      op.cursorAfter m.clamped c.clamped = (m.run c op).2.2.clamped := by
  obtain ⟨anchor, stop?⟩ := m
  cases op with
  | release =>
    cases stop? with
    | none => exact ⟨rfl, rfl⟩
    | some stop => exact ⟨rfl, rfl⟩
  | commit =>
    cases stop? with
    | none => exact ⟨rfl, rfl⟩
    | some stop => exact ⟨rfl, rfl⟩
  | _ => exact ⟨rfl, rfl⟩

private theorem agrees_run {op : TextCursor.Mark.Op} (hop : op ≠ .inspect) :
    Ideal.Reply.Agrees (τ := τ) { seen := (m.run c op).1 }
      { result := (op.run m.clamped c.clamped).value.1 } := by
  have hspan := m.span_clamped c
  cases op with
  | inspect => exact absurd rfl hop
  | isResolved =>
    refine ⟨congrArg Observation.flag ?_, rfl⟩
    exact Option.isSome_map
  | commit =>
    refine ⟨?_, rfl⟩
    show Observation.span (m.clamped.commit c.clamped).value.1.start
      (m.clamped.commit c.clamped).value.1.stop = _
    rw [TextCursor.Mark.commit_value, settledAt_span]
    rfl
  | release =>
    refine ⟨?_, rfl⟩
    show Observation.span (m.clamped.release c.clamped).value.1.start
      (m.clamped.release c.clamped).value.1.stop = _
    rw [TextCursor.Mark.release_value, settledAt_span]
    rfl
  | span => exact ⟨congrArg (fun s : Span => Observation.span s.start s.stop) hspan, rfl⟩
  | text =>
    refine Reply.Agrees.of_option id ?_ fun _ => rfl
    rw [Option.map_id, TextCursor.Mark.text, hspan]
    exact c.toOption_substring rfl _ _
  | _ => exact ⟨rfl, rfl⟩

end Mark

/-! ### Readers -/

namespace Reader
variable [ByteTest τ]

def clamped (r : Ideal.Reader) : TextCursor.Reader := ⟨r.cursor.clamped, r.marks.map Mark.clamped⟩

theorem clamped_ofWords (r : TextCursor.Reader) : (ofWords r).clamped = r := by
  obtain ⟨c, marks⟩ := r
  have hmarks : (marks.map Mark.ofWords).map Mark.clamped = marks := by
    rw [List.map_map]
    exact (List.map_congr_left fun m _ => Mark.clamped_ofWords m).trans (List.map_id marks)
  exact congrArg₂ TextCursor.Reader.mk (Cursor.clamped_ofWords c) hmarks

/-- Where a step over words is possible, so is the exact one. It leads to the exact state and to the
exact reply, unless that shows the whole cursor. -/
theorem step_clamped {r : Ideal.Reader} (short : r.cursor.length < 0x7FFFFFFFFFFFFFFF)
    {op : TextCursor.Reader.Op τ} {t : Traced (TextCursor.Reply τ × TextCursor.Reader)}
    (h : r.clamped.step op = some t) :
    ∃ a, r.step op = some a ∧ t.value.2 = a.2.clamped ∧
      (op.showsFields = false → a.1.Agrees t.value.1) := by
  obtain ⟨c, marks⟩ := r
  cases op with
  | onCursor op =>
    rw [clamped, TextCursor.Reader.step_onCursor] at h
    cases h
    refine ⟨_, rfl, ?_, fun hop => c.agrees_run short hop⟩
    exact congrArg (TextCursor.Reader.mk · _) (c.after_clamped op)
  | mark =>
    cases h
    exact ⟨_, rfl, rfl, fun _ => ⟨rfl, rfl⟩⟩
  | drop =>
    cases marks with
    | nil => cases h
    | cons m outer =>
      cases h
      exact ⟨_, rfl, rfl, fun _ => ⟨rfl, rfl⟩⟩
  | onMark op =>
    cases marks with
    | nil => cases h
    | cons m outer =>
      rw [clamped, List.map_cons, TextCursor.Reader.step_onMark] at h
      cases h
      obtain ⟨hmark, hcursor⟩ := m.after_clamped c op
      refine ⟨_, rfl, ?_, fun hop => m.agrees_run c ?_⟩
      · exact congrArg₂ (fun d n => TextCursor.Reader.mk d (n :: _)) hcursor hmark
      · rintro rfl
        cases hop

/-- Where a run over words is possible, so is the exact one, and it leads to the exact state. -/
theorem run_clamped {r : Ideal.Reader} (short : r.cursor.length < 0x7FFFFFFFFFFFFFFF)
    {ops : List (TextCursor.Reader.Op τ)} (kept : ∀ op ∈ ops, op.overwrites = false)
    {t : Account τ} (h : r.clamped.run ops = some t) :
    ∃ a, r.run ops = some a ∧ t.value.2 = a.2.clamped := by
  induction ops generalizing r t with
  | nil =>
    cases h
    exact ⟨_, rfl, rfl⟩
  | cons op ops ih =>
    obtain ⟨u, v, hu, hv, rfl⟩ := TextCursor.Reader.run_cons_eq_some h
    obtain ⟨first, hfirst, hstate, _⟩ := step_clamped short hu
    have hsource : u.value.2.cursor.source = r.cursor.source :=
      TextCursor.Reader.source_step (kept op List.mem_cons_self) hu
    rw [hstate] at hv hsource
    have hshort : first.2.cursor.length < 0x7FFFFFFFFFFFFFFF := by
      rwa [Cursor.length_congr hsource]
    obtain ⟨rest, hrest, hlast⟩ := ih hshort (fun o ho => kept o (List.mem_cons_of_mem op ho)) hv
    refine ⟨(first.1 :: rest.1, rest.2), ?_, hlast⟩
    rw [run, hfirst]
    show (first.2.run ops).bind _ = _
    rw [hrest]
    rfl

end Reader

end Ideal

namespace Reader
variable [ByteTest τ]

/-- A run over words follows the same run over natural numbers. Each state on the way is the exact one
with its offsets clamped, and no word wraps around there. Every further step gives the reply that the
exact one gives, and every span of exact offsets has the exact text. Replies that print or compare
all fields of the cursor are left out, since clamping shows in them. -/
theorem words_follow_exact_numbers (r : Reader) (short : r.cursor.length.toNat < 0x7FFFFFFFFFFFFFFF)
    (ops : List (Op τ)) (nested : isNested r.marks.length ops)
    (kept : ∀ op ∈ ops, op.overwrites = false) (before : List (Op τ)) (reached : before <+: ops) :
    ∃ t e, r.run before = some t ∧ (Ideal.Reader.ofWords r).run before = some e ∧
      t.value.2 = e.2.clamped ∧ t.value.2.cursor.NeverWraps τ ∧
      (∀ op u, t.value.2.step op = some u →
        ∃ a, e.2.step op = some a ∧ u.value.2 = a.2.clamped ∧
          ((op : Op τ).showsFields = false → a.1.Agrees u.value.1)) ∧
      ∀ start stop : Nat,
        (t.value.2.cursor.substring
          ⟨Offset.ofNatClamped start, Offset.ofNatClamped stop⟩).value.toOption =
            e.2.cursor.text? start stop := by
  obtain ⟨after, rfl⟩ := reached
  obtain ⟨t, ht, _⟩ := exists_run_of_isNested nested
  have hkept : ∀ op ∈ before, op.overwrites = false :=
    fun op hop => kept op (List.mem_append_left after hop)
  have hlength : (Ideal.Reader.ofWords r).cursor.length < 0x7FFFFFFFFFFFFFFF := by
    rw [← Ideal.Cursor.length_clamped]
    exact short
  have hwords : (Ideal.Reader.ofWords r).clamped.run before = some t := by
    rw [Ideal.Reader.clamped_ofWords, ht]
  obtain ⟨e, he, hstate⟩ := Ideal.Reader.run_clamped hlength hkept hwords
  have hsource : e.2.cursor.source = r.cursor.source := by
    have h := source_run hkept ht
    rw [hstate] at h
    exact h
  have hshort : e.2.cursor.length < 0x7FFFFFFFFFFFFFFF := by
    rwa [Ideal.Cursor.length_congr (d := (Ideal.Reader.ofWords r).cursor) hsource]
  refine ⟨t, e, ht, he, hstate, t.value.2.cursor.neverWraps, ?_, ?_⟩
  · intro op u hu
    rw [hstate] at hu
    exact Ideal.Reader.step_clamped hshort hu
  · intro start stop
    rw [hstate]
    exact e.2.cursor.toOption_substring rfl start stop

/-- After two steps past the greatest word the position is that word and no longer the exact one. Reading
fails all the same, a mark frozen there has no text, and going back to the outer mark reads on. -/
theorem words_follow_exact_numbers_past_greatest :
    let r : Reader := ⟨⟨⟨"aé", by decide⟩, 1, true⟩, [⟨0, none⟩]⟩
    let ops : List (Op ByteRule) := [.onCursor (.advanceBy 0xFFFFFFFFFFFFFFFF), .mark,
      .onCursor .advance, .onMark .commit, .onCursor (.peekAt (-0x7FFFFFFFFFFFFFFF)), .onMark .text,
      .drop, .onMark .revert, .onCursor (.nextWhile (.first 3))]
    r.cursor.length.toNat < 0x7FFFFFFFFFFFFFFF ∧ isNested r.marks.length ops ∧
      (∀ op ∈ ops, op.overwrites = false) ∧ ops.take 4 <+: ops ∧
      ∃ t e, r.run (ops.take 4) = some t ∧ (Ideal.Reader.ofWords r).run (ops.take 4) = some e ∧
        t.value.2 = e.2.clamped ∧ e.2.cursor.position = 0x10000000000000001 ∧
        t.value.2.cursor.position = Offset.greatest ∧
        ∀ u, t.value.2.step (.onMark .text : Op ByteRule) = some u →
          ∃ a, e.2.step (.onMark .text) = some a ∧ a.1.Agrees u.value.1 := by
  intro r ops
  have short : r.cursor.length.toNat < 0x7FFFFFFFFFFFFFFF := by decide
  have kept : ∀ op ∈ ops, op.overwrites = false := by decide
  have reached : ops.take 4 <+: ops := List.take_prefix 4 ops
  obtain ⟨t, e, ht, he, hstate, _, hstep, _⟩ :=
    words_follow_exact_numbers r short ops rfl kept (ops.take 4) reached
  have hposition : e.2.cursor.position = 0x10000000000000001 := by
    have h : ((Ideal.Reader.ofWords r).run (ops.take 4)).map (·.2.cursor.position) =
        some 0x10000000000000001 := by decide +kernel
    rw [he] at h
    exact Option.some.inj h
  refine ⟨short, rfl, kept, reached, t, e, ht, he, hstate, hposition, ?_, ?_⟩
  · rw [hstate]
    show Offset.ofNatClamped e.2.cursor.position = _
    rw [hposition]
    decide
  · intro u hu
    obtain ⟨a, ha, _, hagrees⟩ := hstep _ u hu
    exact ⟨a, ha, hagrees rfl⟩

end Reader

end TextCursor
