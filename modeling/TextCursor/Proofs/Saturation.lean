import TextCursor.ByteRule
import TextCursor.Proofs.Arithmetic
import TextCursor.Proofs.Ideal
import TextCursor.Proofs.Resolution

/-! Reading over words is reading over natural numbers. The offsets stop at the greatest word, and no read
can see that they did. -/
namespace TextCursor
variable {τ : Type}

namespace Observation
variable {ν μ α β : Type}

private theorem map_ofOption (f : ν → μ) (wrap : α → Observation ν) (a? : Option α) :
    (ofOption wrap a?).map f = ofOption (fun a => (wrap a).map f) a? := by
  cases a? with
  | some a => rfl
  | none => rfl

private theorem ofOption_map (wrap : β → Observation ν) (f : α → β) (a? : Option α) :
    ofOption wrap (a?.map f) = ofOption (fun a => wrap (f a)) a? := by
  cases a? with
  | some a => rfl
  | none => rfl

end Observation

private theorem Reply.observed_ofExcept {α : Type} (wrap : α → Answer) (result : Except AccessError α) :
    (Reply.ofExcept wrap result : Reply τ).observed =
      .ofOption (fun a => (wrap a).observed) result.toOption := by
  cases result with
  | ok a => rfl
  | error e => rfl

namespace Source

/-- No displacement leads from a clamped offset to another byte than from the number itself. -/
theorem byte?_shift? (s : Source) (n : Nat) (strict : Bool) (k : Displacement) :
    ((Offset.ofNatClamped n).shift? k).bind s.byte? = Ideal.Cursor.byteAt? ⟨s, n, strict⟩ k.toInt := by
  have hlength := s.toNat_length_lt
  rw [toNat_length] at hlength
  have hk := k.le_toInt
  have hpast : ∀ i, s.bytes.length ≤ i → s.bytes[i]? = none := fun i => List.getElem?_eq_none
  rw [bind_shift?_byte?, Offset.toNat_ofNatClamped]
  simp only [Ideal.Cursor.byteAt?]
  by_cases hclamped : n ≤ 0xFFFFFFFFFFFFFFFF
  · rw [Nat.min_eq_left hclamped]
  · rw [if_pos (by omega), if_pos (by omega), hpast _ (by omega), hpast _ (by omega)]

end Source

namespace Ideal.Cursor

/-- The cursor over words with this position, or the greatest one. -/
def clamped (c : Ideal.Cursor) : TextCursor.Cursor :=
  ⟨c.source, Offset.ofNatClamped c.position, c.strict⟩

theorem clamped_ofWords (c : TextCursor.Cursor) : (ofWords c).clamped = c := by
  rw [clamped, ofWords, Offset.ofNatClamped_toNat]

private theorem clamped_advanceBy (c : Ideal.Cursor) (w : Offset) :
    c.clamped.advanceBy w = (c.advanceBy w.toNat).clamped :=
  congrArg (TextCursor.Cursor.mk c.source · c.strict) (Offset.addClamped_ofNatClamped c.position w)

private theorem byte?_clamped (c : Ideal.Cursor) :
    c.source.byte? c.clamped.position = c.byteAt? 0 := by
  have h := c.source.byte?_shift? c.position c.strict 0
  rw [Offset.shift?_zero, Option.bind_some] at h
  exact h

theorem length_clamped (c : Ideal.Cursor) : c.clamped.length.toNat = c.length := c.source.toNat_length

private theorem length_lt (c : Ideal.Cursor) : c.length < 0x8000000000000000 := by
  rw [← c.length_clamped]
  exact c.source.toNat_length_lt

theorem length_congr {c d : Ideal.Cursor} (h : c.source = d.source) : c.length = d.length :=
  congrArg (fun s : Source => s.bytes.length) h

theorem ofNatClamped_length (c : Ideal.Cursor) : Offset.ofNatClamped c.length = c.clamped.length := by
  rw [← c.length_clamped, Offset.ofNatClamped_toNat]

private theorem toNat_position_clamped (c : Ideal.Cursor) :
    c.clamped.position.toNat = min c.position 0xFFFFFFFFFFFFFFFF := Offset.toNat_ofNatClamped c.position

theorem isReadableBy_clamped (c : Ideal.Cursor) (n : Offset) :
    c.clamped.isReadableBy n = c.isReadableBy n.toNat := by
  have hlength := c.length_lt
  have hposition := c.toNat_position_clamped
  rw [Bool.eq_iff_iff, TextCursor.Cursor.isReadableBy_iff, c.length_clamped, isReadableBy,
    decide_eq_true_eq]
  omega

theorem remaining_clamped (c : Ideal.Cursor) :
    c.clamped.remaining = Offset.ofNatClamped c.remaining := by
  have hlength := c.length_lt
  have hposition := c.toNat_position_clamped
  rw [← UInt64.toNat_inj, Offset.toNat_ofNatClamped, TextCursor.Cursor.toNat_remaining,
    c.length_clamped, remaining]
  omega

private theorem unread_clamped (c : Ideal.Cursor) : c.clamped.unread = c.source.bytes.drop c.position := by
  have hlength := c.length_lt
  rw [TextCursor.Cursor.unread, c.toNat_position_clamped]
  by_cases h : c.position ≤ 0xFFFFFFFFFFFFFFFF
  · rw [Nat.min_eq_left h]
    rfl
  · rw [List.drop_eq_nil_of_le, List.drop_eq_nil_of_le]
    · show c.length ≤ c.position
      omega
    · show c.length ≤ min c.position 0xFFFFFFFFFFFFFFFF
      omega

variable [ByteTest τ]

/-- Going byte by byte ends where the whole accepted run ends. -/
theorem scan_eq (c : Ideal.Cursor) (test : τ) :
    c.scan test = (Scan.along test (c.source.bytes.drop c.position),
      c.advanceBy (Scan.along test (c.source.bytes.drop c.position)).accepted.length) := by
  fun_induction scan c test with
  | case1 c test h next hask s d hrest ih =>
    rw [hrest] at ih
    cases ih
    rw [List.drop_eq_getElem_cons h, Scan.along, hask]
    refine Prod.ext rfl ?_
    simp only [advanceBy, List.length_cons]
    rw [Nat.add_assoc, Nat.add_comm 1]
  | case2 c test h next hask =>
    rw [List.drop_eq_getElem_cons h, Scan.along, hask]
    rfl
  | case3 c test h =>
    rw [List.drop_eq_nil_of_le (Nat.le_of_not_lt h)]
    rfl

theorem advanceWhile_clamped (c : Ideal.Cursor) (test : τ) :
    c.clamped.advanceWhile test = ((c.scan test).1, (c.scan test).2.clamped) := by
  have hle := Scan.length_accepted_le test c.clamped.unread
  have hlength := c.length_lt
  rw [TextCursor.Cursor.advanceWhile, scan_eq, ← unread_clamped]
  refine Prod.ext rfl ?_
  have hcount : (UInt64.ofNat (Scan.along test c.clamped.unread).accepted.length).toNat =
      (Scan.along test c.clamped.unread).accepted.length := by
    rw [c.unread_clamped, List.length_drop] at hle
    rw [UInt64.toNat_ofNat', Nat.mod_eq_of_lt]
    rw [c.unread_clamped]
    show _ < 0x10000000000000000
    change _ ≤ c.length - c.position at hle
    omega
  rw [clamped_advanceBy, hcount]

end Ideal.Cursor

namespace Ideal

theorem toOption_between (start stop : Displacement) :
    (Span.between start stop).toOption =
      (between? start.toInt stop.toInt).map
        fun s => ⟨Offset.ofNatClamped s.1, Offset.ofNatClamped s.2⟩ := by
  rw [Span.between_eq, between?]
  by_cases hstart : 0 ≤ start.toInt
  · by_cases hstop : 0 ≤ stop.toInt
    · rw [if_pos hstart, if_pos hstop, if_pos ⟨hstart, hstop⟩, Option.map_some,
        ← Displacement.toNat_toUInt64 hstart, ← Displacement.toNat_toUInt64 hstop,
        Offset.ofNatClamped_toNat, Offset.ofNatClamped_toNat]
      rfl
    · rw [if_pos hstart, if_neg hstop, if_neg fun h => hstop h.2]
      rfl
  · rw [if_neg hstart, if_neg fun h => hstart h.1]
    rfl

namespace Cursor
variable (c : Ideal.Cursor)

private theorem text?_eq_none {start stop : Nat} (h : stop < start ∨ c.length < stop) :
    c.text? start stop = none := by
  refine dif_neg fun hvalid => ?_
  have hstop : stop ≤ c.length := by
    rw [length, Source.length_bytes]
    exact hvalid.2.2.le_utf8ByteSize
  omega

/-- A span that lost a bound to clamping has no text, and had none before. -/
private theorem text?_clamped (start stop : Nat) :
    c.text? (Offset.ofNatClamped start).toNat (Offset.ofNatClamped stop).toNat =
      c.text? start stop := by
  have hlength := c.length_lt
  rw [Offset.toNat_ofNatClamped, Offset.toNat_ofNatClamped]
  by_cases hbad : stop < start ∨ c.length < stop
  · rw [c.text?_eq_none hbad, c.text?_eq_none (by omega)]
  · rw [Nat.min_eq_left (by omega), Nat.min_eq_left (by omega)]

theorem toOption_substring {d : TextCursor.Cursor} (h : d.source = c.source) (start stop : Nat) :
    (d.substring ⟨Offset.ofNatClamped start, Offset.ofNatClamped stop⟩).value.toOption =
      c.text? start stop := by
  have hslice : ∀ p q, d.source.slice? p q = c.text? p.toNat q.toNat := fun p q => by
    rw [h]
    rfl
  rw [← c.text?_clamped, ← hslice]
  apply Option.ext
  intro text
  rw [← TextCursor.Cursor.substring_ok_iff (s := ⟨_, _⟩)]
  cases (d.substring ⟨Offset.ofNatClamped start, Offset.ofNatClamped stop⟩).value with
  | ok t => simp [Except.toOption]
  | error e => simp [Except.toOption]

/-- The greatest displacement is past the end, so clamping the position to it changes no sign. -/
theorem toOption_unconsumed (h : c.length < 0x7FFFFFFFFFFFFFFF) :
    c.clamped.unconsumed.toOption =
      c.unconsumed.map fun s => ⟨Offset.ofNatClamped s.1, Offset.ofNatClamped s.2⟩ := by
  have hposition := c.toNat_position_clamped
  rw [TextCursor.Cursor.unconsumed, toOption_between, TextCursor.Cursor.toInt_tailStart,
    Offset.toInt_toDisplacementClamped, c.length_clamped, Nat.min_eq_left (Nat.le_of_lt h), unconsumed]
  by_cases hle : c.position ≤ c.length
  · have hsame : min c.clamped.position.toNat 0x7FFFFFFFFFFFFFFF = c.position := by omega
    rw [hsame]
  · have hneg : ∀ n : Int, c.length < n → between? (c.length - n) c.length = none :=
      fun n hn => if_neg fun h => by omega
    rw [hneg _ (by omega), hneg _ (by omega)]

theorem next_clamped :
    c.clamped.next.value.1.toOption = c.next.1 ∧ c.clamped.next.value.2 = c.next.2.clamped := by
  have hbyte : c.clamped.source.byte? c.clamped.position = c.byteAt? 0 := c.byte?_clamped
  rw [TextCursor.Cursor.next_value, hbyte, next]
  cases c.byteAt? 0 with
  | some b => exact ⟨rfl, c.clamped_advanceBy 1⟩
  | none => exact ⟨rfl, rfl⟩

theorem take_clamped (n : Nat) :
    ∃ t, (c.clamped.take n).value = (t, (c.take n).2.clamped) ∧
      (t.bytes, t.failure.isSome) = (c.take n).1 := by
  induction n generalizing c with
  | zero => exact ⟨⟨[], none⟩, rfl, rfl⟩
  | succ n ih =>
    obtain ⟨hbyte, hmoved⟩ := c.next_clamped
    rw [TextCursor.Cursor.take, take]
    -- The outcome of the read is a variable, so that nothing computes with the bound on words.
    generalize c.clamped.next = outcome at hbyte hmoved ⊢
    generalize c.next = exact at hbyte hmoved ⊢
    obtain ⟨⟨result, moved⟩, events⟩ := outcome
    obtain ⟨byte, d⟩ := exact
    cases hmoved
    cases result with
    | ok b =>
      cases hbyte
      obtain ⟨t, ht, hsame⟩ := ih d
      refine ⟨{ t with bytes := b :: t.bytes }, ?_, ?_⟩
      · rw [Traced.value_bind]
        show (Traced.value (d.clamped.take n >>= _)) = _
        rw [Traced.value_bind, ht]
        rfl
      · exact congrArg (fun x : List UInt8 × Bool => (b :: x.1, x.2)) hsame
    | error e =>
      cases hbyte
      exact ⟨⟨[], some e⟩, rfl, rfl⟩

theorem setPosition_clamped (n : Offset) :
    (c.clamped.setPosition n).value.1.toOption =
        (c.setPosition n.toNat).1.map Offset.ofNatClamped ∧
      (c.clamped.setPosition n).value.2 = (c.setPosition n.toNat).2.clamped := by
  have hlt : c.clamped.length < n ↔ c.length < n.toNat := by
    rw [UInt64.lt_iff_toNat_lt, c.length_clamped]
  rw [TextCursor.Cursor.setPosition_value, setPosition]
  by_cases h : c.strict ∧ c.length < n.toNat
  · rw [if_pos h, if_pos ⟨h.1, hlt.mpr h.2⟩]
    exact ⟨rfl, rfl⟩
  · rw [if_neg h, if_neg (fun hboth => h ⟨hboth.1, hlt.mp hboth.2⟩)]
    refine ⟨rfl, ?_⟩
    exact congrArg (TextCursor.Cursor.mk c.source · c.strict) (Offset.ofNatClamped_toNat n).symm

variable [ByteTest τ]

theorem after_clamped (op : TextCursor.Cursor.Op τ) : op.after c.clamped = (c.run op).2.clamped := by
  cases op with
  | advance => exact c.clamped_advanceBy 1
  | advanceBy n => exact c.clamped_advanceBy n
  | advanceWhile test => exact congrArg Prod.snd (c.advanceWhile_clamped test)
  | nextWhile test => exact congrArg Prod.snd (c.advanceWhile_clamped test)
  | next => exact c.clamped.next_cursor.symm.trans c.next_clamped.2
  | take n =>
    obtain ⟨t, ht, _⟩ := c.take_clamped n
    exact (c.clamped.take_cursor n).symm.trans (congrArg Prod.snd ht)
  | setPosition n =>
    have h := (c.setPosition_clamped n).2
    rw [TextCursor.Cursor.setPosition_value, apply_ite Prod.snd] at h
    exact h
  | assign other => exact (clamped_ofWords other).symm
  | _ => rfl

end Cursor

/-- The reply over words says the same, with its offsets clamped. -/
structure Reply.Agrees (a : Ideal.Reply τ) (r : TextCursor.Reply τ) : Prop where
  observed : r.observed = a.seen.map Offset.ofNatClamped
  scan : r.scan = a.scan

theorem Reply.Agrees.of_option {α β : Type} {wrap : α → Answer} {result : Except AccessError α}
    {exact : β → Observation Nat} {b? : Option β} (f : β → α)
    (h : result.toOption = b?.map f) (hwrap : ∀ b, (wrap (f b)).observed = (exact b).map Offset.ofNatClamped) :
    Reply.Agrees { seen := .ofOption exact b? } (.ofExcept wrap result : TextCursor.Reply τ) where
  observed := by
    rw [TextCursor.Reply.observed_ofExcept, h, Observation.ofOption_map, Observation.map_ofOption]
    simp only [hwrap]
  scan := rfl

end Ideal

end TextCursor
