import TextCursor.Proofs.Characters
import TextCursor.Proofs.ErrorTruth
import TextCursor.Proofs.Consumption

/-! Slices of a source as runs of whole characters. A slice exists where the source, as a sequence of
characters, can be cut on both sides, and a look at one byte shows whether it can be cut at an offset. -/
namespace TextCursor

theorem utf8_inj {a b : String} : utf8 a = utf8 b ↔ a = b := by
  constructor
  · intro h
    exact String.toByteArray_inj.mp (ByteArray.ext (Array.toList_inj.mp h))
  · rintro rfl
    rfl

private theorem isContinuation_of_first {b : UInt8} (h : b.IsUTF8FirstByte) : isContinuation b = false := by
  have hall : ∀ n : Fin 256, (UInt8.ofFin n).IsUTF8FirstByte → isContinuation (UInt8.ofFin n) = false := by
    decide +kernel
  exact hall b.toFin h

namespace Source

/-- Some characters from the start of the source on take exactly that many bytes. -/
def CutsAt (s : Source) (i : Offset) : Prop :=
  ∃ before behind : String, s.text = before ++ behind ∧ before.utf8ByteSize = i.toNat

/-- The text stands in the source with its bytes exactly in the span, between whole characters. -/
def Holds (s : Source) (span : Span) (text : String) : Prop :=
  ∃ before behind : String, s.text = before ++ text ++ behind ∧
    before.utf8ByteSize = span.start.toNat ∧ (before ++ text).utf8ByteSize = span.stop.toNat

/-- Whether a look at the bytes shows a boundary: the start, the end, or a byte that continues no
character. -/
def showsBoundary (s : Source) (i : Offset) : Bool :=
  i == 0 || i == s.length || (s.byte? i).any fun b => !isContinuation b

variable {s : Source} {p q : Offset}

theorem isBoundary_iff_cutsAt : s.IsBoundary p ↔ s.CutsAt p := by
  rw [IsBoundary, String.Pos.Raw.isValid_iff_exists_append]
  constructor
  · rintro ⟨before, behind, htext, hpos⟩
    exact ⟨before, behind, htext, (congrArg String.Pos.Raw.byteIdx hpos).symm⟩
  · rintro ⟨before, behind, htext, hlength⟩
    exact ⟨before, behind, htext, String.Pos.Raw.ext hlength.symm⟩

/-- One byte is enough to see whether a character is split. -/
theorem isBoundary_iff_showsBoundary : s.IsBoundary p ↔ s.showsBoundary p := by
  simp only [showsBoundary, Bool.or_eq_true, beq_iff_eq, Option.any_eq_true, Bool.not_eq_true']
  constructor
  · intro h
    rcases String.Pos.Raw.isValid_iff_isUTF8FirstByte.mp h with hend | ⟨hlt, hfirst⟩
    · left; right
      rw [← UInt64.toNat_inj, toNat_length, length_bytes]
      exact congrArg String.Pos.Raw.byteIdx hend
    · right
      have hinside : p.toNat < s.text.utf8ByteSize := hlt
      exact ⟨_, dif_pos hinside, isContinuation_of_first hfirst⟩
  · rintro ((rfl | rfl) | ⟨b, hb, hstart⟩)
    · exact s.isBoundary_zero
    · exact s.isBoundary_length
    · -- All bytes before the one looked at, and then the cut, which that byte makes safe.
      rw [byte?_eq] at hb
      obtain ⟨hlt, _⟩ := List.getElem?_eq_some_iff.mp hb
      apply s.isBoundary_zero.of_safeCut (List.take_append_drop p.toNat s.bytes).symm
      · left
        intro x hx
        rw [List.head?_drop, hb] at hx
        cases hx
        exact hstart
      · rw [List.length_take, Nat.min_eq_left (Nat.le_of_lt hlt)]
        exact (Nat.zero_add _).symm

private theorem utf8_of_append {before behind : String} (htext : s.text = before ++ behind)
    (hlength : before.utf8ByteSize = p.toNat) :
    utf8 before = s.bytes.take p.toNat ∧ utf8 behind = s.bytes.drop p.toNat := by
  have hcount : (utf8 before).length = p.toNat := (length_utf8 before).trans hlength
  have hbytes : s.bytes = utf8 before ++ utf8 behind := by rw [bytes, htext, utf8_append]
  rw [hbytes, ← hcount, List.take_left, List.drop_left]
  exact ⟨rfl, rfl⟩

private theorem take_append_between (h : p ≤ q) :
    s.bytes.take p.toNat ++ s.bytesBetween p q = s.bytes.take q.toNat := by
  have hsum : q.toNat = p.toNat + (q.toNat - p.toNat) := by
    have := UInt64.le_iff_toNat_le.mp h
    omega
  rw [hsum, List.take_add]
  rfl

theorem slice?_eq_some_iff {text : String} : s.slice? p q = some text ↔ s.Holds ⟨p, q⟩ text := by
  constructor
  · intro h
    have hsome : (s.slice? p q).isSome := by rw [h]; rfl
    obtain ⟨hle, hp, hq⟩ := (s.slice?_isSome_iff p q).mp hsome
    obtain ⟨before, rest, htext, hstart⟩ := isBoundary_iff_cutsAt.mp hp
    obtain ⟨upTo, behind, htext', hstop⟩ := isBoundary_iff_cutsAt.mp hq
    have hupTo : upTo = before ++ text := by
      rw [← utf8_inj, utf8_append, (utf8_of_append htext hstart).1, (utf8_of_append htext' hstop).1,
        utf8_slice? h, take_append_between hle]
    rw [hupTo] at htext' hstop
    exact ⟨before, behind, htext', hstart, hstop⟩
  · rintro ⟨before, behind, htext, hstart, hstop⟩
    change before.utf8ByteSize = p.toNat at hstart
    change (before ++ text).utf8ByteSize = q.toNat at hstop
    have hle : p ≤ q := by
      rw [UInt64.le_iff_toNat_le, ← hstart, ← hstop, String.utf8ByteSize_append]
      exact Nat.le_add_right ..
    have hp : s.IsBoundary p :=
      isBoundary_iff_cutsAt.mpr ⟨before, text ++ behind, by rw [htext, String.append_assoc], hstart⟩
    have hq : s.IsBoundary q := isBoundary_iff_cutsAt.mpr ⟨before ++ text, behind, htext, hstop⟩
    obtain ⟨other, hother⟩ :=
      Option.isSome_iff_exists.mp ((s.slice?_isSome_iff p q).mpr ⟨hle, hp, hq⟩)
    have hbytes : utf8 before ++ utf8 text = utf8 before ++ utf8 other := by
      rw [← utf8_append, (utf8_of_append htext hstop).1, utf8_slice? hother,
        (utf8_of_append (by rw [htext, String.append_assoc]) hstart).1, take_append_between hle]
    rw [hother, utf8_inj.mp (List.append_cancel_left hbytes)]

theorem slice?_eq_none_iff : s.slice? p q = none ↔
    q < p ∨ s.length < q ∨ s.showsBoundary p = false ∨ s.showsBoundary q = false := by
  rw [← Option.not_isSome_iff_eq_none, slice?_isSome_iff, isBoundary_iff_showsBoundary,
    isBoundary_iff_showsBoundary]
  constructor
  · intro h
    by_contra hnot
    simp only [not_or, UInt64.not_lt, Bool.not_eq_false] at hnot
    exact h ⟨hnot.1, hnot.2.2⟩
  · rintro (h | h | h | h) ⟨hle, hp, hq⟩
    · exact UInt64.not_le.mpr h hle
    · exact UInt64.not_le.mpr h (isBoundary_iff_showsBoundary.mpr hq).le_length
    · rw [h] at hp
      cases hp
    · rw [h] at hq
      cases hq

end Source

namespace Cursor
variable {c : Cursor} {s : Span}

theorem substring_of_split (hle : s.start ≤ s.stop) (hstop : s.stop ≤ c.length)
    (h : ¬ (c.source.IsBoundary s.start ∧ c.source.IsBoundary s.stop)) : (c.substring s).value =
      .error (.splitCharacter (if c.source.IsBoundary s.start then s.stop else s.start)) := by
  have hbounds : ¬ (s.stop < s.start ∨ c.length < s.stop) := by
    rw [not_or, UInt64.not_lt, UInt64.not_lt]
    exact ⟨hle, hstop⟩
  have hnone : c.source.slice? s.start s.stop = none := by
    rw [← Option.not_isSome_iff_eq_none, Source.slice?_isSome_iff]
    exact fun hsome => h hsome.2
  rw [substring_value, if_neg hbounds, hnone]

theorem eq_splitCharacter_of_error {e : AccessError} (hle : s.start ≤ s.stop) (hstop : s.stop ≤ c.length)
    (h : (c.substring s).value = .error e) :
    e = .splitCharacter (if c.source.IsBoundary s.start then s.stop else s.start) := by
  by_cases hboth : c.source.IsBoundary s.start ∧ c.source.IsBoundary s.stop
  · obtain ⟨text, htext⟩ := hasText_iff.mpr ⟨hle, hboth⟩
    cases htext.symm.trans h
  · cases (substring_of_split hle hstop hboth).symm.trans h
    rfl

theorem substring_join {p q r : Offset} (hpq : p ≤ q) (hqr : q ≤ r) {first second : String}
    (hfirst : (c.substring ⟨p, q⟩).value = .ok first) (hsecond : (c.substring ⟨q, r⟩).value = .ok second) :
    (c.substring ⟨p, r⟩).value = .ok (first ++ second) := by
  obtain ⟨_, hp, _⟩ := hasText_iff.mp ⟨first, hfirst⟩
  obtain ⟨_, _, hr⟩ := hasText_iff.mp ⟨second, hsecond⟩
  obtain ⟨whole, hwhole⟩ : c.HasText ⟨p, r⟩ := hasText_iff.mpr ⟨UInt64.le_trans hpq hqr, hp, hr⟩
  have hbytes : utf8 whole = utf8 (first ++ second) := by
    rw [utf8_append, utf8_of_substring hfirst, utf8_of_substring hsecond, utf8_of_substring hwhole]
    exact (c.source.bytesBetween_append hpq hqr).symm
  rw [hwhole, utf8_inj.mp hbytes]

/-- A span has a text exactly if it cuts the source between characters, and then the text is what stands
there. Bounds that are reversed or past the end are refused as such, and what is left is refused for the
start if that splits a character, else for the stop. A continuation byte marks a split, so the slices of a
source are those the bytes allow. Of two adjacent slices and their union, any two determine the third. -/
theorem slices_are_whole_characters (c : Cursor) :
    (∀ s text, (c.substring s).value = .ok text ↔ c.source.Holds s text) ∧
      (∀ s, (c.substring s).value = .error (.badSpan s c.length) ↔
        s.stop < s.start ∨ c.length < s.stop) ∧
      (∀ s : Span, s.start ≤ s.stop → s.stop ≤ c.length → (¬ ∃ text, c.source.Holds s text) →
        (¬ c.source.CutsAt s.start → (c.substring s).value = .error (.splitCharacter s.start)) ∧
        (c.source.CutsAt s.start → (c.substring s).value = .error (.splitCharacter s.stop))) ∧
      (∀ i, c.source.CutsAt i ↔ c.source.showsBoundary i) ∧
      (∀ p q, c.source.slice? p q = none ↔ q < p ∨ c.length < q ∨
        c.source.showsBoundary p = false ∨ c.source.showsBoundary q = false) ∧
      ∀ p q r, p ≤ q → q ≤ r →
        c.HasText ⟨p, q⟩ ∧ c.HasText ⟨q, r⟩ ∨ c.HasText ⟨p, q⟩ ∧ c.HasText ⟨p, r⟩ ∨
          c.HasText ⟨q, r⟩ ∧ c.HasText ⟨p, r⟩ →
        ∃ first second, (c.substring ⟨p, q⟩).value = .ok first ∧
          (c.substring ⟨q, r⟩).value = .ok second ∧
          (c.substring ⟨p, r⟩).value = .ok (first ++ second) := by
  refine ⟨?_, ?_, ?_, ?_, ?_, ?_⟩
  · intro s text
    rw [substring_ok_iff, Source.slice?_eq_some_iff]
  · intro s
    exact substring_eq_badSpan_iff.trans (and_iff_left ⟨rfl, rfl⟩)
  · intro s hle hstop hnone
    have hsplit : ¬ (c.source.IsBoundary s.start ∧ c.source.IsBoundary s.stop) := by
      intro h
      obtain ⟨text, htext⟩ := hasText_iff.mpr ⟨hle, h⟩
      exact hnone ⟨text, Source.slice?_eq_some_iff.mp (substring_ok_iff.mp htext)⟩
    rw [← Source.isBoundary_iff_cutsAt, substring_of_split hle hstop hsplit]
    constructor
    · intro hstart
      rw [if_neg hstart]
    · intro hstart
      rw [if_pos hstart]
  · intro i
    rw [← Source.isBoundary_iff_cutsAt, Source.isBoundary_iff_showsBoundary]
  · intro p q
    exact Source.slice?_eq_none_iff
  · intro p q r hpq hqr htwo
    have hbounds : c.source.IsBoundary p ∧ c.source.IsBoundary q ∧ c.source.IsBoundary r := by
      simp only [hasText_iff] at htwo
      rcases htwo with ⟨h, k⟩ | ⟨h, k⟩ | ⟨h, k⟩
      · exact ⟨h.2.1, h.2.2, k.2.2⟩
      · exact ⟨h.2.1, h.2.2, k.2.2⟩
      · exact ⟨k.2.1, h.2.1, h.2.2⟩
    obtain ⟨hp, hq, hr⟩ := hbounds
    obtain ⟨first, hfirst⟩ : c.HasText ⟨p, q⟩ := hasText_iff.mpr ⟨hpq, hp, hq⟩
    obtain ⟨second, hsecond⟩ : c.HasText ⟨q, r⟩ := hasText_iff.mpr ⟨hqr, hq, hr⟩
    exact ⟨first, second, hfirst, hsecond, substring_join hpq hqr hfirst hsecond⟩

/-- An empty span inside é has no text. The texts é and é€ from the same start leave the text € between
their ends. -/
theorem slices_are_whole_characters_mixed :
    let c : Cursor := ⟨⟨"aé€", by decide⟩, 0, true⟩
    (¬ c.source.CutsAt 2 ∧ (¬ ∃ text, c.source.Holds ⟨2, 2⟩ text) ∧
        (c.substring ⟨2, 2⟩).value = .error (.splitCharacter 2)) ∧
      c.HasText ⟨1, 3⟩ ∧ c.HasText ⟨1, 6⟩ ∧
        ∃ first second, (c.substring ⟨1, 3⟩).value = .ok first ∧
          (c.substring ⟨3, 6⟩).value = .ok second ∧ (c.substring ⟨1, 6⟩).value = .ok (first ++ second) := by
  intro c
  obtain ⟨hok, _, hsplit, hcuts, _, hjoin⟩ := slices_are_whole_characters c
  have inside : ¬ c.source.CutsAt 2 := by
    rw [hcuts]
    decide +kernel
  have none_there : ¬ ∃ text, c.source.Holds ⟨2, 2⟩ text := by
    rintro ⟨text, htext⟩
    have refused : ¬ c.HasText ⟨2, 2⟩ := by
      rw [hasText_iff]
      decide +kernel
    exact refused ⟨text, (hok _ _).mpr htext⟩
  have left_part : c.HasText ⟨1, 3⟩ := hasText_iff.mpr (by decide +kernel)
  have whole : c.HasText ⟨1, 6⟩ := hasText_iff.mpr (by decide +kernel)
  obtain ⟨refused, _⟩ := hsplit ⟨2, 2⟩ (by decide) (by decide) none_there
  exact ⟨⟨inside, none_there, refused inside⟩, left_part, whole,
    hjoin 1 3 6 (by decide) (by decide) (.inr (.inl ⟨left_part, whole⟩))⟩

end Cursor

end TextCursor
