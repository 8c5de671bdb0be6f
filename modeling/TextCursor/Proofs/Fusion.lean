import TextCursor.Proofs.Lexemes

/-! Scans that follow one another. Predicates keep nothing in mind, so a scan may stop early for a narrower
one and go on from there with the wider one as if it had not stopped. -/
namespace TextCursor
variable {σ τ : Type} [ByteTest σ] [ByteTest τ] {q : σ} {p : τ}

namespace ByteTest

def Within (q : σ) (p : τ) : Prop := ∀ b, (ask q b).1 → (ask p b).1

theorem Within.refl (p : τ) : Within p p := fun _ h => h

end ByteTest

namespace Scan

/-- Without a memory, a test accepts the bytes up to the first that it refuses. -/
theorem accepted_of_isStateless (h : ByteTest.IsStateless p) (l : List UInt8) :
    (along p l).accepted = l.takeWhile fun b => (ByteTest.ask p b).1 := by
  induction l with
  | nil => rfl
  | cons b rest ih =>
    cases hask : (ByteTest.ask p b).1 with
    | true =>
      rw [along_of_accepted (Prod.ext hask (h b)), List.takeWhile_cons, if_pos hask]
      exact congrArg (b :: ·) ih
    | false =>
      rw [along_of_refused (Prod.ext hask (h b)), List.takeWhile_cons, if_neg (by simp [hask])]

private theorem accepted_append_of_within (hq : ByteTest.IsStateless q) (hp : ByteTest.IsStateless p)
    (h : ByteTest.Within q p) (l : List UInt8) : (along q l).accepted ++
      (along p (l.drop (along q l).accepted.length)).accepted = (along p l).accepted := by
  have hall : ∀ b ∈ (along q l).accepted, (ByteTest.ask p b).1 := by
    intro b hb
    rw [accepted_of_isStateless hq] at hb
    exact h b (List.all_eq_true.mp List.all_takeWhile b hb)
  calc (along q l).accepted ++ (along p (l.drop (along q l).accepted.length)).accepted
    _ = ((along q l).accepted ++ l.drop (along q l).accepted.length).takeWhile
          fun b => (ByteTest.ask p b).1 := by
        rw [List.takeWhile_append_of_pos hall, accepted_of_isStateless hp]
    _ = (along p l).accepted := by
        rw [accepted_append_drop, accepted_of_isStateless hp]

end Scan

namespace Cursor

theorem advanceWhile_advanceWhile (hq : ByteTest.IsStateless q) (hp : ByteTest.IsStateless p)
    (h : ByteTest.Within q p) (c : Cursor) :
    ((c.advanceWhile q).2.advanceWhile p).2 = (c.advanceWhile p).2 := by
  have hrest : ((c.advanceWhile q).2.advanceWhile p).1.accepted =
      (Scan.along p (c.unread.drop (c.advanceWhile q).1.accepted.length)).accepted := by
    rw [← unread_advanceWhile]
    rfl
  have hlength := congrArg List.length (Scan.accepted_append_of_within hq hp h c.unread)
  rw [List.length_append] at hlength
  have hfirst := c.position_advanceWhile q
  have hsecond := (c.advanceWhile q).2.position_advanceWhile p
  have hwhole := c.position_advanceWhile p
  rw [hrest] at hsecond
  refine SameText.eq_of_position ⟨rfl, rfl⟩ ?_
  rw [hsecond, hfirst, hwhole, Nat.add_assoc]
  exact congrArg _ hlength

/-- Where p has scanned already there is nothing left for it, so it is asked about one byte at most. -/
private theorem length_asked_advanceWhile_le_one (hp : ByteTest.IsStateless p) (c : Cursor) :
    ((c.advanceWhile p).2.advanceWhile p).1.asked.length ≤ 1 := by
  have hstill := advanceWhile_advanceWhile hp hp (.refl p) c
  rw [advanceWhile_eq_self_iff] at hstill
  rw [Scan.asked, hstill, List.nil_append, Option.length_toList]
  split
  · exact Nat.le_refl 1
  · exact Nat.zero_le 1

/-- A scan for what q accepts may come before a scan for what p accepts, if p accepts all of that: both
together end where p alone ends, q alone does not get further, and where they give texts, the text of p
alone is the two of them joined. A second scan with p moves nothing and asks p about one byte at most. -/
theorem scans_fuse (hq : ByteTest.IsStateless q) (hp : ByteTest.IsStateless p)
    (h : ByteTest.Within q p) (c : Cursor) :
    let part := (c.advanceWhile q).2
    let whole := (c.advanceWhile p).2
    (part.advanceWhile p).2 = whole ∧ part.position ≤ whole.position ∧
      (∀ first second, (c.nextWhile q).value.text = .ok first →
        ((c.nextWhile q).value.cursor.nextWhile p).value.text = .ok second →
        (c.nextWhile p).value.text = .ok (first ++ second)) ∧
      (whole.advanceWhile p).2 = whole ∧ (whole.advanceWhile p).1.asked.length ≤ 1 := by
  intro part whole
  have hfused : (part.advanceWhile p).2 = whole := advanceWhile_advanceWhile hq hp h c
  have hfrom : c.position ≤ part.position := (c.passes_advanceWhile q).le
  have hupto : part.position ≤ whole.position := by
    rw [← hfused]
    exact (part.passes_advanceWhile p).le
  refine ⟨hfused, hupto, ?_, ?_, ?_⟩
  · intro first second hfirst hsecond
    have hpart : (c.substring ⟨c.position, part.position⟩).value = .ok first := by
      rw [← nextWhile_text]
      exact hfirst
    have hrest : (part.substring ⟨part.position, whole.position⟩).value = .ok second := by
      rw [← hfused, ← nextWhile_text]
      exact hsecond
    rw [nextWhile_text]
    exact substring_join hfrom hupto hpart hrest
  · exact advanceWhile_advanceWhile hp hp (.refl p) c
  · exact length_asked_advanceWhile_le_one hp c

/-- Letters come first and then all that is not a blank. The letter a and é after it are aé, also for the
scan that does not stop between them. -/
theorem scans_fuse_before_blank :
    let c : Cursor := ⟨⟨"aé b", by decide⟩, 0, true⟩
    let letter : UInt8 → Bool := fun b => 97 ≤ b && b ≤ 122
    let solid : UInt8 → Bool := fun b => b != 32
    ByteTest.IsStateless letter ∧ ByteTest.IsStateless solid ∧ ByteTest.Within letter solid ∧
      (c.nextWhile letter).value.text = .ok "a" ∧
      ((c.nextWhile letter).value.cursor.nextWhile solid).value.text = .ok "é" ∧
      (c.nextWhile solid).value.text = .ok ("a" ++ "é") ∧
      ((c.advanceWhile letter).2.advanceWhile solid).2 = (c.advanceWhile solid).2 := by
  intro c letter solid
  have hletter : ByteTest.IsStateless letter := fun _ => rfl
  have hsolid : ByteTest.IsStateless solid := fun _ => rfl
  have within : ByteTest.Within letter solid := by
    intro b hb
    apply bne_iff_ne.mpr
    rintro rfl
    revert hb
    decide
  have hfirst : (c.nextWhile letter).value.text = .ok "a" := by
    rw [nextWhile_text]
    exact substring_ok_iff.mpr (by decide +kernel)
  have hsecond : ((c.nextWhile letter).value.cursor.nextWhile solid).value.text = .ok "é" := by
    rw [nextWhile_text]
    exact substring_ok_iff.mpr (by decide +kernel)
  obtain ⟨hfused, _, hjoin, _⟩ := scans_fuse hletter hsolid within c
  exact ⟨hletter, hsolid, within, hfirst, hsecond, hjoin _ _ hfirst hsecond, hfused⟩

end Cursor

end TextCursor
