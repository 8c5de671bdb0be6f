/-!
Scans: a test is asked about one byte after the other until it refuses one or the bytes run out. A
test may change with every byte it is asked about.
-/
namespace TextCursor

/-- Types whose values test bytes. Asking gives the verdict and the test to ask next. -/
class ByteTest (τ : Type) where
  ask : τ → UInt8 → Bool × τ

/-- A predicate is a test that never changes. -/
instance : ByteTest (UInt8 → Bool) where
  ask p b := (p b, p)

structure Scan (τ : Type) where
  accepted : List UInt8
  /-- The byte that ended the scan, absent if the bytes ran out. -/
  refused : Option UInt8
  test : τ
  deriving DecidableEq, Repr

namespace Scan
variable {τ : Type}

def asked (s : Scan τ) : List UInt8 := s.accepted ++ s.refused.toList

variable [ByteTest τ]

def along (test : τ) : List UInt8 → Scan τ
  | [] => ⟨[], none, test⟩
  | b :: rest =>
    match ByteTest.ask test b with
    | (true, next) =>
      let s := along next rest
      { s with accepted := b :: s.accepted }
    | (false, next) => ⟨[], some b, next⟩

theorem accepted_append_drop (test : τ) (l : List UInt8) :
    (along test l).accepted ++ l.drop (along test l).accepted.length = l := by
  induction l generalizing test with
  | nil => rfl
  | cons b rest ih =>
    unfold along
    split
    · next next _ => simp [ih next]
    · rfl

theorem length_accepted_le (test : τ) (l : List UInt8) : (along test l).accepted.length ≤ l.length := by
  have h := congrArg List.length (accepted_append_drop test l)
  rw [List.length_append] at h
  omega

end Scan

end TextCursor
