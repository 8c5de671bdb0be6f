import TextCursor.Scan

/-!
Rules that decide which bytes a scan accepts, built from ASCII classes. A rule may remember what it was
asked before; a part of a rule that is not asked remembers nothing new.
-/
namespace TextCursor

/-- Classes of bytes. Bytes from 128 on belong only to `all`. -/
inductive ByteClass where
  | all
  | none
  | alpha
  | alnum
  | digit
  | hex
  | space
  | upper
  | lower
  | punct
  | control
  | ascii
  deriving DecidableEq, Repr

private def isUpperByte (b : UInt8) : Bool := 65 ≤ b && b ≤ 90

private def isLowerByte (b : UInt8) : Bool := 97 ≤ b && b ≤ 122

private def isDigitByte (b : UInt8) : Bool := 48 ≤ b && b ≤ 57

/-- The bytes of a class. White space is tab, line feed, form feed, carriage return and space, without
the vertical tab. -/
def ByteClass.contains : ByteClass → UInt8 → Bool
  | all, _ => true
  | none, _ => false
  | alpha, b => isUpperByte b || isLowerByte b
  | alnum, b => isUpperByte b || isLowerByte b || isDigitByte b
  | digit, b => isDigitByte b
  | hex, b => isDigitByte b || (65 ≤ b && b ≤ 70) || (97 ≤ b && b ≤ 102)
  | space, b => b == 9 || b == 10 || b == 12 || b == 13 || b == 32
  | upper, b => isUpperByte b
  | lower, b => isLowerByte b
  | punct, b => (33 ≤ b && b ≤ 47) || (58 ≤ b && b ≤ 64) || (91 ≤ b && b ≤ 96) || (123 ≤ b && b ≤ 126)
  | control, b => b < 32 || b == 127
  | ascii, b => b < 128

inductive ByteRule where
  | inClass (c : ByteClass)
  | equal (n : Nat)
  | oneOf (bytes : List UInt8)
  | between (low high : Nat)
  | not (r : ByteRule)
  /-- Asks the second rule only if the first accepts. -/
  | and (r s : ByteRule)
  /-- Asks the second rule only if the first refuses. -/
  | or (r s : ByteRule)
  | first (n : Nat)
  /-- Accepts a byte unless it was also the byte asked about before. -/
  | noRepeat (previous : Option UInt8)
  deriving DecidableEq, Repr

namespace ByteRule

def ask : ByteRule → UInt8 → Bool × ByteRule
  | inClass c, b => (c.contains b, inClass c)
  | equal n, b => (b.toNat == n, equal n)
  | oneOf bytes, b => (bytes.contains b, oneOf bytes)
  | between low high, b => (low ≤ b.toNat && b.toNat ≤ high, between low high)
  | not r, b =>
    let (yes, r) := r.ask b
    (!yes, not r)
  | and r s, b =>
    match r.ask b with
    | (true, r) =>
      let (yes, s) := s.ask b
      (yes, and r s)
    | (false, r) => (false, and r s)
  | or r s, b =>
    match r.ask b with
    | (true, r) => (true, or r s)
    | (false, r) =>
      let (yes, s) := s.ask b
      (yes, or r s)
  | first n, _ => (n != 0, first (n - 1))
  | noRepeat previous, b => (previous != some b, noRepeat (some b))

instance : ByteTest ByteRule where
  ask := ask

def allOf (rules : List ByteRule) : ByteRule := rules.foldr and (inClass .all)

def anyOf (rules : List ByteRule) : ByteRule := rules.foldr or (inClass .none)

end ByteRule

end TextCursor
