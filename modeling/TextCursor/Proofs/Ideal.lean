import TextCursor.Reader

/-! A reader whose offsets are natural numbers. Its position grows without bound, it moves one byte at a
time, and exact integers decide what it can read. The reader over words is measured against it. -/
namespace TextCursor

/-- What a reply shows of itself, without the reason of a failure. Its offsets are words or exact
numbers. -/
inductive Observation (ν : Type) where
  | failure
  | nothing
  | flag (b : Bool)
  | byte (b : UInt8)
  /-- The bytes of repeated reading, and whether a failure ended it early. -/
  | taken (bytes : List UInt8) (cut : Bool)
  | offset (n : ν)
  | text (s : String)
  | span (start stop : ν)
  deriving DecidableEq, Repr

namespace Observation
variable {ν μ : Type}

def map (f : ν → μ) : Observation ν → Observation μ
  | failure => .failure
  | nothing => .nothing
  | flag b => .flag b
  | byte b => .byte b
  | taken bytes cut => .taken bytes cut
  | offset n => .offset (f n)
  | text s => .text s
  | span start stop => .span (f start) (f stop)

def ofOption {α : Type} (wrap : α → Observation ν) : Option α → Observation ν
  | some a => wrap a
  | none => .failure

end Observation

def Answer.observed : Answer → Observation Offset
  | nothing => .nothing
  | flag b => .flag b
  | byte b => .byte b
  | taken t => .taken t.bytes t.failure.isSome
  | offset n => .offset n
  | text s => .text s
  | span s => .span s.start s.stop

def Reply.observed {τ : Type} (r : Reply τ) : Observation Offset :=
  Observation.ofOption Answer.observed r.result.toOption

namespace Ideal

def between? (start stop : Int) : Option (Nat × Nat) :=
  if 0 ≤ start ∧ 0 ≤ stop then some (start.toNat, stop.toNat) else none

structure Cursor where
  source : Source
  position : Nat
  strict : Bool

structure Mark where
  anchor : Nat
  stop? : Option Nat := none

structure Reader where
  cursor : Cursor
  marks : List Mark

structure Reply (τ : Type) where
  seen : Observation Nat
  scan : Option (Scan τ) := none

namespace Cursor

def ofWords (c : TextCursor.Cursor) : Cursor := ⟨c.source, c.position.toNat, c.strict⟩

def length (c : Cursor) : Nat := c.source.bytes.length

def remaining (c : Cursor) : Nat := c.length - c.position

def isReadableBy (c : Cursor) (n : Nat) : Bool := c.position + n ≤ c.length

def byteAt? (c : Cursor) (k : Int) : Option UInt8 :=
  let target := c.position + k
  if 0 ≤ target then c.source.bytes[target.toNat]? else none

def text? (c : Cursor) (start stop : Nat) : Option String :=
  if h : start ≤ stop ∧ String.Pos.Raw.IsValid c.source.text ⟨start⟩ ∧
      String.Pos.Raw.IsValid c.source.text ⟨stop⟩ then
    some (String.extract (c.source.text.pos ⟨start⟩ h.2.1) (c.source.text.pos ⟨stop⟩ h.2.2))
  else none

def advanceBy (c : Cursor) (n : Nat) : Cursor := { c with position := c.position + n }

def next (c : Cursor) : Option UInt8 × Cursor :=
  match c.byteAt? 0 with
  | some b => (some b, c.advanceBy 1)
  | none => (none, c)

/-- Reads up to n bytes. The flag says whether a failure ended it early. -/
def take (c : Cursor) : Nat → (List UInt8 × Bool) × Cursor
  | 0 => (([], false), c)
  | n + 1 =>
    match c.next with
    | (some b, d) =>
      let ((bytes, cut), e) := d.take n
      ((b :: bytes, cut), e)
    | (none, d) => (([], true), d)

def setPosition (c : Cursor) (n : Nat) : Option Nat × Cursor :=
  if c.strict ∧ c.length < n then (none, c) else (some c.position, { c with position := n })

def unconsumed (c : Cursor) : Option (Nat × Nat) := between? ((c.length : Int) - c.position) c.length

def inspect (c : Cursor) : String :=
  Text.record "Cursor" [("source", Text.quoted c.source.text), ("position", toString c.position),
    ("strict", toString c.strict)]

variable {τ : Type} [ByteTest τ]

def scan (c : Cursor) (test : τ) : Scan τ × Cursor :=
  if h : c.position < c.source.bytes.length then
    match ByteTest.ask test c.source.bytes[c.position] with
    | (true, next) =>
      let (s, d) := scan (c.advanceBy 1) next
      ({ s with accepted := c.source.bytes[c.position] :: s.accepted }, d)
    | (false, next) => (⟨[], some c.source.bytes[c.position], next⟩, c)
  else (⟨[], none, test⟩, c)
termination_by c.source.bytes.length - c.position
decreasing_by
  show c.source.bytes.length - (c.position + 1) < c.source.bytes.length - c.position
  omega

def run (c : Cursor) : TextCursor.Cursor.Op τ → Reply τ × Cursor
  | .length => ({ seen := .offset c.length }, c)
  | .isEmpty => ({ seen := .flag (c.length == 0) }, c)
  | .remaining => ({ seen := .offset c.remaining }, c)
  | .position => ({ seen := .offset c.position }, c)
  | .isReadable => ({ seen := .flag (c.isReadableBy 1) }, c)
  | .isReadableBy n => ({ seen := .flag (c.isReadableBy n.toNat) }, c)
  | .peek => ({ seen := .ofOption .byte (c.byteAt? 0) }, c)
  | .peekAt k => ({ seen := .ofOption .byte (c.byteAt? k.toInt) }, c)
  | .substring s => ({ seen := .ofOption .text (c.text? s.start.toNat s.stop.toNat) }, c)
  | .text => ({ seen := .text c.source.text }, c)
  | .inspect => ({ seen := .text c.inspect }, c)
  | .advance => ({ seen := .nothing }, c.advanceBy 1)
  | .advanceBy n => ({ seen := .nothing }, c.advanceBy n.toNat)
  | .advanceWhile test =>
    let (s, d) := c.scan test
    ({ seen := .nothing, scan := some s }, d)
  | .next =>
    let (b, d) := c.next
    ({ seen := .ofOption .byte b }, d)
  | .take n =>
    let ((bytes, cut), d) := c.take n
    ({ seen := .taken bytes cut }, d)
  | .nextWhile test =>
    let (s, d) := c.scan test
    ({ seen := .ofOption .text (d.text? c.position d.position), scan := some s }, d)
  | .peekWhile test =>
    let (s, d) := c.scan test
    ({ seen := .ofOption .text (c.text? c.position d.position), scan := some s }, c)
  | .setPosition n =>
    let (old, d) := c.setPosition n.toNat
    ({ seen := .ofOption .offset old }, d)
  | .setStrict strict => ({ seen := .nothing }, { c with strict })
  | .assign other => ({ seen := .nothing }, ofWords other)
  | .equals other =>
    let same := c.source = other.source ∧ c.position = other.position.toNat ∧ c.strict = other.strict
    ({ seen := .flag same }, c)
  | .full => ({ seen := .span 0 c.length }, c)
  | .consumed => ({ seen := .span 0 c.position }, c)
  | .unconsumed => ({ seen := .ofOption (fun s => .span s.1 s.2) c.unconsumed }, c)
  | .between start stop =>
    ({ seen := .ofOption (fun s => .span s.1 s.2) (between? start.toInt stop.toInt) }, c)
  | .expand s t =>
    let start := min s.start.toNat t.start.toNat
    ({ seen := .span start (max s.stop.toNat t.stop.toNat) }, c)

end Cursor

namespace Mark

def ofWords (m : TextCursor.Mark) : Mark := ⟨m.anchor.toNat, m.stop?.map UInt64.toNat⟩

def stop (m : Mark) (c : Cursor) : Nat := m.stop?.getD c.position

def inspect (m : Mark) (c : Cursor) : String :=
  Text.record "Mark" [("cursor", c.inspect), ("anchor", toString m.anchor),
    ("end", match m.stop? with
      | some stop => s!"Some({stop})"
      | none => "None")]

def run (m : Mark) (c : Cursor) : TextCursor.Mark.Op → Observation Nat × Mark × Cursor
  | .anchor => (.offset m.anchor, m, c)
  | .isResolved => (.flag m.stop?.isSome, m, c)
  | .revert => (.offset c.position, m, { c with position := m.anchor })
  | .commit => (.span m.anchor (m.stop c), { m with stop? := some (m.stop c) }, c)
  | .release =>
    (.span m.anchor (m.stop c), { m with stop? := some (m.stop c) },
      if m.stop?.isSome then c else { c with position := m.anchor })
  | .span => (.span m.anchor (m.stop c), m, c)
  | .text => (.ofOption .text (c.text? m.anchor (m.stop c)), m, c)
  | .inspect => (.text (m.inspect c), m, c)

end Mark

namespace Reader
variable {τ : Type} [ByteTest τ]

def ofWords (r : TextCursor.Reader) : Reader := ⟨.ofWords r.cursor, r.marks.map .ofWords⟩

def step : Reader → TextCursor.Reader.Op τ → Option (Reply τ × Reader)
  | ⟨c, marks⟩, .onCursor op =>
    let (reply, d) := c.run op
    some (reply, ⟨d, marks⟩)
  | ⟨c, marks⟩, .mark => some ({ seen := .offset c.position }, ⟨c, { anchor := c.position } :: marks⟩)
  | ⟨c, _ :: marks⟩, .drop => some ({ seen := .nothing }, ⟨c, marks⟩)
  | ⟨c, m :: marks⟩, .onMark op =>
    let (seen, m', d) := m.run c op
    some ({ seen }, ⟨d, m' :: marks⟩)
  | ⟨_, []⟩, .drop | ⟨_, []⟩, .onMark _ => none

def run (r : Reader) : List (TextCursor.Reader.Op τ) → Option (List (Reply τ) × Reader)
  | [] => some ([], r)
  | op :: ops => do
    let (reply, s) ← r.step op
    let (replies, t) ← s.run ops
    return (reply :: replies, t)

end Reader

end Ideal

end TextCursor
