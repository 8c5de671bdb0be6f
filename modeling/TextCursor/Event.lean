import TextCursor.AccessError

/-! What cursors, marks and settings report while they work, and why settings may not load. -/
namespace TextCursor

namespace Settings

def variableName : String := "STRCURSOR_STRICT_POSITIONS"

structure LoadError where
  message : String
  deriving DecidableEq, Repr

def LoadError.notUnicode : LoadError where
  message := "failed to load value `Config::strict_positions` from environment variable `" ++
    variableName ++ "`: value is not valid unicode"

end Settings

inductive Level where
  | trace
  | debug
  | warn
  deriving DecidableEq, Repr

inductive Event where
  | outside (offset : Displacement) (length : Offset)
  | rejectedSpan (asked : Span) (length : Offset)
  | reverted (undone anchor : Offset)
  | committed (span : Span)
  | released (span : Span)
  | unrecognised (value : String)
  | fallback (reason : Settings.LoadError)
  deriving DecidableEq, Repr

namespace Event

def level : Event → Level
  | outside .. | rejectedSpan .. => .debug
  | reverted .. | committed .. | released .. => .trace
  | unrecognised .. | fallback .. => .warn

def message : Event → String
  | outside offset length => s!"Offset {offset.toInt} is outside of {length.toNat} bytes"
  | rejectedSpan asked length => s!"Rejected span {asked.text} over {length.toNat} bytes"
  | reverted undone anchor => s!"Reverted mark from {undone.toNat} to {anchor.toNat}"
  | committed span => s!"Committed mark {span.text}"
  | released span => s!"Released mark {span.text}"
  | unrecognised value =>
    s!"Unrecognised value {Text.quoted value} for {Settings.variableName}, staying strict"
  | fallback reason => s!"Falling back to default configuration: {reason.message}"

end Event

end TextCursor
