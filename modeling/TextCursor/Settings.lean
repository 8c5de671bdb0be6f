import TextCursor.Cursor.Basic
import TextCursor.Text.CharClass
import TextCursor.Traced

/-!
The one setting, and how it is read from an environment variable. Whatever the variable holds, the
outcome is strict unless it clearly asks for the opposite.
-/
namespace TextCursor

structure Settings where
  strictPositions : Bool := true
  deriving DecidableEq, Repr

namespace Settings

def strictWords : List String := ["1", "true", "yes", "on"]

def lenientWords : List String := ["0", "false", "no", "off"]

/-- The value without white space around it and with its ASCII letters in lower case. -/
def normalized (value : String) : String :=
  String.ofList ((Text.trimBlank value.toList).map Char.toLower)

/-- Whether the value asks for strictness. One that is neither word is reported and counts as strict. -/
def readStrictness (value : String) : Traced Bool := do
  let word := normalized value
  if word ∈ strictWords then
    return true
  else if word ∈ lenientWords then
    return false
  else
    .emit (.unrecognised word)
    return true

/-- How a flag is read from the content of an environment variable, absent if it is not set: what the
flag is by default and how a text is read are given. -/
def Loader : Type :=
  Bool → (String → Traced Bool) → Option ByteArray → Traced (Except LoadError Bool)

def Loader.standard : Loader
  | default, _, none => return .ok default
  | _, read, some content =>
    match String.fromUTF8? content with
    | some value => do return .ok (← read value)
    | none => return .error .notUnicode

def load (content : Option ByteArray) (loader : Loader := Loader.standard) :
    Traced (Except LoadError Settings) := do
  return (← loader true readStrictness content).map fun strictPositions => { strictPositions }

def loadOrDefault (content : Option ByteArray) (loader : Loader := Loader.standard) :
    Traced Settings := do
  match ← load content loader with
  | .ok settings => return settings
  | .error reason =>
    .emit (.fallback reason)
    return {}

/-- The settings of a process. They are loaded when they are first asked for, and kept from then on. -/
inductive Cell where
  | unread (content : Option ByteArray) (loader : Loader)
  | loaded (settings : Settings)

def Cell.get : Cell → Traced (Settings × Cell)
  | unread content loader => do
    let settings ← loadOrDefault content loader
    return (settings, loaded settings)
  | loaded settings => return (settings, loaded settings)

/-- A new cursor. Strictness that is not given comes from the settings, which are asked for in any
case. -/
def Cell.newCursor (cell : Cell) (source : Source) (strict? : Option Bool) :
    Traced (Cursor × Cell) := do
  let (settings, cell) ← cell.get
  return ({ source, strict := strict?.getD settings.strictPositions }, cell)

end Settings

end TextCursor
