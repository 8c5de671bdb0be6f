import TextCursor.ByteRule
import TextCursor.Reader
import TextCursor.Settings

/-!
A session works on a main cursor, on further cursors by name, and on spans kept by name. While marks
are open, the cursor of the innermost one is the current cursor.
-/
namespace TextCursor

inductive SpanRef where
  | bounds (s : Span)
  | named (name : String)
  deriving DecidableEq, Repr

namespace Session

/-- What a command does. Names stand for cursors of the session. -/
inductive Action where
  | onCursor (op : Cursor.Op ByteRule)
  | substring (span : SpanRef)
  | expand (a b : SpanRef)
  | assign (other : String)
  | equals (other : String)
  | copy (name : String)
  /-- Makes a cursor and keeps it under a name. Strictness that is not given comes from the settings. -/
  | create (source : Source) (strict? : Option Bool) (name : String)
  | strictness
  | mark
  | drop
  | onMark (op : Mark.Op)
  /-- Scans through the innermost mark, and may go on with an operation on that mark. -/
  | scanMark (rule : ByteRule) (after : Option Mark.Op)
  deriving DecidableEq

structure Command where
  action : Action
  target : Option String := none
  keepAs : Option String := none
  deriving DecidableEq

inductive Fault where
  | unknownCursor (name : String)
  | unknownSpan (name : String)
  | noOpenMark
  deriving DecidableEq, Repr

/-- What a command leads to: its result, the position of the cursor it worked on, and the bytes that
its rule was asked about, if it had one. -/
structure Report where
  result : Except AccessError Answer
  position : Offset
  asked : Option (List UInt8) := none

end Session

structure Session where
  settings : Settings.Cell
  main : Reader
  /-- The other cursors by name. The newest entry for a name counts. -/
  named : List (String × Reader) := []
  /-- The spans kept by name. The newest entry for a name counts. -/
  spans : List (String × Span) := []
  /-- The cursors that the open marks are on, innermost mark first. The main cursor has no name. -/
  focus : List (Option String) := []

namespace Session

def start (settings : Settings.Cell) (source : Source) (strict? : Option Bool) : Traced Session := do
  let (cursor, settings) ← settings.newCursor source strict?
  return { settings, main := { cursor } }

def current (s : Session) : Option String := s.focus.head?.join

def reader (s : Session) : Option String → Except Fault Reader
  | none => .ok s.main
  | some name =>
    match s.named.lookup name with
    | some r => .ok r
    | none => .error (.unknownCursor name)

def setReader (s : Session) (who : Option String) (r : Reader) : Session :=
  match who with
  | none => { s with main := r }
  | some name => { s with named := (name, r) :: s.named }

def span (s : Session) : SpanRef → Except Fault Span
  | .bounds span => .ok span
  | .named name =>
    match s.spans.lookup name with
    | some span => .ok span
    | none => .error (.unknownSpan name)

/-- Keeps a resulting span under a name. Other results and errors keep nothing. -/
def keep (s : Session) (name : Option String) (result : Except AccessError Answer) : Session :=
  match name, result with
  | some name, .ok (.span span) => { s with spans := (name, span) :: s.spans }
  | _, _ => s

def perform (s : Session) (who : Option String) (op : Reader.Op ByteRule) :
    Except Fault (Traced (Report × Session)) := do
  match (← s.reader who).step op with
  | none => throw .noOpenMark
  | some outcome => return do
    let (reply, r) ← outcome
    let report : Report :=
      { result := reply.result, position := r.cursor.position, asked := reply.scan.map Scan.asked }
    return (report, s.setReader who r)

def report (s : Session) (who : Option String) (a : Answer) : Except Fault Report :=
  return { result := .ok a, position := (← s.reader who).cursor.position }

/-- Carries out an action on the cursor of that name. Actions on marks mean the innermost mark. -/
def act (s : Session) (who : Option String) : Action → Except Fault (Traced (Report × Session))
  | .onCursor op => s.perform who (.onCursor op)
  | .substring span => do s.perform who (.onCursor (.substring (← s.span span)))
  | .expand a b => do s.perform who (.onCursor (.expand (← s.span a) (← s.span b)))
  | .assign other => do s.perform who (.onCursor (.assign (← s.reader (some other)).cursor))
  | .equals other => do s.perform who (.onCursor (.equals (← s.reader (some other)).cursor))
  | .copy name => do
    let cursor := (← s.reader who).cursor
    return .quiet (← s.report who .nothing, s.setReader (some name) { cursor })
  | .create source strict? name => do
    let report ← s.report s.current .nothing
    return do
      let (cursor, settings) ← s.settings.newCursor source strict?
      return (report, { s with settings }.setReader (some name) { cursor })
  | .strictness => do
    let report ← s.report who .nothing
    return do
      let (current, settings) ← s.settings.get
      return ({ report with result := .ok (.flag current.strictPositions) }, { s with settings })
  | .mark => do
    let outcome ← s.perform who .mark
    return (fun (report, s) => (report, { s with focus := who :: s.focus })) <$> outcome
  | .drop => do
    let outcome ← s.perform s.current .drop
    return (fun (report, s) => (report, { s with focus := s.focus.tail })) <$> outcome
  | .onMark op => s.perform s.current (.onMark op)
  | .scanMark rule after => do
    if s.focus.isEmpty then throw .noOpenMark
    let scanned ← s.perform s.current (.onCursor (.advanceWhile rule))
    match after with
    | none => return scanned
    | some op => do
      let decided ← scanned.value.2.perform s.current (.onMark op)
      return do
        let (first, _) ← scanned
        let (second, s) ← decided
        return ({ second with asked := first.asked }, s)

def step (s : Session) (command : Command) : Except Fault (Traced (Report × Session)) := do
  let outcome ← s.act (command.target <|> s.current) command.action
  return (fun (report, s) => (report, s.keep command.keepAs report.result)) <$> outcome

def transcript (s : Session) : List Command → Except Fault (List (Traced Report))
  | [] => return []
  | command :: rest => do
    let outcome ← s.step command
    let reports ← transcript outcome.value.2 rest
    return Prod.fst <$> outcome :: reports

/-- A whole session: the report of its start, then one for each command. The settings come from the
content of the environment variable. -/
def play (content : Option ByteArray) (source : Source) (strict? : Option Bool)
    (commands : List Command) (loader : Settings.Loader := Settings.Loader.standard) :
    Except Fault (List (Traced Report)) := do
  let opened := start (.unread content loader) source strict?
  let opening ← opened.value.report none .nothing
  return (fun _ => opening) <$> opened :: (← opened.value.transcript commands)

end Session

end TextCursor
