import TextCursor.Proofs.Loading
import TextCursor.Proofs.Reports
import TextCursor.Session

/-! Every session is strict unless the environment clearly asks for leniency, and the environment is read
once. -/
namespace TextCursor

namespace Session

/-! ### Once the settings are loaded -/

/-- The settings are loaded, and the cursors that marks are on exist. -/
structure Ready (settings : Settings) (s : Session) : Prop where
  loaded : s.settings = .loaded settings
  focused : ∀ who ∈ s.focus, ∃ r, s.reader who = .ok r

/-- An outcome that leaves the session ready with these settings and warns of nothing. -/
structure Keeps (settings : Settings) (t : Traced (Report × Session)) : Prop where
  ready : t.value.2.Ready settings
  silent : ∀ event ∈ t.events, event.level ≠ .warn

theorem Keeps.map {settings : Settings} {t : Traced (Report × Session)} (h : Keeps settings t)
    {f : Report × Session → Report × Session} (hf : (f t.value).2.Ready settings) :
    Keeps settings (f <$> t) where
  ready := hf
  silent := by
    show ∀ event ∈ t.events ++ [], _
    rw [List.append_nil]
    exact h.silent

private theorem exists_of_bind {ε α β : Type} {x : Except ε α} {f : α → Except ε β} {b : β}
    (h : x >>= f = .ok b) : ∃ a, x = .ok a ∧ f a = .ok b := by
  cases x with
  | ok a => exact ⟨a, rfl, h⟩
  | error e => cases h

private theorem settings_setReader (s : Session) (who : Option String) (r : Reader) :
    (s.setReader who r).settings = s.settings := by
  cases who with
  | none => rfl
  | some name => rfl

private theorem focus_setReader (s : Session) (who : Option String) (r : Reader) :
    (s.setReader who r).focus = s.focus := by
  cases who with
  | none => rfl
  | some name => rfl

private theorem reader_setReader (s : Session) (who : Option String) (r : Reader) :
    (s.setReader who r).reader who = .ok r := by
  cases who with
  | none => rfl
  | some name =>
    simp only [setReader, reader, List.lookup_cons_self]

private theorem exists_reader_setReader {s : Session} {who : Option String} {r : Reader}
    (h : s.reader who = .ok r) (moved : Option String) (d : Reader) :
    ∃ e, (s.setReader moved d).reader who = .ok e := by
  by_cases hsame : who = moved
  · rw [hsame]
    exact ⟨d, s.reader_setReader moved d⟩
  · refine ⟨r, ?_⟩
    cases moved with
    | none =>
      cases who with
      | none => exact absurd rfl hsame
      | some name => exact h
    | some other =>
      cases who with
      | none => exact h
      | some name =>
        have hname : (name == other) = false := beq_false_of_ne fun heq => hsame (congrArg some heq)
        rw [← h]
        simp only [setReader, reader, List.lookup_cons, hname]

theorem Ready.setReader {settings : Settings} {s : Session} (h : s.Ready settings)
    (who : Option String) (r : Reader) : (s.setReader who r).Ready settings where
  loaded := (s.settings_setReader who r).trans h.loaded
  focused := by
    rw [focus_setReader]
    intro other hother
    obtain ⟨d, hd⟩ := h.focused other hother
    exact exists_reader_setReader hd who r

private theorem Ready.exists_reader_current {settings : Settings} {s : Session} (h : s.Ready settings) :
    ∃ r, s.reader s.current = .ok r := by
  rw [current]
  cases hfocus : s.focus with
  | nil => exact ⟨s.main, rfl⟩
  | cons who outer =>
    have hmem : who ∈ s.focus := by
      rw [hfocus]
      exact List.mem_cons_self
    exact h.focused who hmem

section
variable {s : Session} {settings : Settings} (ready : s.Ready settings)
  {who : Option String} {t : Traced (Report × Session)}
include ready

private theorem keeps_perform {op : Reader.Op ByteRule} (h : s.perform who op = .ok t) :
    Keeps settings t ∧ ∃ r, t.value.2.reader who = .ok r := by
  obtain ⟨r, _, h⟩ := exists_of_bind h
  cases hstep : r.step op with
  | none =>
    rw [hstep] at h
    cases h
  | some outcome =>
    rw [hstep] at h
    cases h
    refine ⟨⟨ready.setReader who _, ?_⟩, _, s.reader_setReader who _⟩
    rw [Traced.events_bind, Traced.events_pure, List.append_nil]
    exact Reader.level_ne_warn_of_step hstep

private theorem keeps_act {action : Action} (h : s.act who action = .ok t) : Keeps settings t := by
  cases action with
  | onCursor op =>
    have hperform : s.perform who (.onCursor op) = .ok t := h
    exact (keeps_perform ready hperform).1
  | onMark op => exact (keeps_perform ready h).1
  | substring span =>
    obtain ⟨_, _, h⟩ := exists_of_bind h
    exact (keeps_perform ready h).1
  | expand a b =>
    obtain ⟨_, _, h⟩ := exists_of_bind h
    obtain ⟨_, _, h⟩ := exists_of_bind h
    exact (keeps_perform ready h).1
  | assign other =>
    obtain ⟨_, _, h⟩ := exists_of_bind h
    exact (keeps_perform ready h).1
  | equals other =>
    obtain ⟨_, _, h⟩ := exists_of_bind h
    exact (keeps_perform ready h).1
  | copy name =>
    obtain ⟨_, _, h⟩ := exists_of_bind h
    obtain ⟨_, _, h⟩ := exists_of_bind h
    cases h
    exact ⟨ready.setReader (some name) _, List.forall_mem_nil _⟩
  | create source strict? name =>
    obtain ⟨_, _, h⟩ := exists_of_bind h
    rw [ready.loaded] at h
    cases h
    have hsame : Ready settings { s with settings := .loaded settings } := ⟨rfl, ready.focused⟩
    exact ⟨hsame.setReader (some name) _, List.forall_mem_nil _⟩
  | strictness =>
    obtain ⟨_, _, h⟩ := exists_of_bind h
    rw [ready.loaded] at h
    cases h
    exact ⟨⟨rfl, ready.focused⟩, List.forall_mem_nil _⟩
  | mark =>
    obtain ⟨outcome, houtcome, h⟩ := exists_of_bind h
    cases h
    obtain ⟨hkeeps, hwho⟩ := keeps_perform ready houtcome
    exact hkeeps.map ⟨hkeeps.ready.loaded, List.forall_mem_cons.mpr ⟨hwho, hkeeps.ready.focused⟩⟩
  | drop =>
    obtain ⟨outcome, houtcome, h⟩ := exists_of_bind h
    cases h
    obtain ⟨hkeeps, _⟩ := keeps_perform ready houtcome
    have hfocused : ∀ who ∈ outcome.value.2.focus.tail, ∃ r, outcome.value.2.reader who = .ok r :=
      fun who hwho => hkeeps.ready.focused who (List.mem_of_mem_tail hwho)
    exact hkeeps.map ⟨hkeeps.ready.loaded, hfocused⟩
  | scanMark rule after =>
    rw [act] at h
    split at h
    · cases h
    · obtain ⟨scanned, hscanned, h⟩ := exists_of_bind h
      obtain ⟨hkeeps, _⟩ := keeps_perform ready hscanned
      cases after with
      | none =>
        cases h
        exact hkeeps
      | some op =>
        obtain ⟨decided, hdecided, h⟩ := exists_of_bind h
        cases h
        obtain ⟨⟨hready, hsilent⟩, _⟩ := keeps_perform hkeeps.ready hdecided
        refine ⟨hready, ?_⟩
        show ∀ event ∈ scanned.events ++ (decided.events ++ []), _
        rw [List.append_nil, List.forall_mem_append]
        exact ⟨hkeeps.silent, hsilent⟩

private theorem keeps_step {command : Command} (h : s.step command = .ok t) : Keeps settings t := by
  obtain ⟨outcome, houtcome, h⟩ := exists_of_bind h
  cases h
  have hkeeps := keeps_act ready houtcome
  refine hkeeps.map ?_
  show (Session.keep _ command.keepAs _).Ready settings
  unfold keep
  split
  · exact ⟨hkeeps.ready.loaded, hkeeps.ready.focused⟩
  · exact hkeeps.ready

private theorem transcript_silent {commands : List Command} {reports : List (Traced Report)}
    (h : s.transcript commands = .ok reports) :
    ∀ event ∈ reports.flatMap (·.events), event.level ≠ .warn := by
  induction commands generalizing s reports with
  | nil =>
    cases h
    exact List.forall_mem_nil _
  | cons command rest ih =>
    obtain ⟨outcome, houtcome, h⟩ := exists_of_bind h
    obtain ⟨later, hlater, h⟩ := exists_of_bind h
    cases h
    obtain ⟨hready, hsilent⟩ := keeps_step ready houtcome
    show ∀ event ∈ (outcome.events ++ []) ++ later.flatMap (·.events), _
    rw [List.append_nil, List.forall_mem_append]
    exact ⟨hsilent, ih hready hlater⟩

end

def after (s : Session) : List Command → Except Fault Session
  | [] => return s
  | command :: rest => do
    let outcome ← s.step command
    outcome.value.2.after rest

private theorem ready_after {s d : Session} {settings : Settings} (ready : s.Ready settings)
    {commands : List Command} (h : s.after commands = .ok d) : d.Ready settings := by
  induction commands generalizing s with
  | nil =>
    cases h
    exact ready
  | cons command rest ih =>
    obtain ⟨outcome, houtcome, h⟩ := exists_of_bind h
    exact ih (keeps_step ready houtcome).ready h

/-- New cursors can be made. Those whose strictness is not given get this flag, and asking for the
strictness in the settings at a cursor that exists answers it. Neither reports anything. -/
structure Uses (flag : Bool) (s : Session) : Prop where
  create : ∀ who source strict? name, ∃ t, s.act who (.create source strict? name) = .ok t ∧
    t.events = [] ∧ ∃ r, t.value.2.reader (some name) = .ok r ∧
      r.cursor = { source, strict := strict?.getD flag }
  strictness : ∀ who r, s.reader who = .ok r → ∃ t, s.act who .strictness = .ok t ∧
    t.events = [] ∧ t.value.1.result = .ok (.flag flag)

private theorem Ready.uses {s : Session} {settings : Settings} (ready : s.Ready settings) :
    s.Uses settings.strictPositions where
  create who source strict? name := by
    obtain ⟨r, hr⟩ := ready.exists_reader_current
    simp only [act, report, hr, ready.loaded]
    exact ⟨_, rfl, rfl, _, reader_setReader _ (some name) _, rfl⟩
  strictness who r hr := by
    simp only [act, report, hr, ready.loaded]
    exact ⟨_, rfl, rfl, rfl⟩

private theorem start_unread (content : Option ByteArray) (loader : Settings.Loader) (source : Source)
    (strict? : Option Bool) :
    let settings := Settings.loadOrDefault content loader
    start (.unread content loader) source strict? =
      ⟨{ settings := .loaded settings.value
         main := ⟨{ source, strict := strict?.getD settings.value.strictPositions }, []⟩ },
        settings.events⟩ := by
  refine congrArg (Traced.mk _) ?_
  exact ((List.append_nil _).trans (List.append_nil _)).trans (List.append_nil _)

/-- How sessions with this content of the variable are strict. Only content that says so makes them
lenient, and the content counts once, when the main cursor is made. -/
structure DecidedBy (content : Option ByteArray) (loader : Settings.Loader) (source : Source)
    (strict? : Option Bool) (flag : Bool) : Prop where
  lenient : flag = false ↔ Settings.Says Settings.lenientWords content
  main : (start (.unread content loader) source strict?).value.main.cursor =
    { source, strict := strict?.getD flag }
  uses : ∀ commands s, (start (.unread content loader) source strict?).value.after commands = .ok s →
    s.Uses flag
  warnings : Settings.Warnings content (start (.unread content loader) source strict?).events
  once : ∀ commands reports, play content source strict? commands loader = .ok reports →
    (reports.flatMap (·.events)).filter (·.level = .warn) =
      (start (.unread content loader) source strict?).events
  /-- White space around a value and the case of its ASCII letters change nothing about a session. -/
  same : ∀ text text' value value' : String, content = some value.toByteArray →
    Settings.Pads text value → Settings.Pads text' value' →
    Settings.lowered text = Settings.lowered text' → ∀ commands,
      play (some value'.toByteArray) source strict? commands loader =
        play content source strict? commands loader

end Session

end TextCursor
