import NativeFinder.Number.Numeral
import NativeFinder.Session.Basic
import NativeFinder.Terminal.Surface

/-!
# The prompt

A session on a terminal is driven line by line. A line is a new query, unless it begins with
a colon: then `:N` opens row `N`, `:q` ends the session, and anything else is answered with a
notice. The end of the input ends the session too.

`Terminal.run` reads lines until the terminal is closed. It keeps what was shown before each
time it asked for a line, and it stops where something cannot be shown.
-/

namespace NativeFinder

/-- What the prompt gives: a line, or the wish to stop. -/
inductive PromptInput where
  | line (text : Text)
  | stop
deriving DecidableEq, Inhabited

/-- Why the prompt ends before the session does. -/
inductive TerminalError where
  | markup (error : MarkupError)
  | session (error : SessionError)
  | number (error : Numeral.IntError)

namespace TerminalError

/-- The wording of the errors. -/
def message : TerminalError → Text
  | markup e => e.message
  | session e => e.message
  | number e => e.message

end TerminalError

/-- A session on a terminal. -/
structure Terminal where
  session : Session
  surface : TerminalSurface
deriving Inhabited

namespace Terminal

/-- What a line does. -/
structure Step where
  terminal : Terminal
  events : List ScreenEvent := []
  logs : List Log.Record := []
  error : Option TerminalError := none

/-- Puts a step of the session on the terminal. If something cannot be shown, the session has
gone on nevertheless. -/
def ofSessionStep (t : Terminal) (step : Session.Step) : Step :=
  let (surface, events, failed) := t.surface.answerAll step.calls
  { terminal := { session := step.session, surface }, events, logs := step.logs
    error := match failed with
      | some e => some (.markup e)
      | none => step.error.map .session }

/-- Two steps as one. -/
def Step.andThen (step : Step) (next : Terminal → Step) : Step :=
  match step.error with
  | some _ => step
  | none =>
    let after := next step.terminal
    { after with events := step.events ++ after.events, logs := step.logs ++ after.logs }

/-- Ends the session. -/
def dismiss (t : Terminal) : Step := t.ofSessionStep t.session.dismiss

/-- Answers a query. -/
def changeQuery (t : Terminal) (text : Text) : Step :=
  t.ofSessionStep (t.session.changeQuery text)

/-- Selects a row. Where the details cannot be shown, the session stays with its choice. -/
def select (t : Terminal) (row : Row) : Step :=
  match t.session.selectable? row with
  | some e => (t.ofSessionStep (t.session.choose e)).andThen dismiss
  | none => t.ofSessionStep (t.session.select row)

/-! ### Commands -/

/-- The arguments that end the session. -/
def quitWords : List Text := ["q", "quit", "exit"]

/-- What a line asks for. -/
inductive Command where
  | query (text : Text)
  | quit
  /-- Something after a colon that is written in digits. -/
  | open (digits : Text) (line : Text)
  | unknown (line : Text)
deriving DecidableEq, Inhabited

/-- Reads a line. Commands are read without the blanks around them. -/
def Command.ofLine (text : Text) : Command :=
  match text.trim with
  | ':' :: rest =>
    let argument := Text.trim rest
    if quitWords.contains argument.lowerAscii then .quit
    else if !argument.isEmpty && argument.all Character.isDigit then .open argument (':' :: rest)
    else .unknown (':' :: rest)
  | _ => .query text

/-- The markup of the notice about a line that is no command. -/
def unknownNotice (line : Text) : Text :=
  "[red]Unknown command or row: " ++ line ++ "[/red]"

/-- Shows the notice about a line that is no command. -/
def reject (t : Terminal) (line : Text) : Step :=
  { terminal := t, events := [.markup (unknownNotice line)] }

/-- Carries out a command. -/
def obey (t : Terminal) : Command → Step
  | .query text => t.changeQuery text
  | .quit => t.dismiss
  | .unknown line => t.reject line
  | .open digits line =>
    match Numeral.parseInt digits with
    | .error e => { terminal := t, error := some (.number e) }
    | .ok n =>
      match t.surface.numberedRow? n with
      | some row => t.select row
      | none => t.reject line

/-- Answers what the prompt gives. -/
def handle (t : Terminal) : PromptInput → Step
  | .line text => t.obey (Command.ofLine text)
  | .stop => t.dismiss

/-! ### The loop -/

/-- What was shown up to a moment, and the state of the terminal then. -/
structure Round (α : Type) where
  terminal : Terminal
  shown : List α

/-- A whole run of the prompt. -/
structure Run (α : Type) where
  /-- The moments at which a line was asked for, with what was shown since the one before. -/
  rounds : List (Round α)
  /-- The moment at which the run ended. -/
  last : Round α
  logs : List Log.Record
  error : Option TerminalError
  /-- The number of inputs that were never asked for. -/
  unread : Nat

/-- Shows events in order, up to the first one that cannot be shown. -/
def showAll {α : Type} (display : ScreenEvent → Except MarkupError α) :
    List ScreenEvent → List α × Option MarkupError
  | [] => ([], none)
  | event :: rest =>
    match display event with
    | .error e => ([], some e)
    | .ok x =>
      let (xs, error) := showAll display rest
      (x :: xs, error)

/-- Shows the events of a step. An event that cannot be shown is what ends the run. -/
def Step.shown {α : Type} (display : ScreenEvent → Except MarkupError α) (step : Step) :
    Round α × Option TerminalError :=
  let (xs, failed) := showAll display step.events
  (⟨step.terminal, xs⟩, match failed with
    | some e => some (.markup e)
    | none => step.error)

/-- Ends a run. -/
def Run.ended {α : Type} (last : Round α) (logs : List Log.Record) (error : Option TerminalError)
    (unread : Nat) : Run α :=
  { rounds := [], last, logs, error, unread }

/-- Puts a moment before a run. -/
def Run.after {α : Type} (run : Run α) (round : Round α) (logs : List Log.Record) : Run α :=
  { run with rounds := round :: run.rounds, logs := logs ++ run.logs }

/-- Asks for lines until the terminal is closed; `round` is what was shown before the first
one. The wish to stop ends the run, and it comes by itself behind the last input. -/
def run {α : Type} (display : ScreenEvent → Except MarkupError α) (round : Round α) :
    List PromptInput → Run α
  | [] =>
    if round.terminal.surface.closed then .ended round [] none 0
    else
      let step := round.terminal.handle .stop
      let (next, error) := step.shown display
      (Run.ended next [] error 0).after round step.logs
  | input :: rest =>
    if round.terminal.surface.closed then .ended round [] none (rest.length + 1)
    else
      let step := round.terminal.handle input
      let (next, error) := step.shown display
      match error, input with
      | none, .line _ => (run display next rest).after round step.logs
      | error, _ => (Run.ended next [] error rest.length).after round step.logs

end Terminal

end NativeFinder
