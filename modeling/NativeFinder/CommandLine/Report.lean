import NativeFinder.CommandLine.Request
import NativeFinder.Source.Loader
import NativeFinder.Terminal.Prompt

/-!
# What a command reports

A command writes to the output, and tells of a failure on the error output. A failure is
marked, so that it catches the eye; one that the program foresees, a source that cannot be had
or a setting of the search that is out of range, is told in its own words, and any other one
is called an error.
-/

namespace NativeFinder

/-- What a program finds around it, with the web and the lines of its input. -/
structure World extends Surroundings where
  web : Web
  lines : List Text

/-- Why a command fails. -/
inductive CommandError where
  /-- A source of the documentation cannot be had. -/
  | source (failure : SourceFailure)
  /-- A setting of the search is wrong. -/
  | query (error : SettingError)
  /-- The settings or the sources in them cannot be taken for members. -/
  | settings (error : UpdateError)
  /-- The setting of the number of entries is no number. -/
  | limit
  /-- The dialogue cannot go on. -/
  | dialogue (error : TerminalError)
  | markup (error : MarkupError)
  | file (error : FileError)
  /-- The settings cannot be put in order because of a key of this kind. -/
  | order (kind : Text)
  /-- A question was not answered. -/
  | unanswered

namespace CommandError

/-- The wording of the errors. -/
def message : CommandError → Text
  | source f => f.message
  | query e => e.message
  | settings e => e.message
  | limit => SessionError.limitNotInteger.message
  | dialogue e => e.message
  | markup e => e.message
  | file e => e.message
  | order kind => "'<' not supported between instances of '" ++ kind ++ "' and 'str'"
  | unanswered => []

/-- Whether the program foresees an error. -/
def isForeseen : CommandError → Bool
  | source _ => true
  | query e => !e.isWrongKind
  | _ => false

/-- What is told of an error. -/
def report (e : CommandError) : Text :=
  (if e.isForeseen then "❌ " else "❌ Error: ") ++ e.message ++ "\n"

end CommandError

/-- What a command still waits for when its input is at an end. -/
inductive Waiting where
  | nothing
  /-- A line. -/
  | line
  /-- A line that the command writes out again. -/
  | answer
deriving DecidableEq, Inhabited

/-- What comes of a command. -/
structure CommandResult where
  exitCode : Nat
  output : Text
  errors : Text
  files : FileTree
  logs : List Log.Record
  waiting : Waiting := .nothing
deriving Inhabited

namespace CommandResult

/-- The number with which a program ends that the user has interrupted. -/
def interruptedCode : Nat := 130

/-- A command that comes to its end. -/
def done (files : FileTree) (logs : List Log.Record) (output : Text) (exitCode : Nat := 0) :
    CommandResult :=
  { exitCode, output, errors := [], files, logs }

/-- A command that fails, with what it has written before. -/
def failed (files : FileTree) (logs : List Log.Record) (e : CommandError) (output : Text := []) :
    CommandResult :=
  { exitCode := 1, output, errors := e.report, files, logs }

/-- A command that the user interrupts. -/
def interrupted (files : FileTree) (logs : List Log.Record) : CommandResult :=
  { exitCode := interruptedCode, output := [], errors := [], files, logs }

/-- A command that would go on with more input. -/
def waitingFor (result : CommandResult) (waiting : Waiting) : CommandResult :=
  { result with waiting }

/-- Puts records before those of a command. -/
def after (result : CommandResult) (logs : List Log.Record) : CommandResult :=
  { result with logs := logs ++ result.logs }

end CommandResult

/-- A line of output. -/
def outputLine (s : Text) : Text := s ++ ['\n']

end NativeFinder
