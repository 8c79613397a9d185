import NativeFinder.CommandLine.Listing

/-!
# Commands that ask

The search reads queries and commands from the input until it is over. What its session shows
is drawn for the console, and before every line that is read stands the prompt. The command
that makes a settings file asks before it replaces a file, and asks again until the answer is
one.
-/

namespace NativeFinder

namespace CommandLine

/-! ### The search -/

/-- The prompt of the search. -/
def prompt : Text := "Search API: "

/-- What an event of the session leaves on the console. The notice that the session is busy
leaves nothing. -/
def draw : ScreenEvent → Except MarkupError Text
  | .busyShown | .busyHidden => .ok []
  | .table t => .ok ((t.layout consoleWidth).flatMap fun line => outputLine line.plain)
  | .panel p => .ok (p.layout consoleWidth)
  | .markup s =>
    (Styled.ofMarkup s).map fun t => (Text.flow consoleWidth t.plain).flatMap outputLine

/-- What a run of the prompt leaves on the console. -/
def transcript (run : Terminal.Run Text) : Text :=
  (run.rounds.flatMap fun round => round.shown.flatten ++ prompt) ++ run.last.shown.flatten

/-- The settings of a session. -/
def sessionSettings (settings : Table) : SessionSettings :=
  { displayLimit := Settings.get settings Settings.displayLimitKey
    threshold := Settings.get settings Settings.thresholdKey
    minMatchLength := Settings.get settings Settings.minMatchLengthKey }

/-- Runs a session whose load has ended on the terminal. -/
def runSession (world : World) (settings : Table) (outcome : LoadOutcome)
    (loadLogs : List Log.Record) : CommandResult :=
  let session := Session.fresh (sessionSettings settings) .console
  let before : Terminal := { session, surface := .fresh }
  let start := before.ofSessionStep (session.start outcome)
  let logs := loadLogs ++ start.logs
  match start.shown draw with
  | (_, some e) => .failed world.files logs (.dialogue e)
  | (round, none) =>
    let run := Terminal.run draw round (world.lines.map .line)
    let logs := logs ++ run.logs
    match run.error with
    | some e => .failed world.files logs (.dialogue e) (transcript run)
    | none =>
      let waiting : Waiting :=
        if world.lines.length < run.rounds.length then .line else .nothing
      (CommandResult.done world.files logs (transcript run)).waitingFor waiting

/-- Searches in a dialogue. -/
def search (world : World) (settings : Table) (paths : List FilePath) : CommandResult :=
  let started := [Log.debug ("Starting search session #" ++ Text.ofNat 1)]
  match Loader.ofSettings settings paths with
  | .error e => .failed world.files started (.settings e)
  | .ok loader =>
    let (load, loadLogs) := loader.load world.files world.web
    match load.outcome? with
    | none => .interrupted world.files (started ++ loadLogs)
    | some outcome => (runSession world settings outcome loadLogs).after started

/-! ### Making a settings file -/

/-- The question before a file is replaced. -/
def question (path : FilePath) : Text :=
  "File " ++ path.toText ++ " already exists. Overwrite? [y/N]: "

/-- The answer that a line gives; an empty line is a no. -/
def answer? (line : Text) : Option Bool :=
  let word := line.trim.lowerAscii
  if word = ['y'] || word = ("yes" : Text) then some true
  else if word = ['n'] || word = ("no" : Text) || word.isEmpty then some false
  else none

/-- Asks until a line gives an answer. Gives what has been written, with the lines as they were
typed, and the answer, if there was one. -/
def ask (question : Text) : List Text → Text × Option Bool
  | [] => (question, none)
  | line :: lines =>
    match answer? line with
    | some answer => (question ++ outputLine line, some answer)
    | none =>
      let (output, answer) := ask question lines
      (question ++ outputLine line ++ "Error: invalid input\n" ++ output, answer)

/-- The line about a default. -/
def defaultText (member : Key × Value) : Text :=
  "   " ++ member.1.toText ++ ": " ++ outputLine member.2.toText

/-- What is written about a settings file that has been made. -/
def initializedText (path : FilePath) : Text :=
  "✅ Configuration initialized at " ++ outputLine path.toText ++ "📝 Default settings:\n" ++
    Settings.defaults.flatMap defaultText

/-- Makes a settings file, with what has been written before. -/
def makeSettings (world : World) (path : FilePath) (output : Text) : CommandResult :=
  let saved := Settings.init world.files path
  if saved.succeeded then .done saved.files saved.logs (output ++ initializedText path)
  else .done saved.files saved.logs (output ++ "❌ Failed to initialize configuration\n") 1

/-- Makes a settings file; one that is there is replaced only if the user wants it. -/
def initSettings (world : World) (path : Option FilePath) : CommandResult :=
  let path := path.getD (Settings.homeFile world.home "config.json")
  if !world.files.contains path.toText then makeSettings world path []
  else match ask (question path) world.lines with
    | (output, none) =>
      (CommandResult.failed world.files [] .unanswered output).waitingFor .answer
    | (output, some true) => makeSettings world path output
    | (output, some false) => .done world.files [] (output ++ "❌ Cancelled\n") 1

/-! ### Showing the settings -/

/-- A line across the console. -/
def rule : Text := List.replicate 60 '─'

/-- A text filled with spaces to a number of characters. -/
def padEnd (width : Nat) (s : Text) : Text := s ++ Text.spaces (width - s.length)

/-- The line about an item of a setting that is a list. -/
def itemText (item : Value) : Text := Text.spaces 20 ++ "   - " ++ outputLine item.toText

/-- The lines about a setting. -/
def settingText (key : Text) : Value → Text
  | .list items => padEnd 20 key ++ " :\n" ++ items.flatMap itemText
  | value => padEnd 20 key ++ " : " ++ outputLine value.toText

/-- The settings in the order of their keys, all of which have to be texts. -/
def sortedSettings (settings : Table) : Except CommandError (List (Text × Value)) := do
  let members ← settings.mapM fun member => match member.1 with
    | .text key => Except.ok (key, member.2)
    | key => .error (.order key.kindName)
  .ok (members.mergeSort fun a b => a.1.le b.1)

/-- Shows the settings. -/
def showSettings (world : World) (settings : Table) : CommandResult :=
  let heading : Text := "\n⚙️  Current Configuration\n" ++ outputLine rule
  match sortedSettings settings with
  | .error e => .failed world.files [] e heading
  | .ok members =>
    let lines : Text := members.flatMap fun member => settingText member.1 member.2
    .done world.files [] (heading ++ lines ++ rule ++ "\n\n")

end CommandLine

end NativeFinder
