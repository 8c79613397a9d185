import NativeFinder.CommandLine.Dialogue

/-!
# The program

The program reads its command line, finds out from the settings whether to report more, and
carries the command out. The settings are loaded twice, for the choice to report more and for
the command, so that a warning about them comes twice; but if the command line already makes
that choice, they are loaded only for the command.

Settings that cannot be put together end the command with an error. If that happens before
the command is read, the error escapes from the program.
-/

namespace NativeFinder

/-- How the program ends. -/
inductive ProgramEnd where
  /-- A command has been carried out, or the version has been shown. -/
  | result (result : CommandResult)
  /-- Help is shown instead. -/
  | help (reason : HelpReason) (logs : List Log.Record)
  /-- The settings cannot be put together. -/
  | escaped (error : UpdateError) (logs : List Log.Record)

namespace Program

/-- The lines that are written as help. -/
def helpLines : List Text :=
  ["Fuzzy search tool for the documented JASS API",
    "",
    "Usage: jass-search [--verbose] [--version] COMMAND [ARGUMENTS]",
    "",
    "Commands:",
    "  search          [-f FILE]...",
    "  list-functions  [QUERY] [-l LIMIT] [-o table|json] [-f FILE]...",
    "  detail          NAME [--html PAGE] [-f FILE]...",
    "  config-show",
    "  config-init     [-p FILE]"]

/-- What is written as help. -/
def helpText : Text := helpLines.flatMap outputLine

/-- The paths that the program may read or write. -/
def paths (home : FilePath) (words : List Text) : List FilePath :=
  Settings.locations home ++
    match Request.ofWords words with
    | .command _ name rest =>
      match Command.ofWords name rest with
      | .ok command => command.paths
      | .error _ => []
    | _ => []

/-- What is written about the version. -/
def versionText : Text := "jass-search version 0.1.0\n"

/-- Carries out a command with the settings. -/
def obey (world : World) (settings : Table) : Command → CommandResult
  | .search paths => CommandLine.search world settings paths
  | .list query limit output paths =>
    CommandLine.list world settings query limit output paths
  | .detail name page paths => CommandLine.detail world settings name page paths
  | .showSettings => CommandLine.showSettings world settings
  | .initSettings path => CommandLine.initSettings world path

/-- Whether a command needs the settings. -/
def needsSettings : Command → Bool
  | .initSettings _ => false
  | _ => true

/-- Carries out a command with the settings that it finds. -/
def carryOut (world : World) (command : Command) : CommandResult :=
  if needsSettings command then
    let layered := Settings.load world.toSurroundings .null
    match layered.error with
    | some e => .failed world.files layered.logs (.settings e)
    | none => (obey world layered.settings command).after layered.logs
  else obey world [] command

/-- Carries out the words for a command, once it is known how much to report. -/
def runCommand (world : World) (level : Log.Level) (before : List Log.Record) (name : Text)
    (words : List Text) : ProgramEnd :=
  match Command.ofWords name words with
  | .error reason => .help reason before
  | .ok command =>
    let result := carryOut world command
    .result { result with logs := before ++ Log.atLeast level result.logs }

/-- Runs the program. -/
def run (world : World) (words : List Text) : ProgramEnd :=
  match Request.ofWords words with
  | .version => .result (.done world.files [] versionText)
  | .help reason => .help reason []
  | .command true name rest => runCommand world .debug [] name rest
  | .command false name rest =>
    let layered := Settings.load world.toSurroundings .null
    let before := Log.atLeast .warning layered.logs
    match layered.error with
    | some e => .escaped e before
    | none =>
      let level : Log.Level :=
        if (Settings.get layered.settings Settings.verboseKey).isFalsy then .warning else .debug
      runCommand world level before name rest

end Program

end NativeFinder
