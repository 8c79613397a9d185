import NativeFinder.CommandLine.Arguments
import NativeFinder.File.Path
import NativeFinder.Number.Numeral

/-!
# Requests on the command line

The words of a command line ask for a command, or for help or the version. They are read in
two steps. The first one reads the options that are common to all commands and the name of
the command, the second one the words that are for the command itself: some things happen in
between, whether or not the second step succeeds.
-/

namespace NativeFinder

/-- The commands. -/
inductive Command where
  /-- Searches in a dialogue. -/
  | search (files : List FilePath)
  /-- Lists entries, or the matches of a query. -/
  | list (query : Option Text) (limit : Option Int) (output : Text) (files : List FilePath)
  /-- Shows an entry, or writes a page about it. -/
  | detail (name : Text) (page : Option FilePath) (files : List FilePath)
  /-- Shows the settings. -/
  | showSettings
  /-- Makes a settings file. -/
  | initSettings (path : Option FilePath)
deriving DecidableEq, Inhabited

/-- Why help is shown instead of carrying a command out. -/
inductive HelpReason where
  | nothingAsked
  | helpAsked
  | misused
deriving DecidableEq, Inhabited

namespace HelpReason

/-- The number with which the program ends. -/
def exitCode : HelpReason → Nat
  | helpAsked => 0
  | nothingAsked | misused => 2

/-- Whether the help is an answer, and not told as an error. -/
def isOutput : HelpReason → Bool
  | misused => false
  | nothingAsked | helpAsked => true

end HelpReason

/-- What a command line asks for, as far as it does not depend on the command. -/
inductive Request where
  | version
  | help (reason : HelpReason)
  | command (verbose : Bool) (name : Text) (words : List Text)
deriving DecidableEq, Inhabited

namespace Request

/-! ### Common options -/

/-- The option for the version. -/
def versionOption : OptionShape := ⟨"version", "--version", some 'v', false⟩

/-- The option to report more. -/
def verboseOption : OptionShape := ⟨"verbose", "--verbose", none, false⟩

/-- The option for help. -/
def helpOption : OptionShape := ⟨"help", "--help", none, false⟩

/-- The options before the name of the command. -/
def commonOptions : List OptionShape := [versionOption, verboseOption, helpOption]

/-- The names of the commands. -/
def commandNames : List Text :=
  ["search", "list-functions", "detail", "config-show", "config-init"]

/-- What is asked for before anything else, if it is: the first option for help or the version
decides. -/
def urgent? (arguments : Arguments) : Option Request :=
  arguments.options.findSome? fun option =>
    if option.1 = versionOption.name then some .version
    else if option.1 = helpOption.name then some (.help .helpAsked)
    else none

/-- Reads the first part of a command line. -/
def ofWords (words : List Text) : Request :=
  if words.isEmpty then .help .nothingAsked
  else
    match Arguments.read? commonOptions false words with
    | none => .help .misused
    | some arguments =>
      match urgent? arguments, arguments.positional with
      | some request, _ => request
      | none, [] => .help .misused
      | none, name :: rest =>
        if commandNames.contains name then
          .command (arguments.has verboseOption.name) name rest
        else .help .misused

end Request

namespace Command

/-! ### Options of the commands -/

/-- The option for a file to read. -/
def fileOption : OptionShape := ⟨"file", "--file", some 'f', true⟩

/-- The option for the number of entries. -/
def limitOption : OptionShape := ⟨"limit", "--limit", some 'l', true⟩

/-- The option for the form of a listing. -/
def outputOption : OptionShape := ⟨"output", "--output", some 'o', true⟩

/-- The option for a page to write. -/
def pageOption : OptionShape := ⟨"html", "--html", none, true⟩

/-- The option for a settings file. -/
def pathOption : OptionShape := ⟨"path", "--path", some 'p', true⟩

/-- The form of a listing unless another one is asked for. -/
def defaultOutput : Text := "table"

/-- The files that are named. -/
def filesOf (arguments : Arguments) : List FilePath :=
  (arguments.values fileOption.name).map FilePath.ofText

/-- The limit that is given; `none` for a value that is no integer. -/
def limitOf? (arguments : Arguments) : Option (Option Int) :=
  match arguments.value? limitOption.name with
  | none => some none
  | some s =>
    match Numeral.parseInt s with
    | .ok n => some (some n)
    | .error _ => none

/-- The path of a settings file; an empty one is none. -/
def settingsPathOf (arguments : Arguments) : Option FilePath :=
  match arguments.value? pathOption.name with
  | some (c :: s) => some (FilePath.ofText (c :: s))
  | _ => none

/-- The options of a command. -/
def optionsOf (name : Text) : List OptionShape :=
  Request.helpOption ::
    if name = ("search" : Text) then [fileOption]
    else if name = ("list-functions" : Text) then [limitOption, outputOption, fileOption]
    else if name = ("detail" : Text) then [pageOption, fileOption]
    else if name = ("config-init" : Text) then [pathOption]
    else []

/-- The command that arguments ask for. -/
def ofArguments? (name : Text) (arguments : Arguments) : Option Command :=
  if name = ("list-functions" : Text) then do
    let limit ← limitOf? arguments
    let output := (arguments.value? outputOption.name).getD defaultOutput
    match arguments.positional with
    | [] => some (.list none limit output (filesOf arguments))
    | [query] => some (.list (some query) limit output (filesOf arguments))
    | _ => none
  else if name = ("detail" : Text) then
    match arguments.positional with
    | [entry] =>
      some (.detail entry ((arguments.value? pageOption.name).map FilePath.ofText)
        (filesOf arguments))
    | _ => none
  else if !arguments.positional.isEmpty then none
  else if name = ("search" : Text) then some (.search (filesOf arguments))
  else if name = ("config-show" : Text) then some .showSettings
  else if name = ("config-init" : Text) then some (.initSettings (settingsPathOf arguments))
  else none

/-- The paths that a command may read or write. -/
def paths : Command → List FilePath
  | .search files | .list _ _ _ files => files
  | .detail _ page files => page.toList ++ files
  | .showSettings => []
  | .initSettings path => path.toList

/-- Reads the words for a command; help is shown where it is asked for or where they cannot be
read. -/
def ofWords (name : Text) (words : List Text) : Except HelpReason Command :=
  match Arguments.read? (optionsOf name) true words with
  | none => .error .misused
  | some arguments =>
    if arguments.has Request.helpOption.name then .error .helpAsked
    else match ofArguments? name arguments with
      | none => .error .misused
      | some command => .ok command

end Command

end NativeFinder
