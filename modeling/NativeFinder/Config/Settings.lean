import NativeFinder.Config.File
import NativeFinder.Config.Update

/-!
# Settings

The settings come in layers: the defaults, the settings file, the variables of the
environment, and what the caller overrides. Each layer replaces what the ones below it say,
key by key, and leaves the rest.

A file that gives no value is passed over with a warning, and so is a variable that is no
number. `Settings.load` fails only if the value in the file, or the one that overrides, cannot
be taken for members at all.
-/

namespace NativeFinder

/-- What a program finds around it. -/
structure Surroundings where
  files : FileTree
  /-- The folder of the user. -/
  home : FilePath
  /-- The variables that are set. -/
  environment : List (Text × Text)
  /-- The way to read YAML. -/
  readYaml : YamlReader := Yaml.parse
deriving Inhabited

namespace Settings

/-! ### Defaults -/

/-- The addresses of the documentation. -/
def defaultSources : List Text :=
  ["https://raw.githubusercontent.com/lep/jassdoc/master/Blizzard.j",
    "https://raw.githubusercontent.com/lep/jassdoc/master/common.j",
    "https://raw.githubusercontent.com/lep/jassdoc/master/common.ai"]

/-- The key of the addresses. -/
def sourcesKey : Text := "sources"

/-- The key of the number of rows that are shown. -/
def displayLimitKey : Text := "display_limit"

/-- The key of the distance that a match may have. -/
def thresholdKey : Text := "threshold"

/-- The key of the shortest query that is searched for. -/
def minMatchLengthKey : Text := "min_match_length"

/-- The key of the seconds a transfer may take. -/
def timeoutKey : Text := "timeout"

/-- The key of the choice to report more. -/
def verboseKey : Text := "verbose"

/-- The settings of a user who has not chosen any. -/
def defaults : Table :=
  [(.text sourcesKey, .list (defaultSources.map .text)),
    (.text displayLimitKey, .int 200),
    (.text thresholdKey, .float (.ofRat (3 / 10))),
    (.text minMatchLengthKey, .int 2),
    (.text timeoutKey, .float (.ofRat 30)),
    (.text verboseKey, .bool false)]

/-- The value of a setting. -/
def get (settings : Table) (key : Text) : Value := (settings.get? (.text key)).getD .null

/-! ### The file -/

/-- The folder of settings files in another folder. -/
def folderName : Text := ".jasssearch"

/-- The settings file of the user. -/
def homeFile (home : FilePath) (name : Text) : FilePath :=
  { home with parts := home.parts ++ [folderName, name] }

/-- The places where a settings file is looked for, in order. -/
def locations (home : FilePath) : List FilePath :=
  [homeFile home "config.yaml", homeFile home "config.json",
    ⟨false, [folderName, "config.yaml"]⟩, ⟨false, [folderName, "config.json"]⟩,
    ⟨false, ["jasssearch.yaml"]⟩, ⟨false, ["jasssearch.json"]⟩]

/-- The first place where something is. -/
def findFile? (around : Surroundings) : Option FilePath :=
  (locations around.home).find? fun path => around.files.contains path.toText

/-- Settings that are put together, with the records of it. -/
structure Layered where
  settings : Table
  logs : List Log.Record
  error : Option UpdateError := none
deriving Inhabited

/-- The warning about a file that is passed over. -/
def fileWarning (message : Text) : Log.Record :=
  Log.warning ("Could not load config file: " ++ message)

/-- Lays the value in a file over settings. -/
def layFile (around : Surroundings) (path : FilePath) (settings : Table) : Layered :=
  match ConfigFile.read around.readYaml around.files path with
  | .error e => { settings, logs := [fileWarning e.message] }
  | .ok value =>
    match settings.update value with
    | (settings, none) =>
      { settings, logs := [Log.debug ("Loaded config from " ++ path.toText)] }
    | (settings, some e) =>
      if e.isWrongKind then { settings, logs := [], error := some e }
      else { settings, logs := [fileWarning e.message] }

/-! ### The environment -/

/-- The value of a variable. -/
def lookup? (around : Surroundings) (name : Text) : Option Text :=
  around.environment.lookup name

/-- The addresses in a list with commas. -/
def sourcesOf (s : Text) : Value :=
  .list (((s.splitOn ',').map Text.trim).filter (fun s => !s.isEmpty) |>.map .text)

/-- The words for a choice that is made. -/
def choiceWords : List Text := ["true", "1", "yes"]

/-- Reads an integer. -/
def intOf? (s : Text) : Option Value :=
  match Numeral.parseInt s with
  | .ok n => some (.int n)
  | .error _ => none

/-- Reads a number of double precision. -/
def floatOf? (s : Text) : Option Value := (Numeral.parseFloat? s).map .float

/-- The variables with the settings that they replace, in the order in which they are read. A
variable that cannot be read is passed over. -/
def layeredVariables : List (Text × Text × (Text → Option Value)) :=
  [("JASSSEARCH_SOURCES", sourcesKey, fun s => some (sourcesOf s)),
    ("JASSSEARCH_LIMIT", displayLimitKey, intOf?),
    ("JASSSEARCH_THRESHOLD", thresholdKey, floatOf?),
    ("JASSSEARCH_TIMEOUT", timeoutKey, floatOf?),
    ("JASSSEARCH_VERBOSE", verboseKey, fun s => some (.bool (choiceWords.contains s.lowerAscii)))]

/-- Lays the environment over settings, variable by variable. -/
def layEnvironment (around : Surroundings) (settings : Table) : Layered :=
  layeredVariables.foldl (fun done (name, key, read) =>
    match lookup? around name with
    | none => done
    | some s =>
      match read s with
      | some value => { done with settings := done.settings.put (.text key) value }
      | none =>
        { done with
          logs := done.logs ++ [Log.warning ("Invalid " ++ name ++ " environment variable")] })
    { settings, logs := [] }

/-! ### All layers -/

/-- Puts another layer on top, unless a layer below has failed. -/
def Layered.andThen (below : Layered) (layer : Table → Layered) : Layered :=
  match below.error with
  | some _ => below
  | none =>
    let above := layer below.settings
    { above with logs := below.logs ++ above.logs }

/-- Lays the settings file over settings, if there is one. -/
def layFound (around : Surroundings) (settings : Table) : Layered :=
  match findFile? around with
  | none => { settings, logs := [] }
  | some path =>
    let layered := layFile around path settings
    { layered with
      logs := Log.debug ("Found config file at " ++ path.toText) :: layered.logs }

/-- Lays what the caller overrides over settings. A value that counts as nothing overrides
nothing. -/
def layOverride (override : Value) (settings : Table) : Layered :=
  if override.isFalsy then { settings, logs := [] }
  else
    let (settings, error) := settings.update override
    { settings, logs := [], error }

/-- The settings of all layers. -/
def load (around : Surroundings) (override : Value) : Layered :=
  ((layFound around defaults).andThen (layEnvironment around)).andThen (layOverride override)

/-- Saves the defaults to a file, in the format that its suffix asks for. -/
def init (files : FileTree) (path : FilePath) : ConfigFile.Saved :=
  let format := (ConfigFormat.ofSuffix? path.suffix).getD .json
  ConfigFile.save files path format (.table defaults)

end Settings

end NativeFinder
