import NativeFinder.File.Tree
import NativeFinder.Json.Reader
import NativeFinder.Json.Writer
import NativeFinder.Log
import NativeFinder.Yaml.Reader
import NativeFinder.Yaml.Writer

/-!
# Settings files

Settings are kept in a file in one of two formats, which the suffix of its name tells apart.
`ConfigFile.read` gives the value in a file, which need not be a table; in YAML, a value that
counts as nothing is an empty table. How YAML is read is left open: any `YamlReader` will do,
and `Yaml.parse` is one. `ConfigFile.save` writes a value, and makes the folders that are
missing.
-/

namespace NativeFinder

/-- A way to read YAML. -/
abbrev YamlReader := Text → Except ReadError Value

namespace Value

/-- A value as that of a document in YAML: what counts as nothing is an empty table, and in a table
the last one of the members with the same key counts. -/
def ofDocument (v : Value) : Value :=
  if v.isFalsy then .table []
  else match v with
    | .table members => .table (Table.ofMembers members)
    | v => v

end Value

/-- The format of a settings file. -/
inductive ConfigFormat where
  | json
  | yaml
deriving DecidableEq, Inhabited

namespace ConfigFormat

/-- The name of a format in messages. -/
def name : ConfigFormat → Text
  | json => "JSON"
  | yaml => "YAML"

/-- The format of files with a suffix. -/
def ofSuffix? (suffix : Text) : Option ConfigFormat :=
  if suffix = (".json" : Text) then some json
  else if suffix = (".yaml" : Text) || suffix = (".yml" : Text) then some yaml
  else none

/-- The format to write for a request by name; whatever is not known is written as JSON. -/
def ofName (name : Text) : ConfigFormat := if name = ("yaml" : Text) then yaml else json

/-- Reads a value in a format. -/
def parse (readYaml : YamlReader) : ConfigFormat → Text → Except ReadError Value
  | json, s => Json.parse s
  | yaml, s => (readYaml s).map Value.ofDocument

/-- What there is no form for in a format. -/
def unwritable? : ConfigFormat → Value → Option Json.WriteError
  | json, v => Json.foreign? v
  | yaml, _ => none

/-- Writes a value in a format. -/
def render : ConfigFormat → Value → Text
  | json, v => Json.render v
  | yaml, v => Yaml.render v

end ConfigFormat

/-- Why a settings file gives no value. -/
inductive ConfigFileError where
  | missing (path : FilePath)
  | unsupported (suffix : Text)
  | unreadable (path : FilePath) (error : FileError)
  | undecodable (error : Utf8.DecodeError)
  | malformed (format : ConfigFormat)
  | numeral (error : Numeral.IntError)
  | value (message : Text)
deriving DecidableEq

namespace ConfigFileError

/-- The wording of the errors. -/
def message : ConfigFileError → Text
  | missing path => "Configuration file not found: " ++ path.toText
  | unsupported suffix => "Unsupported config file format: " ++ suffix
  | unreadable path e => "Error reading config file " ++ path.toText ++ ": " ++ e.message
  | undecodable e => e.message
  | malformed format => "Invalid " ++ format.name ++ " in config file"
  | numeral e => e.message
  | value message => message

end ConfigFileError

namespace ConfigFile

/-- The value in a file. -/
def read (readYaml : YamlReader) (files : FileTree) (path : FilePath) :
    Except ConfigFileError Value := do
  if !files.contains path.toText then .error (.missing path)
  else match ConfigFormat.ofSuffix? path.suffix with
    | none => .error (.unsupported path.suffix)
    | some format => do
      let content ← (files.read path.toText).mapError (.unreadable path)
      let text ← (Utf8.decode content).mapError .undecodable
      (format.parse readYaml text.normalizeNewlines).mapError fun e => match e with
        | .malformed => .malformed format
        | .numeral e => .numeral e
        | .value message => .value message

/-- What comes of saving. -/
structure Saved where
  files : FileTree
  logs : List Log.Record
  succeeded : Bool
  /-- Why the value cannot be written in the format, if it cannot. -/
  error : Option Json.WriteError := none
deriving Inhabited

/-- Writes a value to a file. Folders that have been made stay even if the file cannot be
written. -/
def save (files : FileTree) (path : FilePath) (format : ConfigFormat) (value : Value) : Saved :=
  match files.makeFolders path.parent, format.unwritable? value with
  | .error e, _ => failed files e
  | .ok files, some e => { files, logs := [], succeeded := false, error := some e }
  | .ok files, none =>
    match files.write path.toText (Utf8.encode (format.render value)) with
    | .error e => failed files e
    | .ok files =>
      { files, logs := [Log.info ("Configuration saved to " ++ path.toText)], succeeded := true }
where
  /-- Saving has failed. -/
  failed (files : FileTree) (e : FileError) : Saved :=
    { files, logs := [Log.error ("Error saving config file: " ++ e.message)], succeeded := false }

end ConfigFile

end NativeFinder
