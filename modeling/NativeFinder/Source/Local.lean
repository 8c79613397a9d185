import NativeFinder.Log
import NativeFinder.Source.Failure

/-!
# Local sources

Files are read one after the other, as UTF-8 with line breaks in the one convention of the
library. The first file that cannot be read ends the load.
-/

namespace NativeFinder

namespace LocalSource

/-- The text of a file. -/
def read (files : FileTree) (path : Text) : Except SourceFailure Text :=
  match files.read path with
  | .error e => .error ⟨path, .file e⟩
  | .ok content =>
    match Utf8.decode content with
    | .error e => .error ⟨path, .encoding e⟩
    | .ok text => .ok text.normalizeNewlines

/-- The texts of several files in order. -/
def readAll (files : FileTree) (paths : List Text) : Except SourceFailure (List Text) :=
  paths.mapM (read files)

/-- The record of a load. -/
def readRecord (texts : List Text) : Log.Record :=
  Log.debug ("Read " ++ Text.ofNat texts.length ++ " local documentation files")

end LocalSource

end NativeFinder
