import NativeFinder.Config.Settings
import NativeFinder.Session.Surface
import NativeFinder.Source.Local
import NativeFinder.Source.WebLoad

/-!
# Loaders

The documentation is read from the files that the user names, or else from the addresses in
the settings. The addresses may be any value that is a sequence.
-/

namespace NativeFinder

/-- Where the documentation comes from. -/
inductive Loader where
  | files (paths : List Text)
  | web (addresses : List Value)
deriving Inhabited

namespace Loader

/-- The loader for the files that a user names, or for the settings if there are none. -/
def ofSettings (settings : Table) (paths : List FilePath) : Except UpdateError Loader :=
  match paths with
  | [] =>
    let sources := Settings.get settings Settings.sourcesKey
    match sources.items? with
    | some addresses => .ok (.web addresses)
    | none => .error (.notSequence sources.kindName)
  | paths => .ok (.files (paths.map FilePath.toText))

/-- Loads the documentation, and gives the records of it. -/
def load (files : FileTree) (web : Web) : Loader → Load × List Log.Record
  | .files paths =>
    match LocalSource.readAll files paths with
    | .ok texts => (.texts texts, [LocalSource.readRecord texts])
    | .error f => (.failed f, [])
  | .web addresses =>
    let load := WebLoad.run web (some WebLoad.redirectionLimit) addresses
    (load.result, load.logs)

end Loader

namespace Load

/-- What a session learns of a load; an interruption is not for it to know. -/
def outcome? : Load → Option LoadOutcome
  | .texts bodies => some (.texts bodies)
  | .failed f => some (.unavailable f.message)
  | .interrupted => none

end Load

end NativeFinder
