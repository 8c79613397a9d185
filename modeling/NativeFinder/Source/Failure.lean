import NativeFinder.File.Tree

/-!
# Failing sources

Documentation comes from files and from addresses on the web. A source that cannot be had
gives a `SourceFailure`, which knows the source and the fault. One failing source is enough to
give up the whole load.
-/

namespace NativeFinder

/-- How a transfer breaks off. -/
inductive TransferFault where
  | connect
  | timeout
  | read
  | redirects
deriving DecidableEq, Inhabited

/-- Why a source cannot be had. -/
inductive SourceFault where
  /-- The file cannot be read. -/
  | file (error : FileError)
  /-- The file is no text. -/
  | encoding (error : Utf8.DecodeError)
  /-- The answer is not the document. -/
  | status (code : Nat)
  /-- There is no answer. -/
  | transfer (fault : TransferFault) (message : Text)
  /-- Something else went wrong; the label says of what kind it was. -/
  | unexpected (label message : Text)
deriving DecidableEq, Inhabited

/-- A source with the reason why it cannot be had. -/
structure SourceFailure where
  source : Text
  fault : SourceFault
deriving DecidableEq, Inhabited

namespace SourceFailure

/-- The source that a failure is reported with; what is unexpected is laid at no door. -/
def reportedSource? (f : SourceFailure) : Option Text :=
  match f.fault with
  | .unexpected _ _ => none
  | _ => some f.source

/-- The wording of the failures. -/
def message (f : SourceFailure) : Text :=
  match f.fault with
  | .file e => "Failed to read " ++ f.source ++ ": " ++ e.message
  | .encoding e => "Failed to read " ++ f.source ++ ": " ++ e.message
  | .status code => "Failed to fetch " ++ f.source ++ ": HTTP " ++ Text.ofNat code
  | .transfer _ message => "Failed to fetch " ++ f.source ++ ": " ++ message
  | .unexpected _ message => "Failed to fetch API documentation: " ++ message

end SourceFailure

end NativeFinder
