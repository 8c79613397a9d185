import NativeFinder.Detail.Rendering
import NativeFinder.Listing.Row

/-!
# Surfaces and loads

A session drives a **surface**, a list with a panel for details, by four calls: it shows or
hides that it is busy, replaces the rows, shows the details of an entry, and closes the
surface. A session is fed by a **load** of documentation, which settles with texts or with a
failure.
-/

namespace NativeFinder

/-- A call that a session makes on its surface. -/
inductive SurfaceCall where
  | setBusy (busy : Bool)
  | setRows (rows : List Row)
  | showDetail (detail : Detail)
  | close
deriving DecidableEq, Inhabited

/-- How a load settles. -/
inductive LoadOutcome where
  /-- The texts of all sources in order. -/
  | texts (texts : List Text)
  /-- A source could not be had. -/
  | unavailable (message : Text)
  /-- The load failed for another reason. -/
  | broken (message : Text)
deriving DecidableEq, Inhabited

end NativeFinder
