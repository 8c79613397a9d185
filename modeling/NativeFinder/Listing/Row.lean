import NativeFinder.Entry

/-!
# Rows of a list

A list shows one row for each entry, or a single **placeholder**: a row that informs about
the state of the list and that cannot be selected.
-/

namespace NativeFinder

/-- A row of a list. -/
structure Row where
  label : Text
  description : Text
  detail : Text
  placeholder : Bool
deriving DecidableEq, Inhabited

namespace Row

/-- The row of an entry. -/
def ofEntry (e : Entry) : Row :=
  { label := e.name, description := e.signature, detail := e.summary, placeholder := false }

/-- A placeholder with a label and a description. -/
def notice (label description : Text) : Row :=
  { label, description, detail := [], placeholder := true }

/-- Stands for a list that is still loading. -/
def loading : Row := notice "Loading API documentation..." []

/-- Stands for a list without entries. -/
def noEntries : Row :=
  notice "No functions found" "The documentation was fetched but contained no documented natives"

/-- Stands for a query without matches. -/
def noMatches : Row := notice "No matching functions found" []

/-- Stands for a list that could not be loaded. -/
def loadFailed (message : Text) : Row := notice "Failed to fetch API documentation" message

end Row

end NativeFinder
