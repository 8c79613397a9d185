import NativeFinder.Json.Writer
import NativeFinder.Search.Index

/-!
# Listings as JSON

Entries and matches are listed as JSON arrays of objects with one member for each field. The
score of a match is rounded to four places.
-/

namespace NativeFinder

/-- A table whose keys and texts are given. -/
def textTable (members : List (Text × Value)) : Value :=
  .table (members.map fun (key, value) => (.text key, value))

namespace Entry

/-- The object of an entry. -/
def toValue (e : Entry) : Value :=
  textTable [("name", .text e.name), ("signature", .text e.signature),
    ("parameters", .text e.parameters), ("return_type", .text e.returnType),
    ("description", .text e.description)]

/-- The JSON text of a listing of entries. -/
def listingJson (entries : List Entry) : Text := Json.render (.list (entries.map toValue))

end Entry

namespace Match

/-- The score of a match as it is listed: rounded to four places. -/
def listedScore (m : Match) : Binary64 := Binary64.ofRat (roundPlaces 4 m.score)

/-- The object of a match. -/
def toValue (m : Match) : Value :=
  textTable [("name", .text m.entry.name), ("signature", .text m.entry.signature),
    ("score", .float m.listedScore), ("matched_key", .text m.field.key),
    ("description", .text m.entry.description)]

/-- The JSON text of a listing of matches. -/
def listingJson (found : List Match) : Text := Json.render (.list (found.map toValue))

end Match

end NativeFinder
