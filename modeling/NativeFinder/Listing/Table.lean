import NativeFinder.Listing.Row
import NativeFinder.Markup.Styled

/-!
# Tables of rows

A list is shown as a table with four columns: a number, the name, the signature and the
summary. Entries are numbered from one; a placeholder has no number and no summary.
-/

namespace NativeFinder

/-- The columns of the table. -/
inductive Column where
  | number | name | signature | summary
deriving DecidableEq, Inhabited

namespace Column

/-- The columns from left to right. -/
def all : List Column := [number, name, signature, summary]

/-- The heading of a column. -/
def header : Column → Text
  | number => "#"
  | name => "Name"
  | signature => "Signature"
  | summary => "Summary"

/-- The style of the texts in a column. -/
def style : Column → Text
  | number => "dim"
  | name => "cyan"
  | signature => "green"
  | summary => "white"

/-- Whether the texts of a column stand at its right edge. -/
def isRightAligned (c : Column) : Bool := c == number

/-- The width of the texts of a column, where it is fixed. -/
def fixedWidth : Column → Option Nat
  | number => some 4
  | _ => none

/-- Whether the texts of a column are wrapped; names are only cut. -/
def isWrapped (c : Column) : Bool := c != name

end Column

/-- A cell: a bare text, or a styled one. -/
inductive Cell where
  | bare (text : Text)
  | styled (text : Styled)
deriving DecidableEq, Inhabited

namespace Cell

/-- The text that a cell shows. -/
def plain : Cell → Text
  | bare s => s
  | styled t => t.plain

end Cell

/-- A line of the table: its cells in the order of the columns. -/
structure TableRow where
  number : Cell
  name : Cell
  signature : Cell
  summary : Cell
deriving DecidableEq, Inhabited

namespace TableRow

/-- The cell of a column. -/
def cell (r : TableRow) : Column → Cell
  | .number => r.number
  | .name => r.name
  | .signature => r.signature
  | .summary => r.summary

/-- The line of a placeholder. -/
def ofPlaceholder (r : Row) : TableRow :=
  { number := .bare [], name := .styled (Styled.ofText r.label "yellow")
    signature := .styled (Styled.ofText r.description), summary := .bare [] }

/-- The line of an entry with its number. -/
def ofNumbered (n : Nat) (r : Row) : TableRow :=
  { number := .bare (Text.ofNat n), name := .styled (Styled.ofText r.label)
    signature := .styled (Styled.ofText r.description)
    summary := .styled (Styled.ofText r.detail) }

end TableRow

/-- A table with its title. -/
structure RowTable where
  title : Text
  rows : List TableRow
deriving DecidableEq, Inhabited

namespace RowTable

/-- The title of the tables of the program. -/
def defaultTitle : Text := "JASS API"

/-- The lines of rows, numbered after `n`; placeholders are passed over in counting. -/
def numbered : Nat → List Row → List TableRow
  | _, [] => []
  | n, r :: rest =>
    if r.placeholder then TableRow.ofPlaceholder r :: numbered n rest
    else TableRow.ofNumbered (n + 1) r :: numbered (n + 1) rest

/-- The table of some rows. -/
def ofRows (rows : List Row) (title : Text := defaultTitle) : RowTable :=
  { title, rows := numbered 0 rows }

end RowTable

end NativeFinder
