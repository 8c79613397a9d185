import NativeFinder.Layout.Coloured
import NativeFinder.Layout.Wrap
import NativeFinder.Listing.Table
import NativeFinder.Number.Binary64

/-!
# The layout of tables

A table is drawn in a frame. Every column is as wide as its widest line asks for, with a
space on either side, but not wider than the console; the number column always has six cells.
If the frame is too wide for the console, the signature and the summary give up cells: the
wider of the two first, until both are equally wide, then both. If that does not suffice,
every column gives up a share.

The cells of a row are wrapped to their columns and filled with blank lines to the height of
the row, the headings above and the other cells below.
-/

namespace NativeFinder

/-- One value for each column. -/
structure PerColumn (α : Type) where
  number : α
  name : α
  signature : α
  summary : α
deriving DecidableEq, Inhabited

namespace PerColumn

/-- The value of a column. -/
def get {α : Type} (p : PerColumn α) : Column → α
  | .number => p.number
  | .name => p.name
  | .signature => p.signature
  | .summary => p.summary

/-- The values given by a function on columns. -/
def ofFn {α : Type} (f : Column → α) : PerColumn α :=
  ⟨f .number, f .name, f .signature, f .summary⟩

/-- The sum over the columns. -/
def total (p : PerColumn Nat) : Nat := p.number + p.name + p.signature + p.summary

end PerColumn

namespace RowTable

/-! ### Widths -/

/-- The cells of the frame between and beside the columns. -/
def frameWidth : Nat := 5

/-- The width that a column asks for: its widest line, or its fixed width, and two spaces. -/
def naturalWidth (t : RowTable) (c : Column) : Nat :=
  2 + match c.fixedWidth with
    | some width => width
    | none =>
      t.rows.foldl (fun n r => max n (Text.widestLine (r.cell c).plain))
        (Text.widestLine c.header)

/-- The state of a distribution of cells to give up. -/
structure Shares where
  /-- The cells that are still to be given up. -/
  remaining : Nat
  /-- The columns that still have to give some up. -/
  givers : Nat

/-- Takes the share of one column off its width: an equal part of what remains, rounded, and
no more than `most`. A column that gives nothing up is passed over. -/
def takeShare (gives : Bool) (most width : Nat) (s : Shares) : Nat × Shares :=
  if gives && most != 0 && s.givers != 0 then
    let share := min most (roundHalfEven (mkRat s.remaining s.givers)).toNat
    (width - share, ⟨s.remaining - share, s.givers - 1⟩)
  else (width, s)

/-- Lets the columns for which `gives` holds give up `excess` cells, each at most `most`. -/
def giveUp (excess : Nat) (gives : Column → Bool) (most : Column → Nat)
    (widths : PerColumn Nat) : PerColumn Nat :=
  let givers := (Column.all.filter fun c => gives c && most c != 0).length
  let s : Shares := ⟨excess, givers⟩
  let (number, s) := takeShare (gives .number) (most .number) widths.number s
  let (name, s) := takeShare (gives .name) (most .name) widths.name s
  let (signature, s) := takeShare (gives .signature) (most .signature) widths.signature s
  let (summary, _) := takeShare (gives .summary) (most .summary) widths.summary s
  { number, name, signature, summary }

/-- Narrows the signature and the summary until the columns fit into `available` cells; `fuel`
bounds the number of steps. -/
def narrow (available : Nat) : Nat → PerColumn Nat → PerColumn Nat
  | 0, widths => widths
  | fuel + 1, widths =>
    let excess := widths.total - available
    let wider := max widths.signature widths.summary
    let other := if widths.signature = widths.summary then 0
      else min widths.signature widths.summary
    if excess = 0 || wider = other then widths
    else
      let gives (c : Column) : Bool :=
        (c == .signature || c == .summary) && widths.get c == wider
      narrow available fuel (giveUp excess gives (fun _ => min excess (wider - other)) widths)

/-- The width of a column within a limit. -/
def widthWithin (t : RowTable) (c : Column) (limit : Nat) : Nat := min limit (t.naturalWidth c)

/-- The widths of the columns on a console of the given width. -/
def widths (t : RowTable) (console : Nat) : PerColumn Nat :=
  let available := console - frameWidth
  let natural := PerColumn.ofFn fun c => t.widthWithin c available
  if natural.total ≤ available then natural
  else
    let narrowed := narrow available natural.total natural
    let excess := narrowed.total - available
    let last := if excess = 0 then narrowed
      else giveUp excess (fun _ => true) narrowed.get narrowed
    PerColumn.ofFn fun c => t.widthWithin c (last.get c)

/-! ### Cells -/

/-- The colour code of a style. -/
def colourCode (style : Text) : Text :=
  if style = ("dim" : Text) then "2"
  else if style = ("cyan" : Text) then "36"
  else if style = ("green" : Text) then "32"
  else if style = ("yellow" : Text) then "33"
  else "37"

/-- The colour code of the headings. -/
def headerCode : Text := "1;35"

/-- The lines of a text in a column of the given width, in colour: a space on either side. A
column without room for text is blank. -/
def cellLines (c : Column) (width : Nat) (code textCode text : Text) : List ColouredLine :=
  if width ≤ 2 then [[⟨some code, Text.spaces width⟩]]
  else
    let alignment := if c.isRightAligned then Text.Alignment.right else .left
    (Text.wrap c.isWrapped alignment .ellipsis (width - 2) text).map fun line =>
      [⟨some code, [' ']⟩, ⟨some textCode, line⟩, ⟨some code, [' ']⟩]

/-- The lines of a cell. -/
def bodyLines (c : Column) (width : Nat) (cell : Cell) : List ColouredLine :=
  let code := colourCode c.style
  match cell with
  | .bare s => cellLines c width code code s
  | .styled t =>
    cellLines c width code (if t.style.isEmpty then code else colourCode t.style) t.plain

/-- The lines of a heading. -/
def headerLines (c : Column) (width : Nat) : List ColouredLine :=
  cellLines c width headerCode headerCode c.header

/-- Fills the lines of a cell with blank ones up to a height, above or below. -/
def fillHeight (above : Bool) (height width : Nat) (code : Text) (lines : List ColouredLine) :
    List ColouredLine :=
  let blank := List.replicate (height - lines.length) [⟨some code, Text.spaces width⟩]
  if above then blank ++ lines else lines ++ blank

/-! ### Rows and frame -/

/-- A piece of the frame. -/
def border (s : Text) : ColouredPiece := ⟨none, s⟩

/-- A horizontal line of the frame. -/
def ruler (widths : PerColumn Nat) (left line cross right : Char) : ColouredLine :=
  let bar (n : Nat) : Text := List.replicate n line
  [border (left :: bar widths.number ++ cross :: bar widths.name ++
    cross :: bar widths.signature ++ cross :: bar widths.summary ++ [right])]

/-- The lines of a row: the cells side by side between the bars of the frame. -/
def rowLines (above : Bool) (bar : Char) (widths : PerColumn Nat) (code : Column → Text)
    (cells : PerColumn (List ColouredLine)) : List ColouredLine :=
  let height := Column.all.foldl (fun n c => max n (cells.get c).length) 0
  let filled := PerColumn.ofFn fun c =>
    fillHeight above height (widths.get c) (code c) (cells.get c)
  let line (k : Nat) : ColouredLine :=
    Column.all.foldl (fun line c => line ++ (filled.get c).getD k [] ++ [border [bar]])
      [border [bar]]
  (List.range height).map line

/-- The lines of the title, in the middle above the table. -/
def titleLines (t : RowTable) (width : Nat) : List ColouredLine :=
  (Text.wrap true .centre .fold width t.title).map fun line => [⟨some "3", line⟩]

/-- The lines of a table on a console of the given width. -/
def layout (t : RowTable) (console : Nat) : List ColouredLine :=
  let widths := t.widths console
  let header := rowLines true '┃' widths (fun _ => headerCode)
    (PerColumn.ofFn fun c => headerLines c (widths.get c))
  let body := t.rows.flatMap fun r =>
    rowLines false '│' widths (fun c => colourCode c.style)
      (PerColumn.ofFn fun c => bodyLines c (widths.get c) (r.cell c))
  t.titleLines (widths.total + frameWidth) ++
    [ruler widths '┏' '━' '┳' '┓'] ++ header ++ [ruler widths '┡' '━' '╇' '┩'] ++ body ++
    [ruler widths '└' '─' '┴' '┘']

/-- The width at which listings are drawn. -/
def listingWidth : Nat := 120

/-- The text of a listing of rows in colour, or a notice if there are none. -/
def listing (rows : List Row) (title : Text := defaultTitle) : Text :=
  if rows.isEmpty then "No results found"
  else
    let lines := (RowTable.ofRows rows title).layout listingWidth
    Text.trimEnd (Text.join ['\n'] (lines.map ColouredLine.toText))

/-- The text of a listing of rows without colours. -/
def plainListing (rows : List Row) : Text :=
  if rows.isEmpty then "No results found"
  else
    let lines := (RowTable.ofRows rows).layout listingWidth
    Text.trimEnd (Text.join ['\n'] (lines.map ColouredLine.plain))

end RowTable

end NativeFinder
