import NativeFinder.Text.Basic

/-!
# Texts in terminal cells

A terminal shows text in cells, and a character takes none, one or two of them. The module
measures texts in cells and fits them into a given width: it cuts what is too wide, fills
what is too narrow, and moves text to the left, the right or the middle.
-/

namespace NativeFinder

namespace Text

/-- The number of cells of a text. -/
def cells (s : Text) : Nat := s.foldl (fun n c => n + Character.cells c) 0

/-- The longest initial part of at most `width` cells. -/
def takeCells (width : Nat) : Text → Text
  | [] => []
  | c :: s =>
    let n := Character.cells c
    if n ≤ width then c :: takeCells (width - n) s else []

/-- Fills a text with `fill` to a width. -/
def fillEnd (fill : Char) (width : Nat) (s : Text) : Text :=
  s ++ List.replicate (width - cells s) fill

/-- Cuts a text that is wider than `width`. Where the cut would go through a character of two
cells, a space is left. -/
def cutCells (width : Nat) (s : Text) : Text :=
  if cells s ≤ width then s else fillEnd ' ' width (takeCells width s)

/-- Cuts a text that is wider than `width` and marks the cut with an ellipsis. -/
def ellipsize (width : Nat) (s : Text) : Text :=
  if cells s ≤ width then s else cutCells (width - 1) s ++ ['…']

/-- Where a text stands in its width. -/
inductive Alignment where
  | left | centre | right
deriving DecidableEq, Inhabited

/-- Spreads a text over a width, with the smaller half of the room in front of a centred one. -/
def align (alignment : Alignment) (fill : Char) (width : Nat) (s : Text) : Text :=
  let room := width - cells s
  match alignment with
  | .left => s ++ List.replicate room fill
  | .right => List.replicate room fill ++ s
  | .centre => List.replicate (room / 2) fill ++ s ++ List.replicate (room - room / 2) fill

/-- Replaces tabs by spaces up to the next column that is a multiple of eight. -/
def expandTabs (s : Text) : Text := go 0 s
where
  /-- Expands the tabs of a text that begins in a given column. -/
  go (column : Nat) : Text → Text
    | [] => []
    | '\t' :: s =>
      let n := 8 - column % 8
      spaces n ++ go (column + n) s
    | c :: s => c :: go (column + Character.cells c) s

/-- The width of the widest line of a text, where a line ends at any character that ends one
in some convention. -/
def widestLine (s : Text) : Nat := go 0 s
where
  /-- Whether a character ends a line. -/
  isLineEnd (c : Char) : Bool :=
    let n := c.toNat
    (0x0A ≤ n && n ≤ 0x0D) || (0x1C ≤ n && n ≤ 0x1E) || n == 0x85 || n == 0x2028 || n == 0x2029
  /-- The greater of the width of the current line, so far, and those of the lines to come. -/
  go (column : Nat) : Text → Nat
    | [] => column
    | c :: s => if isLineEnd c then max column (go 0 s) else go (column + Character.cells c) s

end Text

end NativeFinder
