import NativeFinder.Layout.Cells

/-!
# Wrapping

A text is wrapped to a width line by line. A line is a sequence of words, each of which keeps
the blanks behind it; blanks at the beginning belong to the first word. Words are put on a
line as long as they fit without those blanks. A word that is wider than the width is either
**folded** into pieces of the width, or kept whole on a line of its own, which is then cut
with an **ellipsis**.

After wrapping, a line that has more characters than the width loses as many of its trailing
blanks as it is too long, and what is still too wide is cut.
-/

namespace NativeFinder

namespace Text

/-- What happens to what is wider than the width. -/
inductive Overflow where
  | fold | ellipsis
deriving DecidableEq, Inhabited

/-- Reads the next word of a line with its blanks. -/
def nextWord? (s : Text) : Option (Text × Text) :=
  let lead := s.takeWhile Character.isBlank
  let afterLead := s.dropWhile Character.isBlank
  let isInk (c : Char) : Bool := !Character.isBlank c
  match afterLead.takeWhile isInk with
  | [] => none
  | ink =>
    let rest := afterLead.dropWhile isInk
    some (lead ++ ink ++ rest.takeWhile Character.isBlank, rest.dropWhile Character.isBlank)

/-- The words of a line, each with its blanks; `fuel` bounds their number. -/
def paddedWords : Nat → Text → List Text
  | 0, _ => []
  | fuel + 1, s =>
    match nextWord? s with
    | none => []
    | some (word, rest) => word :: paddedWords fuel rest

/-- Cuts a word into pieces of at most `width` cells. `piece` is the piece so far, with its
last character first, and `used` its cells. -/
def foldWord (width : Nat) : Text → Nat → Text → List Text
  | piece, _, [] => [piece.reverse]
  | piece, used, c :: s =>
    let n := Character.cells c
    if width < used + n then piece.reverse :: foldWord width [c] n s
    else foldWord width (c :: piece) (used + n) s

/-- The state of the breaking of a line: the pieces before the current one, the last first;
the current piece; and the cells that count as used in it. -/
structure Breaking where
  done : List Text := []
  current : Text := []
  used : Nat := 0
deriving Inhabited

namespace Breaking

/-- Whether nothing has been put on the line yet. -/
def isStart (b : Breaking) : Bool := b.done.isEmpty && b.current.isEmpty

/-- Ends the current piece and begins another one with `word`. -/
def newLine (b : Breaking) (word : Text) : Breaking :=
  { done := b.current :: b.done, current := word, used := cells word }

/-- Puts a word on the current piece, or on a new one. -/
def place (overflow : Overflow) (width : Nat) (b : Breaking) (word : Text) : Breaking :=
  let n := cells (trimEnd word)
  if b.used + n ≤ width then
    { b with current := b.current ++ word, used := b.used + cells word }
  else if width < n then
    match overflow with
    | .ellipsis =>
      if b.isStart then { b with current := word, used := cells word } else b.newLine word
    | .fold =>
      (foldWord width [] 0 word).foldl (fun b piece =>
        if b.isStart then { b with current := piece, used := cells piece }
        else b.newLine piece) b
  else if 0 < b.used && !b.isStart then b.newLine word
  else { b with current := b.current ++ word }

/-- The pieces of a line. -/
def pieces (b : Breaking) : List Text := (b.current :: b.done).reverse

end Breaking

/-- The pieces of a line that is broken between its words. Blanks alone stay one piece. -/
def breakLine (overflow : Overflow) (width : Nat) (line : Text) : List Text :=
  match paddedWords line.length line with
  | [] => [line]
  | words => (words.foldl (Breaking.place overflow width) {}).pieces

/-- Takes trailing blanks off a piece with too many characters, as many as it is too long. -/
def dropExcessBlanks (width : Nat) (s : Text) : Text :=
  let blanks := s.length - (trimEnd s).length
  s.take (s.length - min blanks (s.length - width))

/-- Cuts a piece to the width. -/
def Overflow.cut (overflow : Overflow) (width : Nat) (s : Text) : Text :=
  match overflow with
  | .fold => cutCells width s
  | .ellipsis => ellipsize width s

/-- A piece in its width: it is cut if it is too wide, and filled with spaces. -/
def fit (alignment : Alignment) (overflow : Overflow) (width : Nat) (s : Text) : Text :=
  let s := match alignment with
    | .left => s
    | .centre | .right => trimEnd s
  align alignment ' ' width (overflow.cut width s)

/-- A text wrapped to a width, each line filled to it. Without wrapping a line is only cut. -/
def wrap (wrapping : Bool) (alignment : Alignment) (overflow : Overflow) (width : Nat)
    (s : Text) : List Text :=
  (lines s).flatMap fun line =>
    let line := expandTabs line
    let pieces := if wrapping then breakLine overflow width line else [line]
    pieces.map fun piece => fit alignment overflow width (dropExcessBlanks width piece)

/-- A text folded to a width, its lines as long as they are. -/
def flow (width : Nat) (s : Text) : List Text :=
  (lines s).flatMap fun line =>
    (breakLine .fold width (expandTabs line)).map fun piece =>
      cutCells width (dropExcessBlanks width piece)

end Text

end NativeFinder
