import NativeFinder.Text.Basic

/-!
# Coloured lines

A line on the console is a sequence of pieces, each with the code of its colour or with none.
It is written with the codes, or without them.
-/

namespace NativeFinder

/-- A stretch of a line with the code of its colour; borders have none. -/
structure ColouredPiece where
  code : Option Text
  text : Text
deriving DecidableEq, Inhabited

/-- A line of pieces. -/
abbrev ColouredLine := List ColouredPiece

namespace ColouredPiece

/-- The control sequence that sets a colour. -/
def escape (code : Text) : Text := "\x1b[" ++ code ++ "m"

/-- A piece with its colour set before it and reset behind it; nothing for an empty piece. -/
def toText (p : ColouredPiece) : Text :=
  match p.code, p.text with
  | none, s => s
  | some _, [] => []
  | some code, s => escape code ++ s ++ escape ['0']

end ColouredPiece

namespace ColouredLine

/-- A line with its colours. -/
def toText (line : ColouredLine) : Text := line.flatMap ColouredPiece.toText

/-- A line without colours. -/
def plain (line : ColouredLine) : Text := line.flatMap ColouredPiece.text

end ColouredLine

end NativeFinder
