import NativeFinder.Text.Basic

/-!
# Positions in a YAML text

The layout of a YAML text has meaning: how far a line is indented says what it belongs to. A
`Cursor` is what is left of a text together with the line and the column where it begins.

The gaps between tokens, and between the words of a scalar, are measured and folded here. A
line break inside a scalar counts as a space, and the blank lines behind it as line breaks.
-/

namespace NativeFinder

namespace Yaml

/-! ### Classes of characters -/

/-- Whether a character ends a line. -/
def isBreak (c : Char) : Bool :=
  c == '\n' || c == '\x0d' || c == '\u0085' || c == '\u2028' || c == '\u2029'

/-- Whether a character is a space, a tab or the end of a line. -/
def isSpace (c : Char) : Bool := c == ' ' || c == '\t' || isBreak c

/-- Whether a text is at its end or goes on with a space. -/
def isAtSpace (s : Text) : Bool := s.head?.all isSpace

/-- A line break as it stands in a scalar. -/
def plainBreak (c : Char) : Char := if c == '\u0085' || c == '\x0d' then '\n' else c

/-- Whether a character may occur in a YAML text at all. -/
def isAllowed (c : Char) : Bool :=
  let n := c.toNat
  n == 0x09 || n == 0x0A || n == 0x0D || (0x20 ≤ n && n ≤ 0x7E) || n == 0x85 ||
    (0xA0 ≤ n && n != 0xFFFE && n != 0xFFFF)

/-- Whether a line begins with a mark of three characters that bounds a document. -/
def isAtMark (mark : Text) (s : Text) : Bool :=
  match Text.dropPrefix? mark s with
  | some rest => isAtSpace rest
  | none => false

/-- The mark before a document. -/
def startMark : Text := ['-', '-', '-']

/-- The mark behind a document. -/
def endMark : Text := ['.', '.', '.']

/-- Whether a line begins with a mark that bounds a document. -/
def isAtBoundary (s : Text) : Bool := isAtMark startMark s || isAtMark endMark s

/-! ### Cursors -/

/-- A place in a text. -/
structure Cursor where
  /-- What is left of the text. -/
  rest : Text
  /-- How much of the text has been read. -/
  position : Nat
  line : Nat
  column : Nat
deriving Inhabited

namespace Cursor

/-- The beginning of a text. -/
def start (s : Text) : Cursor := { rest := s, position := 0, line := 0, column := 0 }

/-- The place behind the next character. -/
def step (k : Cursor) : Cursor :=
  match k.rest with
  | [] => k
  | c :: rest =>
    if isBreak c then { rest, position := k.position + 1, line := k.line + 1, column := 0 }
    else { k with rest, position := k.position + 1, column := k.column + 1 }

/-- The place behind the next `n` characters. -/
def advance (k : Cursor) : Nat → Cursor
  | 0 => k
  | n + 1 => k.step.advance n

end Cursor

/-! ### Gaps -/

/-- The length of the gap before the next token: spaces, line breaks and comments. -/
def gapLength (inComment : Bool) : Text → Nat
  | [] => 0
  | c :: s =>
    if isBreak c then gapLength false s + 1
    else if inComment || c == ' ' then gapLength inComment s + 1
    else if c == '#' then gapLength true s + 1
    else 0

/-- A gap between two words of a scalar. -/
structure Gap where
  length : Nat
  /-- What stands for the gap in the scalar. -/
  folded : Text
  hasBreak : Bool
deriving Inhabited

/-- What stands for a line break and the blank lines behind it. -/
def foldBreaks (first : Char) (more : Text) : Text :=
  if plainBreak first != '\n' then plainBreak first :: more
  else if more.isEmpty then [' '] else more

/-- The spaces and line breaks behind a line break in a plain scalar: their number, and the
line breaks. There are none at the boundary of a document. -/
def plainBreaks : Text → Nat × Option Text
  | [] => (0, some [])
  | c :: s =>
    if c == ' ' then
      let (n, more) := plainBreaks s
      (n + 1, more)
    else if isBreak c then
      if isAtBoundary s then (1, none)
      else
        let (n, more) := plainBreaks s
        (n + 1, more.map (plainBreak c :: ·))
    else (0, some [])

/-- The gap behind a word of a plain scalar. A gap that ends the document stands for nothing. -/
def plainGap (s : Text) : Gap :=
  let spaces := s.takeWhile (· == ' ')
  match s.dropWhile (· == ' ') with
  | [] => ⟨spaces.length, spaces, false⟩
  | c :: after =>
    if !isBreak c then ⟨spaces.length, spaces, false⟩
    else if isAtBoundary after then ⟨spaces.length + 1, [], true⟩
    else
      let (n, more) := plainBreaks after
      let folded := match more with
        | some more => foldBreaks c more
        | none => []
      ⟨spaces.length + 1 + n, folded, true⟩

end Yaml

end NativeFinder
