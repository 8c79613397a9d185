import NativeFinder.Yaml.Property

/-!
# Block scalars of YAML

Behind a bar or an angle stands a scalar of several lines, which are indented alike. Behind a bar
the lines are kept as they are; behind an angle they are **folded**, that is a line break between
two lines that begin with no space counts as a space. A digit in the first line tells how deep the
lines are indented, where that is not what the first of them says, and a sign what becomes of the
line breaks at the end: without a sign one is kept, behind a minus none, behind a plus all of them.
-/

namespace NativeFinder

namespace Yaml

/-- What the first line of a block scalar says. -/
structure BlockHeader where
  /-- Whether all line breaks at the end are kept, or none. -/
  keeps : Option Bool
  /-- How much deeper the lines are indented than what the scalar stands in. -/
  deeper : Option Nat
deriving DecidableEq, Inhabited

/-- Reads a sign. -/
def readSign? : Text → Option (Bool × Text)
  | '+' :: s => some (true, s)
  | '-' :: s => some (false, s)
  | _ => none

/-- Reads a digit, if there is one; it may not be zero. -/
def readDigit? (s : Text) : Option (Option Nat × Text) :=
  match s with
  | c :: rest =>
    if c = '0' then none
    else if c.isDigit then some (some (c.toNat - '0'.toNat), rest)
    else some (none, s)
  | [] => some (none, [])

/-- Reads the first line of a block scalar up to its end. -/
def readBlockHeader? (s : Text) : Option (BlockHeader × Text) := do
  let (header, rest) ←
    match readSign? s with
    | some (keeps, s) => do
      let (deeper, s) ← readDigit? s
      some ((⟨some keeps, deeper⟩ : BlockHeader), s)
    | none => do
      let (deeper, s) ← readDigit? s
      match deeper, readSign? s with
      | some _, some (keeps, s) => some (⟨some keeps, deeper⟩, s)
      | _, _ => some (⟨none, deeper⟩, s)
  if isAtGap rest then some (header, ← readLineEnd? rest) else none

/-- What stands between the lines of a block scalar. -/
structure BlockGap where
  /-- The line breaks. -/
  breaks : Text
  /-- The column of what follows. -/
  column : Nat
  rest : Text
deriving Inhabited

/-- Reads line breaks and spaces up to a column. -/
def blockGap (indent column : Nat) : Text → BlockGap
  | [] => ⟨[], column, []⟩
  | c :: s =>
    if c == ' ' && column < indent then blockGap indent (column + 1) s
    else if isBreak c then
      let gap := blockGap indent 0 s
      { gap with breaks := plainBreak c :: gap.breaks }
    else ⟨[], column, c :: s⟩

/-- The greatest column that is reached by spaces at the beginning of lines, up to the first
character that is none. -/
def greatestColumn (column : Nat) : Text → Nat
  | [] => column
  | c :: s =>
    if c == ' ' then max column (greatestColumn (column + 1) s)
    else if isBreak c then max column (greatestColumn 0 s)
    else column

/-- The parts of a block scalar behind its first line. -/
structure BlockText where
  /-- The lines up to the last one. -/
  lines : Text
  /-- The line break behind the last line. -/
  last : Text
  /-- The line breaks of the blank lines behind it. -/
  tail : Text
  rest : Text
deriving Inhabited

/-- What stands for a line break between two lines, with the line breaks of the blank lines between
them. -/
def blockJoint (isFolded beginsFilled : Bool) (lineBreak : Text) (gap : BlockGap) : Text :=
  let nextFilled := gap.rest.head?.all fun c => c != ' ' && c != '\t'
  if isFolded && lineBreak == ['\n'] && beginsFilled && nextFilled then
    (if gap.breaks.isEmpty then [' '] else []) ++ gap.breaks
  else lineBreak ++ gap.breaks

/-- Reads lines that are indented to a column; `fuel` bounds their number. -/
def readBlockLines (isFolded : Bool) (indent : Nat) : Nat → BlockGap → BlockText
  | 0, gap => ⟨[], [], gap.breaks, gap.rest⟩
  | fuel + 1, gap =>
    if gap.column != indent || gap.rest.isEmpty then ⟨[], [], gap.breaks, gap.rest⟩
    else
      let line := gap.rest.takeWhile (!isBreak ·)
      let after := gap.rest.dropWhile (!isBreak ·)
      let lineBreak := (after.take 1).map plainBreak
      let next := blockGap indent 0 (after.drop 1)
      if next.column == indent && !next.rest.isEmpty then
        let beginsFilled := line.head?.all fun c => c != ' ' && c != '\t'
        let more := readBlockLines isFolded indent fuel next
        { more with lines := line ++ blockJoint isFolded beginsFilled lineBreak next ++ more.lines }
      else ⟨line, lineBreak, next.breaks, next.rest⟩

/-- Reads a block scalar behind its mark, in something that is indented to a column. -/
def readBlockScalar? (isFolded : Bool) (indent : Int) (s : Text) : Option (Text × Text) := do
  let (header, rest) ← readBlockHeader? s
  let lines := rest.drop 1
  let least := max 1 (indent + 1).toNat
  let column := match header.deeper with
    | some deeper => least + deeper - 1
    | none => max least (greatestColumn 0 lines)
  let first := blockGap column 0 lines
  let text := readBlockLines isFolded column (lines.length + 1) first
  -- the blank lines before the first line belong to the scalar if there is one
  let hasLines := first.column == column && !first.rest.isEmpty
  let content := if hasLines then first.breaks ++ text.lines else []
  let last := if header.keeps == some false then [] else text.last
  let tail := if header.keeps == some true then text.tail else []
  some (content ++ last ++ tail, text.rest)

end Yaml

end NativeFinder
