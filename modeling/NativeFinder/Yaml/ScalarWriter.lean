import NativeFinder.Yaml.Quoted

/-!
# Writing scalars of YAML

A text is written plain where that reads back as the same text. Else it is written between
single quotes if a reader of its lines can tell where it begins and ends, and between double
quotes, with escapes, if it holds anything but printable ASCII and line breaks, or spaces next
to line breaks.

A written scalar is broken at single spaces behind column 80. The text of a key is never
broken.
-/

namespace NativeFinder

namespace Yaml

/-- The column behind which lines are broken. -/
def lineWidth : Nat := 80

/-- How a text is written. -/
inductive ScalarStyle where
  | plain
  | single
  | double
deriving DecidableEq, Inhabited

namespace ScalarStyle

/-- Whether a character can be written without an escape. -/
def isPrintable (c : Char) : Bool := c == '\n' || (' ' ≤ c && c ≤ '~')

/-- Whether a character other than the first one of a text could be read as a mark. -/
def isMarkInside (before c : Char) (after : Text) : Bool :=
  (c == ':' && isAtSpace after) || (c == '#' && isSpace before)

/-- Whether a mark could be read somewhere behind a character. -/
def hasMarkAfter (before : Char) : Text → Bool
  | [] => false
  | c :: s => isMarkInside before c s || hasMarkAfter c s

/-- The characters that are marks at the beginning of a text, whatever follows. -/
def leadingMarks : List Char := "#,[]\x7b\x7d&*!|>'\"%@`".toList

/-- Whether a plain scalar with this text could be read as something else than a scalar. -/
def hasMark : Text → Bool
  | [] => false
  | c :: s =>
    startMark.isPrefixOf (c :: s) || endMark.isPrefixOf (c :: s) || leadingMarks.contains c ||
      ((c == '?' || c == ':' || c == '-') && isAtSpace s) || hasMarkAfter c s

/-- Whether a text begins or ends with a space or a line break. -/
def hasMargin (s : Text) : Bool := s.head?.any isSpace || s.getLast?.any isSpace

/-- Whether a line break in a text has a space next to it. -/
def hasRaggedBreak (s : Text) : Bool := Text.occursIn " \n" s || Text.occursIn "\n " s

/-- The style of a text. -/
def ofText (isKey : Bool) (s : Text) : ScalarStyle :=
  let isRegular := s.all isPrintable && !hasRaggedBreak s
  let isOneLine := !s.contains '\n'
  if isRegular && isOneLine && !hasMargin s && !hasMark s && Kind.ofPlain s == .text then
    .plain
  else if isRegular && (isOneLine || !isKey) then .single
  else .double

end ScalarStyle

/-! ### Broken lines -/

/-- A line break, and spaces up to a column. -/
def newline (column : Nat) : Text := '\n' :: Text.spaces column

/-- Writes a text without line breaks from a column on. Single spaces behind the width become
line breaks to the column `indent`, and the characters of the class `double` are written
twice. -/
def writeWords (mayBreak : Bool) (indent : Nat) (double : Char → Bool) (before : Option Char)
    (column : Nat) : Text → Text
  | [] => []
  | c :: s =>
    let isSingleSpace := c == ' ' && before.any (· != ' ') && s.head?.any (· != ' ')
    if mayBreak && isSingleSpace && lineWidth < column then
      newline indent ++ writeWords mayBreak indent double (some c) indent s
    else if double c then
      c :: c :: writeWords mayBreak indent double (some c) (column + 2) s
    else c :: writeWords mayBreak indent double (some c) (column + 1) s

/-- The lines of a text between single quotes; a line break is written as one more. -/
def writeLines (mayBreak : Bool) (indent column : Nat) (isFirst : Bool) : List Text → Text
  | [] => []
  | [line] => writeWords mayBreak indent (· == '\'') none column line
  | line :: next :: rest =>
    let written := writeWords mayBreak indent (· == '\'') none column line
    let breaks : Text :=
      (if line.isEmpty && !isFirst then [] else ['\n']) ++
        (if next.isEmpty && !rest.isEmpty then ['\n'] else newline indent)
    written ++ breaks ++ writeLines mayBreak indent indent false (next :: rest)

/-- The escape of a character between double quotes. -/
def escape (c : Char) : Text :=
  let hex (width : Nat) : Text := (Text.padHex width c.toNat).map Char.toUpper
  match c with
  | '\x00' => "\\0"
  | '\x07' => "\\a"
  | '\x08' => "\\b"
  | '\t' => "\\t"
  | '\n' => "\\n"
  | '\x0b' => "\\v"
  | '\x0c' => "\\f"
  | '\x0d' => "\\r"
  | '\x1b' => "\\e"
  | '"' => "\\\""
  | '\\' => "\\\\"
  | '\u0085' => "\\N"
  | '\u00a0' => "\\_"
  | '\u2028' => "\\L"
  | '\u2029' => "\\P"
  | _ =>
    if c.toNat ≤ 0xFF then "\\x" ++ hex 2
    else if c.toNat ≤ 0xFFFF then "\\u" ++ hex 4
    else "\\U" ++ hex 8

/-- Whether a character is escaped between double quotes. -/
def needsEscape (c : Char) : Bool := c == '"' || c == '\\' || !(' ' ≤ c && c ≤ '~')

/-- The text between double quotes from a column on; `pending` is what has been passed since
the last escape or line break and is not yet counted in the column. A line is broken behind a
backslash, before a space or behind an escape, and another backslash keeps a space that would
begin the next line. -/
def writeEscaped (mayBreak : Bool) (indent : Nat) (isFirst : Bool) (pending : Text)
    (column : Nat) : Text → Text
  | [] => pending
  | c :: s =>
    let breaksAt (reached : Nat) : Bool :=
      mayBreak && !isFirst && !s.isEmpty && lineWidth < reached
    let guard (next : Option Char) : Text := if next == some ' ' then ['\\'] else []
    if needsEscape c then
      let written := pending ++ escape c
      let column := column + written.length
      if breaksAt (column - 1) then
        let kept := guard s.head?
        written ++ "\\" ++ newline indent ++ kept ++
          writeEscaped mayBreak indent false [] (indent + kept.length) s
      else written ++ writeEscaped mayBreak indent false [] column s
    else if (c == ' ' || pending.isEmpty) && breaksAt (column + pending.length) then
      let kept := guard (some c)
      pending ++ "\\" ++ newline indent ++ kept ++
        writeEscaped mayBreak indent false [c] (indent + kept.length) s
    else writeEscaped mayBreak indent false (pending ++ [c]) column s

/-! ### Scalars -/

/-- Writes a text in a style, from a column on. -/
def writeText (style : ScalarStyle) (mayBreak : Bool) (indent column : Nat) (s : Text) : Text :=
  match style with
  | .plain => writeWords mayBreak indent (fun _ => false) none column s
  | .single =>
    '\'' :: writeLines mayBreak indent (column + 1) true (Text.lines s) ++ ['\'']
  | .double => '"' :: writeEscaped mayBreak indent true [] (column + 1) s ++ ['"']

/-- The written form of a number of double precision. An exponent has a point before it. -/
def ofBinary64 : Binary64 → Text
  | .nan => ".nan"
  | .infinite negative => if negative then "-.inf" else ".inf"
  | x =>
    let s := x.toText
    if s.contains '.' then s
    else match Text.splitFirst? ['e'] s with
      | some (digits, exponent) => digits ++ ".0e" ++ exponent
      | none => s

end Yaml

end NativeFinder
