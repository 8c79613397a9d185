import NativeFinder.Text.Utf8
import NativeFinder.Yaml.Quoted

/-!
# Anchors, tags and directives of YAML

Before a node may stand its **anchor**, a name by which it can be repeated later, and its **tag**,
which says of what kind it is. A tag is a text in which some characters are escaped; most tags are
shortened by a **handle**, which stands for the beginning of the text.

A **directive** before a document tells the version of YAML, or what a handle stands for. The
readers begin behind the mark of what they read, and give the rest.
-/

namespace NativeFinder

namespace Yaml

/-- Whether a character may stand in a name. -/
def isNameChar (c : Char) : Bool := c.isAlphanum || c == '-' || c == '_'

/-- Whether a text is at its end or goes on with a space or the end of a line, but no tab. -/
def isAtGap (s : Text) : Bool := s.head?.all fun c => c == ' ' || isBreak c

/-- The characters that may stand behind the name of an anchor, besides spaces. -/
def anchorEnds : List Char := "?:,]\x7d%@`".toList

/-- Reads the name of an anchor. -/
def readAnchor? (s : Text) : Option (Text × Text) := do
  let (name, rest) ← Text.takeRun? isNameChar s
  if rest.head?.all (fun c => isSpace c || anchorEnds.contains c) then some (name, rest) else none

/-! ### Tags -/

/-- A tag as it is written: behind a handle, or in full. -/
structure TagMark where
  handle : Option Text
  suffix : Text
deriving DecidableEq, Inhabited

/-- Whether a character may stand in a tag. -/
def isTagChar (c : Char) : Bool :=
  c.isAlphanum || "-;/?:@&=+$,_.!~*'()[]%".toList.contains c

/-- The characters of escaped bytes. -/
def decodeEscaped? (b : Bytes) : Option Text :=
  match Utf8.decode b with
  | .ok s => some s
  | .error _ => none

/-- Replaces the escapes in a tag. Those that stand side by side write one text together;
`before` are the bytes of the last ones. -/
def unescape? (before : Bytes) : Text → Option Text
  | [] => decodeEscaped? before
  | '%' :: a :: b :: s => do
    let high ← Scalar.hexDigit? a
    let low ← Scalar.hexDigit? b
    unescape? (before ++ [UInt8.ofNat (16 * high + low)]) s
  | c :: s => do
    let decoded ← decodeEscaped? before
    let rest ← if c = '%' then none else unescape? [] s
    some (decoded ++ c :: rest)

/-- Reads the text of a tag, or of what a handle stands for. -/
def readTagText? (s : Text) : Option (Text × Text) := do
  let (written, rest) ← Text.takeRun? isTagChar s
  some (← unescape? [] written, rest)

/-- Reads a handle behind its first mark, and gives it with its marks. -/
def readHandle? (s : Text) : Option (Text × Text) :=
  if s.head? == some ' ' then some (['!'], s)
  else match s.dropWhile isNameChar with
    | '!' :: rest => some ('!' :: s.takeWhile isNameChar ++ ['!'], rest)
    | _ => none

/-- Reads a tag. -/
def readTag? (s : Text) : Option (TagMark × Text) := do
  let (mark, rest) ←
    match s with
    | '<' :: s => do
      match ← readTagText? s with
      | (suffix, '>' :: rest) => some (⟨none, suffix⟩, rest)
      | _ => none
    | s =>
      if isAtSpace s then some (⟨none, ['!']⟩, s)
      else do
        let hasHandle := (s.takeWhile fun c => !(c == ' ' || isBreak c)).contains '!'
        let (handle, rest) ← if hasHandle then readHandle? s else some (['!'], s)
        let (suffix, rest) ← readTagText? rest
        some (⟨some handle, suffix⟩, rest)
  if isAtGap rest then some (mark, rest) else none

/-! ### Directives -/

/-- A directive. -/
inductive Directive where
  | version (major : Nat)
  | handle (name stands : Text)
  /-- A directive that is not known. -/
  | other
deriving DecidableEq, Inhabited

/-- The text without leading spaces. -/
def dropSpaces (s : Text) : Text := s.dropWhile (· == ' ')

/-- Reads the rest of a line that holds nothing but a comment, up to its end. -/
def readLineEnd? (s : Text) : Option Text :=
  let s := dropSpaces s
  let s := if s.head? == some '#' then s.dropWhile (!isBreak ·) else s
  if s.head?.all isBreak then some s else none

/-- Reads what a directive says behind its name. -/
def readDirectiveValue? (name : Text) (s : Text) : Option (Directive × Text) :=
  if name = ("YAML" : Text) then
    match Text.takeRun? Char.isDigit (dropSpaces s) with
    | some (major, '.' :: s) => do
      let (_, rest) ← Text.takeRun? Char.isDigit s
      if isAtGap rest then some (.version (Scalar.ofDigits 10 major), rest) else none
    | _ => none
  else if name = ("TAG" : Text) then
    match dropSpaces s with
    | '!' :: s =>
      match readHandle? s with
      | some (handle, ' ' :: s) => do
        let (stands, rest) ← readTagText? (dropSpaces s)
        if isAtGap rest then some (.handle handle stands, rest) else none
      | _ => none
    | _ => none
  else some (.other, s.dropWhile (!isBreak ·))

/-- Reads a directive up to the end of its line. -/
def readDirective? (s : Text) : Option (Directive × Text) := do
  let (name, rest) ← Text.takeRun? isNameChar s
  if isAtGap rest then
    let (directive, rest) ← readDirectiveValue? name rest
    some (directive, ← readLineEnd? rest)
  else none

end Yaml

end NativeFinder
