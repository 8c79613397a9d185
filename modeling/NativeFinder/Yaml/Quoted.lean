import NativeFinder.Yaml.Cursor
import NativeFinder.Yaml.Scalar

/-!
# Quoted scalars of YAML

Between single quotes only the quote itself is special, and is written twice. Between double
quotes a backslash begins an escape, and before a line break it joins two lines. In both,
line breaks are folded, and the spaces around them are dropped.
-/

namespace NativeFinder

namespace Yaml

/-- The character of an escape of one letter. -/
def shortEscape? : Char → Option Char
  | '0' => some '\x00'
  | 'a' => some '\x07'
  | 'b' => some '\x08'
  | 't' | '\t' => some '\t'
  | 'n' => some '\n'
  | 'v' => some '\x0b'
  | 'f' => some '\x0c'
  | 'r' => some '\x0d'
  | 'e' => some '\x1b'
  | ' ' => some ' '
  | '"' => some '"'
  | '\\' => some '\\'
  | '/' => some '/'
  | 'N' => some '\u0085'
  | '_' => some '\u00a0'
  | 'L' => some '\u2028'
  | 'P' => some '\u2029'
  | _ => none

/-- The number of hexadecimal digits of an escape by code. -/
def escapeWidth? : Char → Option Nat
  | 'x' => some 2
  | 'u' => some 4
  | 'U' => some 8
  | _ => none

/-- Reads an escape behind its backslash. -/
def readEscape? : Text → Option (Char × Text)
  | [] => none
  | c :: s =>
    match shortEscape? c, escapeWidth? c with
    | some e, _ => some (e, s)
    | none, some width =>
      let digits := s.take width
      if digits.length = width && digits.all (fun d => (Scalar.hexDigit? d).isSome) then
        some (Char.ofNat (Scalar.ofDigits 16 digits), s.drop width)
      else none
    | none, none => none

/-- Whether a character is a space or a tab. -/
def isInline (c : Char) : Bool := c == ' ' || c == '\t'

/-- Reads the spaces and line breaks behind a line break, and gives the line breaks. The
boundary of a document may not come here. -/
def readBreaks? : Nat → Text → Option (Text × Text)
  | 0, _ => none
  | fuel + 1, s =>
    if isAtBoundary s then none
    else
      match s.dropWhile isInline with
      | [] => some ([], [])
      | c :: after =>
        if isBreak c then
          (readBreaks? fuel after).map fun (more, rest) => (plainBreak c :: more, rest)
        else some ([], c :: after)

/-- Reads the spaces and line breaks between two words, and gives what stands for them. -/
def readGap? (s : Text) : Option (Text × Text) :=
  let spaces := s.takeWhile isInline
  match s.dropWhile isInline with
  | [] => none
  | c :: after =>
    if isBreak c then
      (readBreaks? (after.length + 1) after).map fun (more, rest) => (foldBreaks c more, rest)
    else some (spaces, c :: after)

/-- Reads a quoted scalar behind its opening quote, and gives the text and the rest. -/
def readQuoted? (isDouble : Bool) : Nat → Text → Option (Text × Text)
  | 0, _ => none
  | _ + 1, [] => none
  | fuel + 1, c :: s =>
    let goOn (before : Text) (rest : Text) : Option (Text × Text) :=
      (readQuoted? isDouble fuel rest).map fun (text, rest) => (before ++ text, rest)
    if isDouble && c == '"' then some ([], s)
    else if !isDouble && c == '\'' then
      match s with
      | '\'' :: s => goOn ['\''] s
      | s => some ([], s)
    else if isDouble && c == '\\' then
      match s with
      | [] => none
      | d :: after =>
        if isBreak d then do
          let (more, rest) ← readBreaks? (after.length + 1) after
          goOn more rest
        else do
          let (e, rest) ← readEscape? s
          goOn [e] rest
    else if isSpace c then do
      let (folded, rest) ← readGap? (c :: s)
      goOn folded rest
    else goOn [c] s

end Yaml

end NativeFinder
