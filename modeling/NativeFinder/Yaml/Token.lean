import NativeFinder.Yaml.BlockScalar

/-!
# Tokens of YAML

A text is cut into tokens from front to back. Besides marks and scalars there are tokens for
what the layout says: where a list or table begins because a line is indented deeper than the
lines around it, and where it ends because a later line is not.

That something is a key is known only at the colon behind it. So a token that might begin a
key is kept as a **candidate**, one for each level of brackets, and at the colon the tokens
for the key are put in before it. A candidate is lost at the end of its line or after 1024
characters. One at the indentation of its table has to be a key; without a colon the text is
malformed.
-/

namespace NativeFinder

namespace Yaml

/-- A token. -/
inductive Token where
  | documentStart
  | documentEnd
  /-- A list begins by indentation. -/
  | listStart
  /-- A table begins by indentation. -/
  | tableStart
  /-- A list or table ends by indentation. -/
  | blockEnd
  | bracketOpen
  | bracketClose
  | braceOpen
  | braceClose
  | comma
  /-- An item of a list begins. -/
  | dash
  | key
  | colon
  | scalar (text : Text) (isPlain : Bool)
  | anchor (name : Text)
  /-- The name of an anchor whose node is repeated. -/
  | alias (name : Text)
  | tag (mark : TagMark)
  | directive (directive : Directive)
deriving DecidableEq, Inhabited

/-- A token that may turn out to begin a key. -/
structure Candidate where
  /-- The number of the tokens before it. -/
  place : Nat
  isRequired : Bool
  position : Nat
  line : Nat
  column : Nat
deriving Inhabited

/-- How far a text has been cut. -/
structure Lexer where
  cursor : Cursor
  /-- How many brackets and braces are open. -/
  depth : Nat
  /-- The indentation of the innermost list or table. -/
  indent : Int
  /-- The indentations around it. -/
  outer : List Int
  /-- Whether a key may begin here. -/
  keyAllowed : Bool
  /-- The candidates with their depths. -/
  candidates : List (Nat × Candidate)
  tokens : List Token
deriving Inhabited

namespace Lexer

/-- The beginning of a text. -/
def start (s : Text) : Lexer :=
  { cursor := Cursor.start s, depth := 0, indent := -1, outer := [], keyAllowed := true
    candidates := [], tokens := [] }

/-- Puts a token behind the others. -/
def emit (k : Lexer) (t : Token) : Lexer := { k with tokens := k.tokens ++ [t] }

/-- Puts tokens in behind the first `n`. -/
def insertAt (k : Lexer) (n : Nat) (ts : List Token) : Lexer :=
  { k with tokens := k.tokens.take n ++ ts ++ k.tokens.drop n }

/-- Reads `n` characters. -/
def skip (k : Lexer) (n : Nat) : Lexer := { k with cursor := k.cursor.advance n }

/-- Whether no bracket or brace is open, so that the layout counts. -/
def isBlock (k : Lexer) : Bool := k.depth == 0

/-! ### Indentation -/

/-- Whether something in this column opens a new list or table. -/
def opensAt (k : Lexer) (column : Nat) : Bool := k.indent < column

/-- Opens a list or table in a column. -/
def push (k : Lexer) (column : Nat) : Lexer :=
  { k with indent := column, outer := k.indent :: k.outer }

/-- Closes the lists and tables that lie deeper than a column. -/
def closeDeeper (column : Int) (indent : Int) : List Int → Int × List Int × List Token
  | [] => (indent, [], [])
  | next :: outer =>
    if column < indent then
      let (indent, outer, ends) := closeDeeper column next outer
      (indent, outer, .blockEnd :: ends)
    else (indent, next :: outer, [])

/-- Closes the lists and tables that a line in this column does not belong to. -/
def unwind (k : Lexer) (column : Int) : Lexer :=
  if k.isBlock then
    let (indent, outer, ends) := closeDeeper column k.indent k.outer
    { k with indent, outer, tokens := k.tokens ++ ends }
  else k

/-! ### Candidates -/

/-- Whether a candidate can no longer be a key. -/
def isStale (k : Lexer) (c : Candidate) : Bool :=
  c.line != k.cursor.line || 1024 < k.cursor.position - c.position

/-- Gives up candidates of a kind; none of them may be required. -/
def giveUp (k : Lexer) (p : Nat × Candidate → Bool) : Option Lexer :=
  if k.candidates.any fun c => p c && c.2.isRequired then none
  else some { k with candidates := k.candidates.filter fun c => !p c }

/-- Gives up the candidates that can no longer be keys. -/
def giveUpStale (k : Lexer) : Option Lexer := k.giveUp fun c => k.isStale c.2

/-- Gives up the candidate of this depth. -/
def giveUpHere (k : Lexer) : Option Lexer := k.giveUp fun c => c.1 == k.depth

/-- Takes what comes next for a candidate, where a key may begin. -/
def offer (k : Lexer) : Option Lexer :=
  if k.keyAllowed then do
    let k ← k.giveUpHere
    let candidate : Candidate :=
      { place := k.tokens.length, isRequired := k.isBlock && k.indent == k.cursor.column
        position := k.cursor.position, line := k.cursor.line, column := k.cursor.column }
    some { k with candidates := (k.depth, candidate) :: k.candidates }
  else some k

/-! ### Marks -/

/-- Reads the mark before or behind a document. -/
def readBoundary (k : Lexer) (t : Token) : Option Lexer := do
  let k ← (k.unwind (-1)).giveUpHere
  some ({ k with keyAllowed := false }.skip 3 |>.emit t)

/-- Reads an opening bracket or brace. -/
def readOpen (k : Lexer) (t : Token) : Option Lexer := do
  let k ← k.offer
  some ({ k with depth := k.depth + 1, keyAllowed := true }.skip 1 |>.emit t)

/-- Reads a closing bracket or brace. -/
def readClose (k : Lexer) (t : Token) : Option Lexer := do
  let k ← k.giveUpHere
  if k.isBlock then none
  else some ({ k with depth := k.depth - 1, keyAllowed := false }.skip 1 |>.emit t)

/-- Reads a comma. -/
def readComma (k : Lexer) : Option Lexer := do
  let k ← k.giveUpHere
  some ({ k with keyAllowed := true }.skip 1 |>.emit .comma)

/-- Opens a list or table where its first item or key stands, unless brackets are open. -/
def openHere (k : Lexer) (t : Token) : Option Lexer :=
  if !k.isBlock then some k
  else if !k.keyAllowed then none
  else some (if k.opensAt k.cursor.column then (k.push k.cursor.column).emit t else k)

/-- Reads the dash before an item. -/
def readDash (k : Lexer) : Option Lexer := do
  let k ← k.openHere .listStart
  let k ← { k with keyAllowed := true }.giveUpHere
  some ((k.skip 1).emit .dash)

/-- Reads the question mark before a key. -/
def readQuestionMark (k : Lexer) : Option Lexer := do
  let k ← k.openHere .tableStart
  let k ← { k with keyAllowed := k.isBlock }.giveUpHere
  some ((k.skip 1).emit .key)

/-- Reads a colon. The candidate of this depth, if there is one, is the key. -/
def readColon (k : Lexer) : Option Lexer :=
  match k.candidates.lookup k.depth with
  | some c =>
    let opens := k.isBlock && k.opensAt c.column
    let k := k.insertAt c.place (if opens then [.tableStart, .key] else [.key])
    let k := if opens then k.push c.column else k
    let candidates := k.candidates.filter fun d => d.1 != k.depth
    some ({ k with candidates, keyAllowed := false }.skip 1 |>.emit .colon)
  | none => do
    let k ← k.openHere .tableStart
    some ({ k with keyAllowed := k.isBlock }.skip 1 |>.emit .colon)

/-! ### Scalars -/

/-- Whether a character ends a word of a plain scalar between brackets. -/
def isFlowMark (c : Char) : Bool :=
  c == ',' || c == '?' || c == '[' || c == ']' || c == '\x7b' || c == '\x7d'

/-- Whether a colon with this behind it ends a word of a plain scalar. -/
def isColonEnd (isBlock : Bool) (after : Text) : Bool :=
  isAtSpace after || (!isBlock && after.head?.any fun c => isFlowMark c && c != '?')

/-- The length of the word of a plain scalar that a text begins with. -/
def wordLength (isBlock : Bool) : Text → Nat
  | [] => 0
  | c :: s =>
    if isSpace c || (c == ':' && isColonEnd isBlock s) || (!isBlock && isFlowMark c) then 0
    else wordLength isBlock s + 1

/-- Reads the words of a plain scalar with the gaps between them. A word on a later line has to
be indented deeper than what the scalar stands in. -/
def readWords (k : Lexer) (before : Text) : Nat → Text × Lexer
  | 0 => ([], k)
  | fuel + 1 =>
    let n := wordLength k.isBlock k.cursor.rest
    if k.cursor.rest.head? == some '#' || n == 0 then ([], k)
    else
      let word := before ++ k.cursor.rest.take n
      let k := { k with keyAllowed := false }.skip n
      let gap := plainGap k.cursor.rest
      let k := { k with keyAllowed := gap.hasBreak }.skip gap.length
      if gap.folded.isEmpty || k.cursor.rest.head? == some '#' ||
          (k.isBlock && (k.cursor.column : Int) < k.indent + 1) then (word, k)
      else
        let (more, k) := readWords k gap.folded fuel
        (word ++ more, k)

/-- Reads a plain scalar. -/
def readPlain (k : Lexer) : Option Lexer := do
  let k ← k.offer
  let (text, k) := { k with keyAllowed := false }.readWords [] (k.cursor.rest.length + 1)
  some (k.emit (.scalar text true))

/-- Reads a quoted scalar. -/
def readQuotedScalar (k : Lexer) (isDouble : Bool) : Option Lexer := do
  let k ← k.offer
  let s := k.cursor.rest
  let (text, rest) ← readQuoted? isDouble s.length s.tail
  some ({ k with keyAllowed := false }.skip (s.length - rest.length)
    |>.emit (.scalar text false))

/-- Reads a block scalar, which no key may be. -/
def readBlock (k : Lexer) (isFolded : Bool) : Option Lexer := do
  let k ← { k with keyAllowed := true }.giveUpHere
  let s := k.cursor.rest
  let (text, rest) ← readBlockScalar? isFolded k.indent s.tail
  some (k.skip (s.length - rest.length) |>.emit (.scalar text false))

/-! ### Anchors, tags and directives -/

/-- Reads what stands before a node, or an alias in its place, behind a mark. -/
def readProperty {α : Type} (k : Lexer) (read? : Text → Option (α × Text)) (token : α → Token) :
    Option Lexer := do
  let k ← k.offer
  let s := k.cursor.rest
  let (property, rest) ← read? s.tail
  some ({ k with keyAllowed := false }.skip (s.length - rest.length) |>.emit (token property))

/-- Reads a directive. -/
def readDirective (k : Lexer) : Option Lexer := do
  let k ← (k.unwind (-1)).giveUpHere
  let s := k.cursor.rest
  let (directive, rest) ← readDirective? s.tail
  some ({ k with keyAllowed := false }.skip (s.length - rest.length) |>.emit (.directive directive))

/-! ### Plain scalars -/

/-- The characters that cannot begin a plain scalar. -/
def indicators : List Char := "-?:,[]\x7b\x7d#&*!|>'\"%@`".toList

/-- Whether a plain scalar may begin here. A dash may begin one if no space follows, and so may
a question mark or a colon outside of brackets. -/
def canBeginPlain (isBlock : Bool) (c : Char) (after : Text) : Bool :=
  (!isSpace c && !indicators.contains c) ||
    (!isAtSpace after && (c == '-' || (isBlock && (c == '?' || c == ':'))))

/-! ### The whole text -/

/-- Reads the token that a character begins, with `after` behind it. -/
def readToken (k : Lexer) (c : Char) (after : Text) : Option Lexer :=
  let atLineStart := k.cursor.column == 0
  if atLineStart && c == '%' then k.readDirective
  else if atLineStart && isAtMark startMark (c :: after) then k.readBoundary .documentStart
  else if atLineStart && isAtMark endMark (c :: after) then k.readBoundary .documentEnd
  else if c == '[' then k.readOpen .bracketOpen
  else if c == '\x7b' then k.readOpen .braceOpen
  else if c == ']' then k.readClose .bracketClose
  else if c == '\x7d' then k.readClose .braceClose
  else if c == ',' then k.readComma
  else if c == '-' && isAtSpace after then k.readDash
  else if c == '?' && (!k.isBlock || isAtSpace after) then k.readQuestionMark
  else if c == ':' && (!k.isBlock || isAtSpace after) then k.readColon
  else if c == '*' then k.readProperty readAnchor? .alias
  else if c == '&' then k.readProperty readAnchor? .anchor
  else if c == '!' then k.readProperty readTag? .tag
  else if k.isBlock && (c == '|' || c == '>') then k.readBlock (c == '>')
  else if c == '\'' then k.readQuotedScalar false
  else if c == '"' then k.readQuotedScalar true
  else if canBeginPlain k.isBlock c after then k.readPlain
  else none

/-- Goes to the next token. On a new line a key may begin. -/
def toNextToken (k : Lexer) : Lexer :=
  let n := gapLength false k.cursor.rest
  let hasBreak := (k.cursor.rest.take n).any isBreak
  { k with keyAllowed := k.keyAllowed || (hasBreak && k.isBlock) }.skip n

/-- Cuts the rest of a text; `fuel` bounds the number of tokens. -/
def run (k : Lexer) : Nat → Option (List Token)
  | 0 => none
  | fuel + 1 => do
    let k ← k.toNextToken.giveUpStale
    let k := k.unwind k.cursor.column
    match k.cursor.rest with
    | [] => some (← (k.unwind (-1)).giveUpHere).tokens
    | c :: after => (← k.readToken c after).run fuel

end Lexer

/-- The tokens of a text; `none` if it cannot be cut. A mark of the byte order at the front is
not part of the text. -/
def tokens? (s : Text) : Option (List Token) :=
  let s := match s with
    | '\ufeff' :: s => s
    | s => s
  if s.all isAllowed then (Lexer.start s).run (s.length + 1) else none

end Yaml

end NativeFinder
