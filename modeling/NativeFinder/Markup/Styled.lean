import NativeFinder.Markup.Literal
import NativeFinder.Markup.Style
import NativeFinder.Markup.Tag

/-!
# Styled text

A `Styled` text is plain text with **spans**, each of which puts a style on a stretch of it.
`Styled.ofMarkup` reads it from markup. An opening tag begins a span, and a closing tag ends
the span that was begun last under the same style, or, without a name, the one begun last
of all. Spans that are never ended reach to the end of the text. A closing tag with nothing
to close is an error that names its position.

A tag whose name begins with `@` names a **handler**. Its span has no style, but its parameters
are evaluated when it is ended, and it is an error if they cannot be.

The styles of tags are read, and it is an error too if a part of a colour is no number. The name
of a tag is read where it begins its span, and with its parameters it is read when the text is
drawn; `Styled.ofMarkup` does both.

Characters that would move the cursor are left out of the plain text.
-/

namespace NativeFinder

/-- A stretch of text from `start` up to `stop`, and its style. -/
structure Span where
  start : Nat
  stop : Nat
  style : Text
deriving DecidableEq, Inhabited

/-- Plain text with styled spans, and a style for the whole. -/
structure Styled where
  plain : Text
  style : Text := []
  spans : List Span := []
deriving DecidableEq, Inhabited

/-- Why markup cannot be shown. -/
inductive MarkupError where
  | unmatched (body : Text) (position : Nat)
  | nothingToClose (position : Nat)
  /-- The parameters of a handler cannot be evaluated. -/
  | parameters (text : Text)
  /-- A part of a colour is no number. -/
  | colour (error : Numeral.IntError)
deriving DecidableEq

namespace MarkupError

/-- The wording of the errors. What is wrong with parameters is left out. -/
def message : MarkupError → Text
  | unmatched body position => "closing tag '[" ++ body ++ "]' at position " ++
      Text.ofNat position ++ " doesn't match any open tag"
  | nothingToClose position => "closing tag '[/]' at position " ++ Text.ofNat position ++
      " has nothing to close"
  | parameters text => "error parsing " ++ text.quoted
  | colour e => e.message

end MarkupError

namespace Styled

/-- Whether a character would move the cursor: bell, backspace, vertical tab, form feed and
carriage return. -/
def isCursorControl (c : Char) : Bool :=
  c == '\x07' || c == '\x08' || c == '\x0b' || c == '\x0c' || c == '\x0d'

/-- The text without the characters that would move the cursor. -/
def visible (s : Text) : Text := s.filter fun c => !isCursorControl c

/-- A text without spans. -/
def ofText (s : Text) (style : Text := []) : Styled := { plain := visible s, style }

/-! ### Reading markup -/

/-- A tag that begins a span: the style that it names, and its parameters. -/
structure Tag where
  name : Text
  parameters : Option Text
deriving DecidableEq, Inhabited

namespace Tag

/-- The style of the span of a tag. -/
def style (tag : Tag) : Text :=
  match tag.parameters with
  | none => tag.name
  | some parameters => tag.name ++ ' ' :: parameters

/-- Whether a tag names a handler. -/
def isHandler (tag : Tag) : Bool := tag.name.head? == some '@'

/-- The style of the span of a tag that has been closed: the tag of a handler has none. -/
def closedStyle (tag : Tag) : Text := if tag.isHandler then "none" else tag.style

/-- Whether the span of a tag can be ended: the parameters of a handler are evaluated then. -/
def canEnd (tag : Tag) : Bool :=
  !tag.isHandler || tag.parameters.all fun p => p.isEmpty || Markup.areParameters p

end Tag

/-- The canonical form of a style. -/
def readStyle (name : Text) : Except MarkupError Text :=
  (Markup.canonicalStyle name).mapError .colour

/-- The state of the reading: the text so far, the open tags with the last one first, each with
where its span begins, and the spans that have been ended, the last one first. -/
structure Reading where
  plain : Text := []
  openTags : List (Nat × Tag) := []
  spans : List Span := []
deriving Inhabited

namespace Reading

/-- Adds plain text, in which a backslash before a bracket is left out. -/
def append (r : Reading) (s : Text) : Reading :=
  { r with plain := r.plain ++ visible (dropSlashes s) }
where
  /-- Leaves out the backslash before an opening bracket. -/
  dropSlashes : Text → Text
    | '\\' :: '[' :: s => '[' :: dropSlashes s
    | c :: s => c :: dropSlashes s
    | [] => []

/-- Begins a span. -/
def opening (r : Reading) (name : Text) (parameters : Option Text) : Except MarkupError Reading :=
  (readStyle name).map fun name =>
    { r with openTags := (r.plain.length, ⟨name, parameters⟩) :: r.openTags }

/-- Ends the span of a tag. -/
def ending (r : Reading) (opened : Nat × Tag) (rest : List (Nat × Tag)) :
    Except MarkupError Reading :=
  if opened.2.canEnd then
    let span : Span := ⟨opened.1, r.plain.length, opened.2.closedStyle⟩
    .ok { r with openTags := rest, spans := span :: r.spans }
  else .error (.parameters (opened.2.parameters.getD []))

/-- The tags that a closing tag can close, by what follows its slash: those of the style that it
names, or all if it names none. -/
def closable (name : Text) : Except MarkupError (Tag → Bool) :=
  if name.trim = [] then .ok fun _ => true
  else (readStyle name.trim).map fun style tag => tag.name == style

/-- Reads a closing tag: `name` is what follows the slash, `body` the whole tag. -/
def closing (r : Reading) (position : Nat) (name body : Text) : Except MarkupError Reading := do
  let isClosable ← closable name
  match r.openTags.find? fun opened => isClosable opened.2 with
  | some opened => r.ending opened (r.openTags.eraseP fun opened => isClosable opened.2)
  | none =>
    .error (if name.trim = [] then .nothingToClose position else .unmatched body position)

/-- Cuts the body of a tag at its first equals sign. -/
def splitBody (body : Text) : Text × Option Text :=
  match Text.splitFirst? ['='] body with
  | some (name, parameters) => (name, some parameters)
  | none => (body, none)

/-- Reads one token at a position of the markup. -/
def step (r : Reading) (position : Nat) : Markup.Token → Except MarkupError Reading
  | .plain text => .ok (r.append text)
  | .tag slashes body =>
    let r := r.append (List.replicate (slashes / 2) '\\')
    if slashes % 2 = 1 then .ok (r.append ('[' :: body ++ "]"))
    else
      match splitBody body with
      | ('/' :: name, _) => r.closing (position + slashes) name body
      | (name, parameters) => r.opening name parameters

/-- Reads tokens from a position on. -/
def run (r : Reading) (position : Nat) : List Markup.Token → Except MarkupError Reading
  | [] => .ok r
  | token :: rest => do
    let r ← r.step position token
    r.run (position + token.text.length) rest

/-- All spans: those of open tags, which reach to the end of the text, and those that have been
ended, the last one first. -/
def spansToEnd (r : Reading) : List Span :=
  let unended := r.openTags.map fun opened => ⟨opened.1, r.plain.length, opened.2.style⟩
  unended.reverse ++ r.spans

/-- All spans in the order of their beginnings; of spans with one beginning the one that was ended
last comes first. -/
def allSpans (r : Reading) : List Span := r.spansToEnd.mergeSort fun a b => a.start ≤ b.start

/-- The text that has been read, if it can be drawn. -/
def finish (r : Reading) : Except MarkupError Styled := do
  r.spansToEnd.forM fun span => discard (readStyle span.style)
  .ok { plain := r.plain, spans := r.allSpans }

end Reading

/-- Reads markup. A text without any bracket is plain throughout. -/
def ofMarkup (s : Text) : Except MarkupError Styled :=
  if '[' ∈ s then do
    let r ← Reading.run {} 0 (Markup.tokens s)
    r.finish
  else .ok (ofText s)

end Styled

end NativeFinder
