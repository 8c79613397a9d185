import NativeFinder.Entry
import NativeFinder.Markup.Tag

/-!
# Details of an entry

The detail view of an entry shows its name, its signature and its description, with three
kinds of **tokens** highlighted: the name of the function in front of the signature, the
primitive types in the rest of it, and the annotations of the description, such as `@param`.

There are two renderings, one for the console and one for a page. A text is first escaped for
the rendering and then cut into tokens, and each token is put between its marks.
-/

namespace NativeFinder

/-- Where details are shown. -/
inductive Rendering where
  | console
  | page
deriving DecidableEq, Inhabited

/-- The kinds of tokens that are highlighted. -/
inductive TokenKind where
  | function
  | primitive
  | docTag
deriving DecidableEq, Inhabited

/-- A stretch of a text, highlighted or not. -/
inductive Stretch where
  | plain (text : Text)
  | token (kind : TokenKind) (text : Text)
deriving DecidableEq, Inhabited

namespace Stretch

/-- The text of a stretch. -/
def text : Stretch → Text
  | plain s => s
  | token _ s => s

end Stretch

/-! ### Tokens -/

namespace Highlight

/-- The types of the language that every declaration knows. -/
def primitiveTypes : List Text :=
  ["integer", "real", "boolean", "string", "unit", "player", "force", "nothing"]

/-- Cuts off the name of the function: the leading word, if a parenthesis follows it. -/
def splitFunction (s : Text) : List Stretch × Text :=
  match Text.takeWord? s with
  | some (word, '(' :: rest) => ([.token .function word], '(' :: rest)
  | _ => ([], s)

/-- The stretches of a text in which whole words are highlighted if they are primitive
types. -/
def primitives (s : Text) : List Stretch :=
  match s with
  | [] => []
  | c :: t =>
    match hw : Text.takeWord? (c :: t) with
    | some (word, rest) =>
      have : rest.length < (c :: t).length := Text.length_lt_of_takeRun? hw
      (if word ∈ primitiveTypes then .token .primitive word else .plain word) :: primitives rest
    | none => .plain [c] :: primitives t
termination_by s.length
decreasing_by
  · exact this
  · exact Nat.lt_succ_self _

/-- The stretches of a line in which annotations are highlighted: an at sign and the word
behind it. -/
def docTags (s : Text) : List Stretch :=
  match s with
  | [] => []
  | c :: t =>
    if c = '@' then
      match hw : Text.takeWord? t with
      | some (word, rest) =>
        have : rest.length < (c :: t).length :=
          Nat.lt_succ_of_lt (Text.length_lt_of_takeRun? hw)
        .token .docTag ('@' :: word) :: docTags rest
      | none => .plain [c] :: docTags t
    else .plain [c] :: docTags t
termination_by s.length
decreasing_by
  · exact this
  · exact Nat.lt_succ_self _
  · exact Nat.lt_succ_self _

/-- The stretches of a signature. -/
def signature (s : Text) : List Stretch :=
  let (head, rest) := splitFunction s
  head ++ primitives rest

end Highlight

/-! ### Rendering -/

namespace Rendering

/-- The name of the rendering. -/
def name : Rendering → Text
  | console => "rich"
  | page => "html"

/-- A character of a page, those that would begin a tag or an entity replaced. -/
def pageChar (c : Char) : Text :=
  if c = '&' then "&amp;" else if c = '<' then "&lt;" else if c = '>' then "&gt;" else [c]

/-- A text in the form that is shown as the text itself. -/
def escape : Rendering → Text → Text
  | console, s => Markup.escape s
  | page, s => s.flatMap pageChar

/-- The marks before and after a token. -/
def marks : Rendering → TokenKind → Text × Text
  | console, .function => ("[bold cyan]", "[/bold cyan]")
  | console, .primitive => ("[green]", "[/green]")
  | console, .docTag => ("[magenta]", "[/magenta]")
  | page, .function => ("<span class=\"function\">", "</span>")
  | page, .primitive => ("<span class=\"type\">", "</span>")
  | page, .docTag => ("<span class=\"annotation\">", "</span>")

/-- A stretch between its marks. -/
def mark (r : Rendering) : Stretch → Text
  | .plain s => s
  | .token kind s => (r.marks kind).1 ++ s ++ (r.marks kind).2

/-- Stretches in order, each between its marks. -/
def markAll (r : Rendering) (stretches : List Stretch) : Text := stretches.flatMap r.mark

/-- A signature with its tokens marked. -/
def signature (r : Rendering) (s : Text) : Text := r.markAll (Highlight.signature (r.escape s))

/-- The lines of a description that are shown: without blanks at their ends, and without the
lines that only open or close the comment. -/
def shownLines (description : Text) : List Text :=
  ((Text.lines description).map Text.trimEnd).filter fun line =>
    line != ("/**" : Text) && line != ("*/" : Text)

/-- A description with its tokens marked. -/
def description (r : Rendering) (s : Text) : Text :=
  Text.join ['\n']
    ((shownLines s).map fun line => r.markAll (Highlight.docTags (r.escape line)))

end Rendering

/-- The rendered details of an entry. -/
structure Detail where
  title : Text
  signature : Text
  description : Text
  /-- The name of the rendering. -/
  style : Text
deriving DecidableEq, Inhabited

/-- The details of an entry in a rendering. -/
def Rendering.detail (r : Rendering) (e : Entry) : Detail where
  title := r.escape e.name
  signature := r.signature e.signature
  description := r.description e.description
  style := r.name

end NativeFinder
