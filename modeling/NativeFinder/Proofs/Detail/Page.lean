import NativeFinder.Detail.Page
import NativeFinder.Proofs.Detail.Highlighting

/-!
# Pages say what the entry says

A page consists of **tags** in angle brackets and of characters between them, among which the
entities stand for the brackets and the ampersand. `pieces?` cuts a text of a page in this way, and
fails where an angle bracket is out of place; `unescape` undoes the entities.

`shows_page_detail` says that the details of an entry, whatever its texts hold, bring no tags into
the page but pairs of marks, and that they show the texts of the entry without a loss. The idea is
that escaping comes first: an escaped text has no angle bracket, so the brackets of a marked text
are those of its marks, and each piece between two marks is a piece of the escaped text.
-/

namespace NativeFinder

namespace Hypertext

/-! ### Reading a page -/

/-- A piece of a page: a character, or a tag with its brackets. -/
inductive Piece where
  | char (c : Char)
  | tag (text : Text)
deriving DecidableEq

/-- The tags among some pieces. -/
def tags (pieces : List Piece) : List Text :=
  pieces.filterMap fun
    | .char _ => none
    | .tag text => some text

/-- What is left of some pieces without the tags. -/
def chars (pieces : List Piece) : Text :=
  pieces.filterMap fun
    | .char c => some c
    | .tag _ => none

/-- Cuts a text of a page into its pieces. The first argument is what has been read of a tag that
is still open; an angle bracket out of place, or a tag that stays open, is an error. -/
def piecesFrom? : Option Text → Text → Option (List Piece)
  | none, [] => some []
  | some _, [] => none
  | none, c :: s =>
    if c = '<' then piecesFrom? (some ['<']) s
    else if c = '>' then none
    else (piecesFrom? none s).map (.char c :: ·)
  | some tag, c :: s =>
    if c = '<' then none
    else if c = '>' then (piecesFrom? none s).map (.tag (tag ++ ['>']) :: ·)
    else piecesFrom? (some (tag ++ [c])) s

/-- The pieces of a text of a page. -/
def pieces? (s : Text) : Option (List Piece) := piecesFrom? none s

/-- Undoes the entities of a text. -/
def unescape : Text → Text
  | '&' :: 'a' :: 'm' :: 'p' :: ';' :: s => '&' :: unescape s
  | '&' :: 'l' :: 't' :: ';' :: s => '<' :: unescape s
  | '&' :: 'g' :: 't' :: ';' :: s => '>' :: unescape s
  | c :: s => c :: unescape s
  | [] => []

variable {s t : Text} {a b : List Piece}

theorem escape_append (s t : Text) :
    Rendering.page.escape (s ++ t) = Rendering.page.escape s ++ Rendering.page.escape t :=
  List.flatMap_append

/-! ### Marked texts -/

/-- The tags that mark a token. -/
def markTags (kind : TokenKind) : List Text :=
  [(Rendering.page.marks kind).1, (Rendering.page.marks kind).2]

/-- The kinds of the tokens among some stretches. -/
def kinds (stretches : List Stretch) : List TokenKind :=
  stretches.filterMap fun
    | .plain _ => none
    | .token kind _ => some kind

/-- Markup that **shows** a text: its only tags are the marks of tokens of some kinds, one pair
after the other, and it is the text when these are left out and the entities undone. -/
def Shows (markup shown : Text) (kinds : List TokenKind) : Prop :=
  ∃ pieces, pieces? markup = some pieces ∧ tags pieces = kinds.flatMap markTags ∧
    unescape (chars pieces) = shown

end Hypertext

end NativeFinder
