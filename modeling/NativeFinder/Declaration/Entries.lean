import NativeFinder.Declaration.Block
import NativeFinder.Entry

/-!
# The entries of a text

Every block of a text gives one entry, in order. The name, the parameters and the return
type are looked up **in the text of the declaration**, each by itself: the word after the
first `native` that has one, what stands between the first `takes` and the next `returns`
that fit together, and the word after the first `returns` that has one. The keywords are
found wherever they occur, also inside longer words.
-/

namespace NativeFinder

open Text

namespace Declaration

/-- What `f` reads at the first place of a text where it reads anything. -/
def firstMatch? {α : Type} (f : Text → Option α) : Text → Option α
  | [] => f []
  | c :: s => f (c :: s) <|> firstMatch? f s

/-- Reads `keyword`, blanks and a word, and gives the word. -/
def wordAt? (keyword s : Text) : Option Text := do
  let s ← dropPrefix? keyword s
  let (_, s) ← takeBlanks? s
  let (word, _) ← takeWord? s
  some word

/-- What stands before the first place where blanks lead to `returns`. -/
def untilReturns? : Text → Option Text
  | [] => none
  | c :: s =>
    match takeBlanks? (c :: s) with
    | some (_, rest) =>
      if returnsWord.isPrefixOf rest then some [] else (untilReturns? s).map (c :: ·)
    | none => (untilReturns? s).map (c :: ·)

/-- Reads `takes` and blanks, and gives what stands before `returns`. Where `returns` follows
the blanks at once and there is no later one, two blanks enclose an empty text. -/
def parametersAt? (s : Text) : Option Text := do
  let s ← dropPrefix? takesWord s
  let (blanks, s) ← takeBlanks? s
  match untilReturns? s with
  | some parameters => some parameters
  | none => if 2 ≤ blanks.length && returnsWord.isPrefixOf s then some [] else none

/-- The name in the text of a declaration. -/
def nameIn? (s : Text) : Option Text := firstMatch? (wordAt? nativeWord) s

/-- The parameters in the text of a declaration. -/
def parametersIn? (s : Text) : Option Text := firstMatch? parametersAt? s

/-- The return type in the text of a declaration. -/
def returnTypeIn? (s : Text) : Option Text := firstMatch? (wordAt? returnsWord) s

end Declaration

/-- The entry of a block. -/
def Block.entry (b : Block) : Entry :=
  let s := b.declaration.text
  Entry.build (Declaration.nameIn? s) (Declaration.parametersIn? s)
    (Declaration.returnTypeIn? s) b.text

namespace Entry

/-- The entries documented in a text, in the order of the text. -/
def ofText (s : Text) : List Entry := (blocks s).map Block.entry

/-- The entries documented in several texts, which are read as one text with a line break
between neighbours. -/
def ofTexts (texts : List Text) : List Entry := ofText (Text.join ['\n'] texts)

end Entry

end NativeFinder
