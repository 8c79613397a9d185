import NativeFinder.Markup.Styled

/-!
# Emoji codes in console markup

A console may know emoji by name. Between the tags of markup, a **code** such as `:smile:`, a name
between two colons with no blank in it, then stands for the emoji of that name; the name is read in
small letters, and `-emoji` or `-text` at its end asks for a variant. A code of a name that is not
known is plain text.

Which names there are is a matter of the console: they are an `EmojiTable`, and
`Styled.ofMarkupWith` reads markup with one. `Styled.ofMarkup` is the reading of a console without
any.
-/

namespace NativeFinder

namespace Markup

/-- The emoji that are known, each by its name. -/
abbrev EmojiTable := List (Text × Text)

/-- A piece of plain text: a character, or a code by what stands between its colons. -/
inductive EmojiPiece where
  | char (c : Char)
  | code (body : Text)
deriving DecidableEq

/-- Whether a character may stand between the colons of a code. -/
def isCodeChar (c : Char) : Bool := c != ':' && !Character.isBlank c

/-- Reads a code at the start of a text. -/
def emojiCode? : Text → Option (Text × Text)
  | ':' :: s =>
    match s.dropWhile isCodeChar with
    | ':' :: rest => some (s.takeWhile isCodeChar, rest)
    | _ => none
  | _ => none

/-- A code is what its text starts with. -/
theorem eq_append_of_emojiCode? {s body rest : Text} (h : emojiCode? s = some (body, rest)) :
    s = ':' :: (body ++ ':' :: rest) := by
  unfold emojiCode? at h
  split at h
  · rename_i s
    split at h
    · rename_i rest' hrest
      obtain ⟨rfl, rfl⟩ : s.takeWhile isCodeChar = body ∧ rest' = rest := by simpa using h
      rw [← hrest, List.takeWhile_append_dropWhile]
    · cases h
  · cases h

/-- What follows a code is shorter than its text. -/
theorem length_lt_of_emojiCode? {s body rest : Text} (h : emojiCode? s = some (body, rest)) :
    rest.length < s.length := by
  rw [eq_append_of_emojiCode? h]
  simp only [List.length_cons, List.length_append]
  omega

/-- The pieces of a plain text. -/
def emojiPieces (s : Text) : List EmojiPiece :=
  match s with
  | [] => []
  | c :: t =>
    match h : emojiCode? (c :: t) with
    | some (body, rest) =>
      have : rest.length < (c :: t).length := length_lt_of_emojiCode? h
      .code body :: emojiPieces rest
    | none => .char c :: emojiPieces t
termination_by s.length
decreasing_by
  · exact this
  · exact Nat.lt_succ_self _

/-- The ends of a code that ask for a variant, and the characters that choose it. -/
def emojiVariants : List (Text × Text) := [("-emoji", "\uFE0F"), ("-text", "\uFE0E")]

namespace EmojiTable

/-- The emoji that a code stands for, if its name is known. -/
def emoji? (table : EmojiTable) (body : Text) : Option Text :=
  match emojiVariants.find? fun v => v.1.isSuffixOf body with
  | some (ending, selector) =>
    (table.lookup (Text.lower (body.take (body.length - ending.length)))).map (· ++ selector)
  | none => table.lookup body.lower

/-- What is shown of a piece. -/
def shown (table : EmojiTable) : EmojiPiece → Text
  | .char c => [c]
  | .code body => (table.emoji? body).getD (':' :: (body ++ [':']))

/-- A plain text with its known codes replaced. -/
def replaceCodes (table : EmojiTable) (s : Text) : Text := (emojiPieces s).flatMap table.shown

end EmojiTable

end Markup

namespace Styled

namespace Reading

/-- Adds plain text, in which codes are replaced. -/
def appendWith (table : Markup.EmojiTable) (r : Reading) (s : Text) : Reading :=
  { r with plain := r.plain ++ visible (table.replaceCodes (append.dropSlashes s)) }

/-- Reads one token at a position of the markup. Codes are replaced in plain text and in brackets
that are read as plain text. -/
def stepWith (table : Markup.EmojiTable) (r : Reading) (position : Nat) :
    Markup.Token → Except MarkupError Reading
  | .plain text => .ok (r.appendWith table text)
  | .tag slashes body =>
    if slashes % 2 = 1 then
      .ok ((r.append (List.replicate (slashes / 2) '\\')).appendWith table ('[' :: body ++ "]"))
    else r.step position (.tag slashes body)

/-- Reads tokens from a position on. -/
def runWith (table : Markup.EmojiTable) (r : Reading) (position : Nat) :
    List Markup.Token → Except MarkupError Reading
  | [] => .ok r
  | token :: rest => do
    let r ← r.stepWith table position token
    r.runWith table (position + token.text.length) rest

end Reading

/-- Reads markup on a console that knows some emoji. -/
def ofMarkupWith (table : Markup.EmojiTable) (s : Text) : Except MarkupError Styled :=
  if '[' ∈ s then do
    let r ← Reading.runWith table {} 0 (Markup.tokens s)
    r.finish
  else .ok (ofText (table.replaceCodes s))

end Styled

end NativeFinder
