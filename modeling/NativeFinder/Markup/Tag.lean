import NativeFinder.Text.Basic

/-!
# Tags in console markup

Console markup is text with **tags** in brackets, such as `[bold]` and `[/bold]`. A bracket
opens a tag only before a small letter or one of `#`, `/` and `@`, and the tag runs to the
next closing bracket, with no opening one between. Backslashes before a tag belong to it:
each pair stands for one backslash, and an odd one makes the tag ordinary text.

`tokens` cuts a markup text into its tags, each with the backslashes before it, and the
plain text between them. `escape` adds the backslashes that keep a text from being read as
tags.
-/

namespace NativeFinder

namespace Markup

/-- A piece of markup: plain text, or a tag with the number of backslashes before it. -/
inductive Token where
  | plain (text : Text)
  | tag (slashes : Nat) (body : Text)
deriving DecidableEq, Inhabited

/-- The markup text of a token. -/
def Token.text : Token → Text
  | plain text => text
  | tag slashes body => List.replicate slashes '\\' ++ '[' :: body ++ "]"

/-- Whether a character may stand behind the bracket that opens a tag. -/
def opensTag (c : Char) : Bool :=
  ('a' ≤ c && c ≤ 'z') || c == '#' || c == '/' || c == '@'

/-- Reads the inside of a bracket up to the closing one; an opening one is in the way. -/
def body? : Text → Option (Text × Text)
  | [] => none
  | ']' :: s => some ([], s)
  | '[' :: _ => none
  | c :: s => (body? s).map fun (body, rest) => (c :: body, rest)

/-- Reads a tag, with the backslashes before it, at the start of a text. -/
def tag? : Text → Option (Nat × Text × Text)
  | '\\' :: s => (tag? s).map fun (slashes, found) => (slashes + 1, found)
  | '[' :: c :: s =>
    if opensTag c then (body? s).map fun (body, rest) => (0, c :: body, rest) else none
  | _ => none

/-- What a bracket holds, its closing bracket and the rest make up the text. -/
theorem eq_append_of_body? {s body rest : Text} (h : body? s = some (body, rest)) :
    s = body ++ ']' :: rest := by
  fun_induction body? s generalizing body with
  | case1 => simp at h
  | case2 s =>
    simp only [Option.some.injEq, Prod.mk.injEq] at h
    simp [← h.1, ← h.2]
  | case3 => simp at h
  | case4 c s _ _ ih =>
    obtain ⟨⟨b, r⟩, hs, heq⟩ := Option.map_eq_some_iff.mp h
    simp only [Prod.mk.injEq] at heq
    obtain ⟨rfl, rfl⟩ := heq
    simp [ih hs]

/-- A tag is what its text starts with. -/
theorem eq_append_of_tag? {s body rest : Text} {slashes : Nat}
    (h : tag? s = some (slashes, body, rest)) : s = (Token.tag slashes body).text ++ rest := by
  fun_induction tag? s generalizing slashes with
  | case1 s ih =>
    obtain ⟨⟨k, b, r⟩, hs, heq⟩ := Option.map_eq_some_iff.mp h
    simp only [Prod.mk.injEq] at heq
    obtain ⟨rfl, rfl, rfl⟩ := heq
    simp [ih hs, Token.text, List.replicate_succ]
  | case2 c s hc =>
    obtain ⟨⟨b, r⟩, hs, heq⟩ := Option.map_eq_some_iff.mp h
    simp only [Prod.mk.injEq] at heq
    obtain ⟨rfl, rfl, rfl⟩ := heq
    simp [eq_append_of_body? hs, Token.text]
  | case3 => simp at h
  | case4 => simp at h

/-- Puts a character in front of the plain text that tokens start with. -/
def consPlain (c : Char) : List Token → List Token
  | .plain text :: rest => .plain (c :: text) :: rest
  | tokens => .plain [c] :: tokens

/-- The tags of a markup text and the plain text between them. -/
def tokens (s : Text) : List Token :=
  match s with
  | [] => []
  | c :: t =>
    match h : tag? (c :: t) with
    | some (slashes, body, rest) =>
      have : rest.length < (c :: t).length := by
        rw [eq_append_of_tag? h]
        simp only [Token.text, List.length_append, List.length_cons]
        omega
      .tag slashes body :: tokens rest
    | none => consPlain c (tokens t)
termination_by s.length
decreasing_by
  · exact this
  · exact Nat.lt_succ_self _

/-- The text of tokens with a plain character in front. -/
theorem flatMap_text_consPlain (c : Char) (ts : List Token) :
    (consPlain c ts).flatMap Token.text = c :: ts.flatMap Token.text := by
  unfold consPlain
  split <;> simp [Token.text]

/-- The tokens of a text make it up. -/
theorem flatMap_text_tokens (s : Text) : (tokens s).flatMap Token.text = s := by
  fun_induction tokens s with
  | case1 => rfl
  | case2 c t slashes body rest h _ ih =>
    rw [List.flatMap_cons, ih, ← eq_append_of_tag? h]
  | case3 c t _ ih => rw [flatMap_text_consPlain, ih]

/-! ### Escaping -/

/-- A token in a form that is read as text: a tag gets each of its backslashes twice and one
more. -/
def Token.escaped : Token → Text
  | plain text => text
  | tag slashes body => (Token.tag (2 * slashes + 1) body).text

/-- Adds a backslash to a text that ends in a lone one, so that it cannot reach what follows. -/
def closeSlash (s : Text) : Text :=
  match s.reverse with
  | '\\' :: '\\' :: _ => s
  | '\\' :: _ => s ++ ['\\']
  | _ => s

/-- The markup that stands for a text without tags. -/
def escape (s : Text) : Text := closeSlash ((tokens s).flatMap Token.escaped)

end Markup

end NativeFinder
