import NativeFinder.Declaration.Basic

/-!
# Documented blocks of a text

A text of declarations is read from left to right as gap, doc comment, gap, doc comment and
so on. A doc comment runs from the first `/**` to the first `*/` after it; directly after
it there may be a declaration, and then the two are a **block**. `pieces` is this reading:
each piece holds the gap before a comment, the comment, and the declaration if there is one,
and the reading goes on behind it. It ends where no further comment is opened, or where the
next one is never closed.
-/

namespace NativeFinder

open Text

/-- One step of the reading of a text. -/
structure Piece where
  /-- What stands before the comment. -/
  gap : Text
  /-- The doc comment, with its marks. -/
  comment : Text
  /-- The declaration directly after the comment. -/
  declaration : Option Declaration
deriving DecidableEq, Inhabited

namespace Piece

/-- Opens a doc comment. -/
def opening : Text := "/**"

/-- Closes a doc comment. -/
def closing : Text := "*/"

/-- The comment together with its declaration. -/
def item (p : Piece) : Text := p.comment ++ (p.declaration.map Declaration.text).getD []

/-- Reads the declaration after a comment, if there is one, and gives the rest. -/
def afterComment (s : Text) : Option Declaration × Text :=
  match Declaration.parse? s with
  | some (declaration, rest) => (some declaration, rest)
  | none => (none, s)

/-- Reads the next piece of a text and gives the rest; `none` if no doc comment follows. -/
def next? (s : Text) : Option (Piece × Text) := do
  let (gap, s) ← splitFirst? opening s
  let (body, s) ← splitFirst? closing s
  let (declaration, rest) := afterComment s
  some (⟨gap, opening ++ body ++ closing, declaration⟩, rest)

end Piece

/-! ### The reading consumes text -/

namespace Piece

/-- A piece and the rest make up the text that it was read from. -/
theorem eq_append_of_next? {s rest : Text} {p : Piece} (h : next? s = some (p, rest)) :
    s = p.gap ++ p.item ++ rest := by
  simp only [next?, Option.bind_eq_bind, Option.bind_eq_some_iff, Prod.exists,
    Option.some.injEq, Prod.mk.injEq] at h
  obtain ⟨gap, s₁, h₁, body, s₂, h₂, rfl, rfl⟩ := h
  rw [eq_append_of_splitFirst? h₁, eq_append_of_splitFirst? h₂]
  simp only [item, afterComment]
  split
  · rename_i d r hd
    simp [Declaration.eq_append_of_parse? hd]
  · simp

/-- The rest of a text after a piece is shorter. -/
theorem length_lt_of_next? {s rest : Text} {p : Piece} (h : next? s = some (p, rest)) :
    rest.length < s.length := by
  have heq := eq_append_of_next? h
  simp only [next?, Option.bind_eq_bind, Option.bind_eq_some_iff, Prod.exists,
    Option.some.injEq, Prod.mk.injEq] at h
  obtain ⟨gap, s₁, h₁, body, s₂, h₂, rfl, rfl⟩ := h
  rw [heq]
  simp [item, opening]
  omega

end Piece

/-- The pieces of a text from left to right, and the rest after the last one. -/
def pieces (s : Text) : List Piece × Text :=
  match h : Piece.next? s with
  | none => ([], s)
  | some (piece, rest) =>
    have := Piece.length_lt_of_next? h
    let (more, last) := pieces rest
    (piece :: more, last)
termination_by s.length

/-! ### Blocks -/

/-- A doc comment with the declaration that it documents. -/
structure Block where
  comment : Text
  declaration : Declaration
deriving DecidableEq, Inhabited

namespace Block

/-- The text of a block. -/
def text (b : Block) : Text := b.comment ++ b.declaration.text

end Block

/-- The block of a piece, if its comment documents a declaration. -/
def Piece.block? (p : Piece) : Option Block := p.declaration.map fun d => ⟨p.comment, d⟩

/-- The blocks of a text in order. -/
def blocks (s : Text) : List Block := (pieces s).1.filterMap Piece.block?

end NativeFinder
