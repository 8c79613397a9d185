import NativeFinder.Declaration.Entries
import NativeFinder.Proofs.Declaration.Grammar

/-!
# The reading of a text

`Reading` states in terms of the text alone what it means to read documented declarations from
left to right: gap, doc comment, perhaps a declaration, and so on, until no further comment is
opened and closed. `pieces_reading` says that `pieces` is such a reading, that its parts make up
the text, and that the entries are the blocks of it, word for word and in order.

The step lemma is `Piece.next?_eq_some_iff`, one step of `pieces`; everything about whole
texts is an induction over the steps. `blocks_append_of_parse?` is the step read from the other
side: a gap, a comment and a declaration that is read as it is are the first block of a text.
-/

namespace NativeFinder

open Text

namespace Piece

/-! ### One step -/

theorem opening_ne_nil : opening ≠ [] := by decide

theorem closing_ne_nil : closing ≠ [] := by decide

theorem unbordered_opening : Unbordered opening := by decide

theorem unbordered_closing : Unbordered closing := by decide

/-- A **doc comment** begins with `/**` and ends with the first `*/` after that. -/
def IsDocComment (s : Text) : Prop := ∃ body, s = opening ++ body ++ closing ∧ ¬ closing <:+: body

/-- The text of a piece. -/
def text (p : Piece) : Text := p.gap ++ p.item

/-- What a piece says about the text: `after` is what follows its comment, and `rest` is what
is left when the piece has been read. -/
structure Reads (p : Piece) (after rest : Text) : Prop where
  /-- No comment is opened in the gap. -/
  gap : ¬ opening <:+: p.gap
  comment : IsDocComment p.comment
  /-- There is a declaration exactly if some start of what follows the comment is one. -/
  isSome_iff : p.declaration.isSome ↔ Declaration.DeclarationAt after
  /-- The declaration is such a start, up to the end of a word. -/
  block : ∀ d, p.declaration = some d →
    d.WellFormed ∧ after = d.text ++ rest ∧ Stops Character.isWord rest
  /-- Without a declaration the reading goes on right behind the comment. -/
  skipped : p.declaration = none → after = rest

/-- The declaration after a comment is the one that starts what follows, if there is any. -/
theorem afterComment_eq_iff {after rest : Text} {d : Option Declaration} :
    afterComment after = (d, rest) ↔
      (∃ e, d = some e ∧ Declaration.parse? after = some (e, rest)) ∨
      (d = none ∧ after = rest ∧ Declaration.parse? after = none) := by
  unfold afterComment
  split
  · rename_i e r hp
    simp only [Prod.mk.injEq, hp, Option.some.injEq, reduceCtorEq, and_false, or_false]
    constructor
    · rintro ⟨rfl, rfl⟩
      exact ⟨e, rfl, rfl, rfl⟩
    · rintro ⟨e', rfl, rfl, rfl⟩
      exact ⟨rfl, rfl⟩
  · rename_i hp
    simp only [Prod.mk.injEq, hp, reduceCtorEq, and_false, exists_false, false_or, and_true]
    exact and_congr_left fun _ => eq_comm

/-- **One step of the reading**, by its parts. -/
theorem next?_eq_some_iff {s rest : Text} {p : Piece} :
    next? s = some (p, rest) ↔
      ∃ after, s = p.gap ++ p.comment ++ after ∧ ¬ opening <:+: p.gap ∧ IsDocComment p.comment ∧
        afterComment after = (p.declaration, rest) := by
  simp only [next?, Option.bind_eq_bind, Option.bind_eq_some_iff, Prod.exists,
    Option.some.injEq, Prod.mk.injEq, splitFirst?_eq_some_iff opening_ne_nil unbordered_opening,
    splitFirst?_eq_some_iff closing_ne_nil unbordered_closing]
  constructor
  · rintro ⟨gap, s₁, ⟨rfl, hgap⟩, body, after, ⟨rfl, hbody⟩, rfl, rfl⟩
    exact ⟨after, by simp, hgap, ⟨body, rfl, hbody⟩, rfl⟩
  · rintro ⟨after, rfl, hgap, ⟨body, hcomment, hbody⟩, hafter⟩
    refine ⟨p.gap, body ++ closing ++ after, ⟨by simp [hcomment], hgap⟩, body, after,
      ⟨rfl, hbody⟩, ?_, by rw [hafter]⟩
    rw [hafter, ← hcomment]

/-- A step that is made says what a piece says. -/
theorem reads_of_next? {s rest : Text} {p : Piece} (h : next? s = some (p, rest)) :
    ∃ after, s = p.gap ++ p.comment ++ after ∧ p.Reads after rest := by
  obtain ⟨after, hs, hgap, hcomment, hafter⟩ := next?_eq_some_iff.mp h
  refine ⟨after, hs, ?_⟩
  rcases afterComment_eq_iff.mp hafter with ⟨e, he, hp⟩ | ⟨he, rfl, hp⟩
  · -- a declaration was read
    obtain ⟨heq, hwf, hrest, -⟩ := Declaration.parse?_eq_some_iff.mp hp
    refine ⟨hgap, hcomment, ?_, fun d hd => ?_, fun hd => ?_⟩
    · rw [he, ← Declaration.parse?_isSome_iff, hp, Option.isSome_some, Option.isSome_some]
    · obtain rfl : e = d := by simpa [he] using hd
      exact ⟨hwf, heq, hrest⟩
    · simp [he] at hd
  · -- the comment was skipped
    refine ⟨hgap, hcomment, ?_, fun d hd => ?_, fun _ => rfl⟩
    · rw [he, ← Declaration.parse?_isSome_iff, hp, Option.isSome_none, Option.isSome_none]
    · simp [he] at hd

/-- The declaration of a step has its form, and it is of one of the two kinds. -/
theorem wellFormed_of_next? {s rest : Text} {p : Piece} {d : Declaration}
    (h : next? s = some (p, rest)) (hp : p.declaration = some d) :
    d.WellFormed ∧ Stops Character.isWord rest ∧
      (d.IsClosed ∨ d.IsOpen ∧ ¬ Declaration.HasClosing (d.ending ++ rest)) := by
  obtain ⟨after, -, -, -, hafter⟩ := next?_eq_some_iff.mp h
  rw [hp, afterComment_eq_iff] at hafter
  obtain ⟨e, hde, hread⟩ := hafter.resolve_right (by simp)
  obtain rfl : d = e := Option.some.inj hde
  exact (Declaration.parse?_eq_some_iff.mp hread).2

/-- Where a declaration without parameters was read, it is open, and no closing follows from its
`returns` on. -/
theorem isOpen_of_next? {s rest : Text} {p : Piece} {d : Declaration}
    (h : next? s = some (p, rest)) (hp : p.declaration = some d) (hd : d.parameters = []) :
    d.IsOpen ∧ ¬ Declaration.HasClosing (d.ending ++ rest) :=
  (wellFormed_of_next? h hp).2.2.resolve_left fun hc => hc.ne_nil hd

/-- A text in which no doc comment follows: none is opened, or the first one that is opened is
never closed. -/
def Uncommented (s : Text) : Prop :=
  ¬ opening <:+: s ∨
    ∃ gap rest, s = gap ++ opening ++ rest ∧ ¬ opening <:+: gap ∧ ¬ closing <:+: rest

/-- No step is made exactly where no doc comment follows. -/
theorem next?_eq_none_iff {s : Text} : next? s = none ↔ Uncommented s := by
  cases hs : splitFirst? opening s with
  | none =>
    have hnot := (splitFirst?_eq_none_iff opening_ne_nil).mp hs
    simp [next?, hs, Uncommented, hnot]
  | some cut =>
    obtain ⟨gap, s₁⟩ := cut
    obtain ⟨heq, hgap⟩ := (splitFirst?_eq_some_iff opening_ne_nil unbordered_opening).mp hs
    have hnone : next? s = none ↔ splitFirst? closing s₁ = none := by
      cases hc : splitFirst? closing s₁ <;> simp [next?, hs, hc]
    rw [hnone, splitFirst?_eq_none_iff closing_ne_nil]
    constructor
    · intro hnot
      exact .inr ⟨gap, s₁, heq, hgap, hnot⟩
    · rintro (hnot | ⟨gap', rest, heq', hgap', hrest⟩)
      · exact absurd ⟨gap, s₁, heq.symm⟩ hnot
      · have hs' := (splitFirst?_eq_some_iff opening_ne_nil unbordered_opening).mpr ⟨heq', hgap'⟩
        obtain ⟨-, rfl⟩ : gap = gap' ∧ s₁ = rest := by simpa [hs] using hs'
        exact hrest

end Piece

/-! ### Whole texts -/

/-- **The reading of a text** from left to right: pieces, and the rest after the last one. -/
inductive Reading : Text → List Piece → Text → Prop
  /-- The reading ends where no doc comment follows. -/
  | done {s : Text} (h : Piece.Uncommented s) : Reading s [] s
  /-- A piece is read, and the reading goes on behind it. -/
  | piece {p : Piece} {after rest last : Text} {ps : List Piece} (h : p.Reads after rest)
      (more : Reading rest ps last) : Reading (p.gap ++ p.comment ++ after) (p :: ps) last

/-- Where no step is made, the whole text is the rest. -/
theorem pieces_of_next?_eq_none {s : Text} (h : Piece.next? s = none) : pieces s = ([], s) := by
  rw [pieces]
  split
  · rfl
  · rename_i hp
    simp [h] at hp

/-- A step is made, and the pieces of the rest follow. -/
theorem pieces_of_next?_eq_some {s rest : Text} {p : Piece} (h : Piece.next? s = some (p, rest)) :
    pieces s = (p :: (pieces rest).1, (pieces rest).2) := by
  rw [pieces]
  split
  · rename_i hp
    simp [h] at hp
  · rename_i p' rest' hp
    obtain ⟨rfl, rfl⟩ : p = p' ∧ rest = rest' := by simpa [h] using hp
    rfl

/-- **Induction over the steps of the reading.** -/
theorem pieces_induction {motive : Text → Prop}
    (done : ∀ s, Piece.next? s = none → motive s)
    (step : ∀ s p rest, Piece.next? s = some (p, rest) → motive rest → motive s) (s : Text) :
    motive s := by
  induction hn : s.length using Nat.strong_induction_on generalizing s with
  | _ n ih =>
    cases h : Piece.next? s with
    | none => exact done s h
    | some found =>
      have hlt := Piece.length_lt_of_next? h
      exact step s found.1 found.2 h (ih found.2.length (by omega) found.2 rfl)

/-- The pieces of a text are a reading of it. -/
theorem reading_pieces (s : Text) : Reading s (pieces s).1 (pieces s).2 := by
  induction s using pieces_induction with
  | done s h =>
    rw [pieces_of_next?_eq_none h]
    exact .done (Piece.next?_eq_none_iff.mp h)
  | step s p rest h ih =>
    obtain ⟨after, hs, hp⟩ := Piece.reads_of_next? h
    rw [pieces_of_next?_eq_some h]
    subst hs
    exact .piece hp ih

/-- The pieces and the rest make up the text. -/
theorem eq_flatMap_pieces (s : Text) : s = (pieces s).1.flatMap Piece.text ++ (pieces s).2 := by
  induction s using pieces_induction with
  | done s h => simp [pieces_of_next?_eq_none h]
  | step s p rest h ih =>
    rw [pieces_of_next?_eq_some h, List.flatMap_cons, List.append_assoc, ← ih]
    exact Piece.eq_append_of_next? h

/-! ### Blocks -/

theorem blocks_of_next?_eq_none {s : Text} (h : Piece.next? s = none) : blocks s = [] := by
  rw [blocks, pieces_of_next?_eq_none h]
  rfl

/-- A piece without a declaration adds no block. -/
theorem blocks_of_skipped {s rest : Text} {p : Piece} (h : Piece.next? s = some (p, rest))
    (hd : p.declaration = none) : blocks s = blocks rest := by
  rw [blocks, pieces_of_next?_eq_some h, List.filterMap_cons_none (by simp [Piece.block?, hd])]
  rfl

/-- A piece with a declaration is the next block. -/
theorem blocks_of_block {s rest : Text} {p : Piece} {d : Declaration}
    (h : Piece.next? s = some (p, rest)) (hd : p.declaration = some d) :
    blocks s = ⟨p.comment, d⟩ :: blocks rest := by
  rw [blocks, pieces_of_next?_eq_some h,
    List.filterMap_cons_some (b := ⟨p.comment, d⟩) (by simp [Piece.block?, hd])]
  rfl

/-- Every block comes of a step of the reading. -/
theorem exists_next?_of_mem_blocks {s : Text} {b : Block} (h : b ∈ blocks s) :
    ∃ s' p rest, Piece.next? s' = some (p, rest) ∧ p.comment = b.comment ∧
      p.declaration = some b.declaration := by
  induction s using pieces_induction with
  | done s hnext => simp [blocks_of_next?_eq_none hnext] at h
  | step s p rest hnext ih =>
    cases hd : p.declaration with
    | none =>
      rw [blocks_of_skipped hnext hd] at h
      exact ih h
    | some d =>
      rw [blocks_of_block hnext hd] at h
      rcases List.mem_cons.mp h with rfl | h
      · exact ⟨s, p, rest, hnext, rfl, hd⟩
      · exact ih h

/-- The declaration of a block has its form, and it is of one of the two kinds. -/
theorem declaration_of_mem_blocks {s : Text} {b : Block} (h : b ∈ blocks s) :
    b.declaration.WellFormed ∧ (b.declaration.IsClosed ∨ b.declaration.IsOpen) := by
  obtain ⟨_, p, _, hnext, -, hd⟩ := exists_next?_of_mem_blocks h
  obtain ⟨hwf, -, hkind⟩ := Piece.wellFormed_of_next? hnext hd
  exact ⟨hwf, hkind.imp_right And.left⟩

theorem isDocComment_of_mem_blocks {s : Text} {b : Block} (h : b ∈ blocks s) :
    Piece.IsDocComment b.comment := by
  obtain ⟨_, p, _, hnext, hcomment, -⟩ := exists_next?_of_mem_blocks h
  obtain ⟨_, -, hp⟩ := Piece.reads_of_next? hnext
  exact hcomment ▸ hp.comment

/-- **A gap, a doc comment and a declaration that is read as it is are the first block.** -/
theorem blocks_append_of_parse? {gap comment rest : Text} {d : Declaration}
    (hgap : ¬ Piece.opening <:+: gap) (hcomment : Piece.IsDocComment comment)
    (hparse : Declaration.parse? (d.text ++ rest) = some (d, rest)) :
    blocks (gap ++ (Block.mk comment d).text ++ rest) = ⟨comment, d⟩ :: blocks rest := by
  have hnext : Piece.next? (gap ++ (Block.mk comment d).text ++ rest) =
      some (⟨gap, comment, some d⟩, rest) := by
    rw [Piece.next?_eq_some_iff]
    refine ⟨d.text ++ rest, by simp [Block.text], hgap, hcomment, ?_⟩
    exact Piece.afterComment_eq_iff.mpr (.inl ⟨_, rfl, hparse⟩)
  exact blocks_of_block hnext rfl

/-- The texts of the blocks are the items of the pieces that have a declaration. -/
theorem map_text_blocks (s : Text) :
    (blocks s).map Block.text =
      ((pieces s).1.filter fun p => p.declaration.isSome).map Piece.item := by
  rw [blocks]
  induction (pieces s).1 with
  | nil => rfl
  | cons p ps ih =>
    cases hd : p.declaration with
    | none => simp [Piece.block?, hd, ih]
    | some d => simp [Piece.block?, hd, ih, Block.text, Piece.item]

/-- The description of an entry is the text of its block. -/
theorem map_description_ofText (s : Text) :
    (Entry.ofText s).map Entry.description = (blocks s).map Block.text := by
  simp [Entry.ofText, Block.entry, Entry.build]

/-- **The reading of a text.** Its pieces are a reading, they and the rest make up the text, and
every piece with a declaration gives one entry, in order, described by the item word for
word. -/
theorem pieces_reading (s : Text) :
    Reading s (pieces s).1 (pieces s).2 ∧
      s = (pieces s).1.flatMap Piece.text ++ (pieces s).2 ∧
      (Entry.ofText s).map Entry.description =
        ((pieces s).1.filter fun p => p.declaration.isSome).map Piece.item :=
  ⟨reading_pieces s, eq_flatMap_pieces s, by rw [map_description_ofText, map_text_blocks]⟩

end NativeFinder
