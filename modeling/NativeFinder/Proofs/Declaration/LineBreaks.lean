import NativeFinder.Proofs.Declaration.Reading
import NativeFinder.Proofs.Text.LineBreaks

/-!
# Entries and line breaks

The entries of a text are described word for word, and a declaration begins behind a line feed. So
it matters in which convention the line breaks of a text are written. `blocks_normalizeNewlines`
says how far it does: the blocks stay as they are when the line breaks are made one, if none of them
holds a carriage return and if no carriage return stands where a line feed would begin a declaration
(`HasHiddenNative`).

The reading goes through both texts step by step. What it looks for holds no line break, so that it
is found in the one text where it is found in the other; only the line feed before `native` may come
of a carriage return, and this is the one place where the two readings may part.
-/

namespace NativeFinder

open Text

/-! ### What is read from a text in one convention -/

namespace Declaration

variable {s : Text} {d : Declaration}

theorem feed_not_mem_keywords : '\n' ∉ nativeWord ∧ '\n' ∉ takesWord ∧ '\n' ∉ returnsWord := by
  decide

/-- A closing that begins the result begins the text. -/
theorem closingAt_of_normalizeNewlines (h : ClosingAt (normalizeNewlines s)) : ClosingAt s := by
  obtain ⟨c, hc, t, ht⟩ := h
  have hs : normalizeNewlines s =
      c.blanksOfParameters ++ (returnsWord ++ (c.blanksOfReturns ++ (c.returnType ++ t))) := by
    rw [← ht]
    simp [Closing.text]
  obtain ⟨b₁, s₁, rfl, hb₁, -, hs₁⟩ :=
    exists_of_normalizeNewlines_eq_blanks_append hc.blanksOfParameters hs
  obtain ⟨s₂, rfl, hs₂⟩ :=
    exists_of_normalizeNewlines_eq_plain_append feed_not_mem_keywords.2.2 hs₁
  obtain ⟨b₂, s₃, rfl, hb₂, -, hs₃⟩ :=
    exists_of_normalizeNewlines_eq_blanks_append hc.blanksOfReturns hs₂
  obtain ⟨s₄, rfl, -⟩ :=
    exists_of_normalizeNewlines_eq_plain_append hc.returnType.feed_not_mem hs₃
  exact ⟨⟨b₁, b₂, c.returnType⟩, ⟨hb₁, hb₂, hc.returnType⟩, s₄, by simp [Closing.text]⟩

theorem hasClosing_of_normalizeNewlines (h : HasClosing (normalizeNewlines s)) : HasClosing s := by
  obtain ⟨c, hc, x, y, hxy⟩ := h
  rw [List.append_assoc] at hxy
  obtain ⟨x', s', rfl, -, hs'⟩ := exists_of_normalizeNewlines_eq_append hxy.symm
  obtain ⟨c', hc', hpre⟩ := closingAt_of_normalizeNewlines (s := s')
    (hs' ▸ ⟨c, hc, List.prefix_append _ _⟩)
  exact ⟨c', hc', hpre.isInfix.trans (List.suffix_append x' s').isInfix⟩

/-- A declaration that begins the result begins the text, unless the line feed before it comes of a
carriage return. -/
theorem declarationAt_or_of_normalizeNewlines (h : DeclarationAt (normalizeNewlines s)) :
    DeclarationAt s ∨ ∃ lead rest, s = lead ++ '\r' :: (nativeWord ++ rest) ∧
      ∀ c ∈ lead, Character.isBlank c = true := by
  obtain ⟨d, hd, t, ht⟩ := h
  have hs : normalizeNewlines s = d.lead ++ (nativeWord ++ (d.blanksOfNative ++ (d.name ++
      (d.blanksOfName ++ (takesWord ++ (d.blanksOfTakes ++ (d.parameters ++
        (d.closing.text ++ t)))))))) := by
    rw [← ht, text_eq, stem]
    simp
  obtain ⟨lead, s₁, rfl, hlead, hlast, hs₁⟩ :=
    exists_of_normalizeNewlines_eq_blanks_append hd.lead hs
  obtain ⟨s₂, rfl, hs₂⟩ := exists_of_normalizeNewlines_eq_plain_append feed_not_mem_keywords.1 hs₁
  -- the line feed before the keyword is one of the text, or comes of a carriage return
  rcases getLast?_of_getLast?_normalizeNewlines (hlast ▸ hd.getLast_lead) with hfeed | hreturn
  · left
    obtain ⟨b₁, s₃, rfl, hb₁, -, hs₃⟩ :=
      exists_of_normalizeNewlines_eq_blanks_append hd.blanksOfNative hs₂
    obtain ⟨s₄, rfl, hs₄⟩ :=
      exists_of_normalizeNewlines_eq_plain_append hd.name.feed_not_mem hs₃
    obtain ⟨b₂, s₅, rfl, hb₂, -, hs₅⟩ :=
      exists_of_normalizeNewlines_eq_blanks_append hd.blanksOfName hs₄
    obtain ⟨s₆, rfl, hs₆⟩ :=
      exists_of_normalizeNewlines_eq_plain_append feed_not_mem_keywords.2.1 hs₅
    obtain ⟨b₃, s₇, rfl, hb₃, -, hs₇⟩ :=
      exists_of_normalizeNewlines_eq_blanks_append hd.blanksOfTakes hs₆
    obtain ⟨parameters, s₈, rfl, -, hs₈⟩ := exists_of_normalizeNewlines_eq_append hs₇
    obtain ⟨c, hc, rest, rfl⟩ := closingAt_of_normalizeNewlines (s := s₈)
      (hs₈ ▸ ⟨d.closing, hd.closing, List.prefix_append _ _⟩)
    exact ⟨⟨lead, b₁, d.name, b₂, b₃, parameters, c.blanksOfParameters, c.blanksOfReturns,
      c.returnType⟩, ⟨hlead, hfeed, hb₁, hd.name, hb₂, hb₃, hc.blanksOfParameters,
      hc.blanksOfReturns, hc.returnType⟩, rest, by simp [text, Closing.text]⟩
  · right
    obtain ⟨blanks, rfl⟩ : ∃ blanks, lead = blanks ++ ['\r'] := by
      obtain rfl | ⟨blanks, c, rfl⟩ := List.eq_nil_or_concat' lead
      · cases hreturn
      · rw [List.getLast?_concat, Option.some.injEq] at hreturn
        exact ⟨blanks, by rw [hreturn]⟩
    exact ⟨blanks, s₂, by simp, fun c hc => hlead.all c (by simp [hc])⟩

/-- A declaration without carriage returns is read from the result as it is read from the text. -/
theorem parse?_normalizeNewlines {rest : Text} (h : parse? s = some (d, rest))
    (hd : '\r' ∉ d.text) :
    parse? (normalizeNewlines s) = some (d, normalizeNewlines rest) := by
  obtain ⟨rfl, hwf, hrest, hkind⟩ := parse?_eq_some_iff.mp h
  have hending : '\r' ∉ d.ending := by
    rw [text_eq, closing_text] at hd
    exact fun hmem => hd (by simp [hmem])
  refine parse?_eq_some_iff.mpr ⟨normalizeNewlines_append_of_return_not_mem hd rest, hwf,
    hrest.normalizeNewlines, hkind.imp_right fun ⟨ho, hnot⟩ => ⟨ho, fun hclosing => hnot ?_⟩⟩
  rw [← normalizeNewlines_append_of_return_not_mem hending] at hclosing
  exact hasClosing_of_normalizeNewlines hclosing

end Declaration

/-! ### One step -/

namespace Piece

variable {s rest : Text} {p : Piece}

theorem feed_not_mem_marks : '\n' ∉ opening ∧ '\n' ∉ closing := by decide

theorem normalizeNewlines_opening_append (s : Text) :
    normalizeNewlines (opening ++ s) = opening ++ normalizeNewlines s :=
  normalizeNewlines_append_of_return_not_mem (by decide) s

/-- A doc comment remains one. -/
theorem IsDocComment.normalizeNewlines {comment : Text} (h : IsDocComment comment) :
    IsDocComment (normalizeNewlines comment) := by
  obtain ⟨body, rfl, hbody⟩ := h
  refine ⟨Text.normalizeNewlines body, ?_, mt (infix_of_infix_normalizeNewlines
    feed_not_mem_marks.2) hbody⟩
  rw [List.append_assoc, normalizeNewlines_opening_append,
    normalizeNewlines_append fun _ => by decide]
  rfl

/-- Where a doc comment is opened, the text may be cut. -/
theorem normalizeNewlines_append_opening (gap s : Text) :
    normalizeNewlines (gap ++ (opening ++ s)) =
      normalizeNewlines gap ++ (opening ++ normalizeNewlines s) := by
  rw [normalizeNewlines_append fun _ => by simp [opening], normalizeNewlines_opening_append]

/-- Before and behind a doc comment, the text may be cut. -/
theorem IsDocComment.normalizeNewlines_append {comment : Text} (h : IsDocComment comment)
    (gap after : Text) :
    Text.normalizeNewlines (gap ++ comment ++ after) =
      Text.normalizeNewlines gap ++ Text.normalizeNewlines comment ++
        Text.normalizeNewlines after := by
  obtain ⟨body, rfl, -⟩ := h
  have hafter : (gap ++ (opening ++ body ++ closing)).getLast? = some '/' := by
    simp [closing, List.getLast?_append, List.getLast?_cons]
  have hgap : (opening ++ body ++ closing).head? = some '/' := rfl
  rw [Text.normalizeNewlines_append fun h => absurd (hafter.symm.trans h) (by decide),
    Text.normalizeNewlines_append fun _ => by rw [hgap]; decide]

/-- **One step in both texts**: the gap and the comment are found again, whatever is read after
them. -/
theorem next?_normalizeNewlines (h : next? s = some (p, rest)) :
    ∃ after, s = p.gap ++ p.comment ++ after ∧ IsDocComment p.comment ∧
      afterComment after = (p.declaration, rest) ∧
      ∀ declaration rest', afterComment (normalizeNewlines after) = (declaration, rest') →
        next? (normalizeNewlines s) =
          some (⟨normalizeNewlines p.gap, normalizeNewlines p.comment, declaration⟩, rest') := by
  obtain ⟨after, rfl, hgap, hcomment, hafter⟩ := next?_eq_some_iff.mp h
  refine ⟨after, rfl, hcomment, hafter, fun declaration rest' hread => next?_eq_some_iff.mpr ?_⟩
  exact ⟨normalizeNewlines after, hcomment.normalizeNewlines_append _ _,
    mt (infix_of_infix_normalizeNewlines feed_not_mem_marks.1) hgap,
    hcomment.normalizeNewlines, hread⟩

/-- Where no doc comment follows in the text, none follows in the result. -/
theorem next?_normalizeNewlines_eq_none (h : next? s = none) :
    next? (normalizeNewlines s) = none := by
  rw [next?_eq_none_iff] at h ⊢
  rcases h with hnot | ⟨gap, rest, rfl, hgap, hrest⟩
  · exact .inl (mt (infix_of_infix_normalizeNewlines feed_not_mem_marks.1) hnot)
  · refine .inr ⟨normalizeNewlines gap, normalizeNewlines rest, ?_,
      mt (infix_of_infix_normalizeNewlines feed_not_mem_marks.1) hgap,
      mt (infix_of_infix_normalizeNewlines feed_not_mem_marks.2) hrest⟩
    rw [List.append_assoc, normalizeNewlines_append_opening, List.append_assoc]

end Piece

/-! ### Whole texts -/

/-- A text in which a carriage return behind a doc comment, with nothing but blanks before it,
stands where a line feed would begin a declaration. -/
def HasHiddenNative (s : Text) : Prop :=
  ∃ before blanks after, s = before ++ Piece.closing ++ blanks ++
    '\r' :: (Declaration.nativeWord ++ after) ∧ ∀ c ∈ blanks, Character.isBlank c = true

theorem HasHiddenNative.of_suffix {s t : Text} (h : HasHiddenNative s) (hst : s <:+ t) :
    HasHiddenNative t := by
  obtain ⟨before, blanks, after, rfl, hblanks⟩ := h
  obtain ⟨u, rfl⟩ := hst
  exact ⟨u ++ before, blanks, after, by simp, hblanks⟩

/-- **The blocks stay as they are** when the line breaks are made one, unless one of them holds a
carriage return or a native is hidden by one. -/
theorem blocks_normalizeNewlines (s : Text) (hhidden : ¬ HasHiddenNative s)
    (hreturn : ∀ b ∈ blocks s, '\r' ∉ b.text) : blocks (normalizeNewlines s) = blocks s := by
  induction s using pieces_induction with
  | done s hs =>
    rw [blocks_of_next?_eq_none hs,
      blocks_of_next?_eq_none (Piece.next?_normalizeNewlines_eq_none hs)]
  | step s p rest hs ih =>
    have hrest : ¬ HasHiddenNative rest := fun h => hhidden (h.of_suffix
      (Piece.eq_append_of_next? hs ▸ List.suffix_append (p.gap ++ p.item) rest))
    obtain ⟨after, rfl, hcomment, hafter, hstep⟩ := Piece.next?_normalizeNewlines hs
    cases hd : p.declaration with
    | none =>
      rw [hd, Piece.afterComment_eq_iff] at hafter
      obtain ⟨rfl, hparse⟩ : after = rest ∧ Declaration.parse? after = none := by simpa using hafter
      -- a declaration that only the result has would be hidden in the text
      have hparse' : Declaration.parse? (normalizeNewlines after) = none := by
        rw [Declaration.parse?_eq_none_iff] at hparse ⊢
        intro hat
        rcases Declaration.declarationAt_or_of_normalizeNewlines hat with
          hat | ⟨lead, t, rfl, hlead⟩
        · exact hparse hat
        · obtain ⟨body, hbody, -⟩ := hcomment
          exact hhidden ⟨p.gap ++ Piece.opening ++ body, lead, t, by simp [hbody], hlead⟩
      have hnext := hstep none _ (Piece.afterComment_eq_iff.mpr (.inr ⟨rfl, rfl, hparse'⟩))
      rw [blocks_of_skipped hs hd] at hreturn ⊢
      rw [blocks_of_skipped hnext rfl, ih hrest hreturn]
    | some d =>
      rw [hd, Piece.afterComment_eq_iff] at hafter
      obtain ⟨e, he, hparse⟩ := hafter.resolve_right (by simp)
      obtain rfl : d = e := Option.some.inj he
      rw [blocks_of_block hs hd] at hreturn ⊢
      obtain ⟨hfirst, hmore⟩ := List.forall_mem_cons.mp hreturn
      obtain ⟨hnot, hdeclaration⟩ : '\r' ∉ p.comment ∧ '\r' ∉ d.text := by
        simpa [Block.text] using hfirst
      have hparse' := Declaration.parse?_normalizeNewlines hparse hdeclaration
      have hnext := hstep (some d) _ (Piece.afterComment_eq_iff.mpr (.inl ⟨d, rfl, hparse'⟩))
      rw [blocks_of_block hnext rfl, normalizeNewlines_eq_self hnot, ih hrest hmore]

/-- What describes an entry stands in the text. -/
theorem description_isInfix {s : Text} {e : Entry} (h : e ∈ Entry.ofText s) :
    e.description <:+: s := by
  have hmem : e.description ∈ (Entry.ofText s).map Entry.description := List.mem_map_of_mem h
  rw [map_description_ofText, map_text_blocks] at hmem
  obtain ⟨p, hp, hitem⟩ := List.mem_map.mp hmem
  obtain ⟨before, after, hpieces⟩ := List.append_of_mem (List.mem_filter.mp hp).1
  rw [eq_flatMap_pieces s, hpieces, ← hitem]
  exact ⟨before.flatMap Piece.text ++ p.gap, after.flatMap Piece.text ++ (pieces s).2,
    by simp [Piece.text]⟩

/-- **Entries and line breaks.** If the entries are the same when the line breaks are made one, no
description holds a carriage return; and unless a native is hidden by one, this is enough. -/
theorem ofText_normalizeNewlines (s : Text) :
    (Entry.ofText (normalizeNewlines s) = Entry.ofText s →
      ∀ e ∈ Entry.ofText s, '\r' ∉ e.description) ∧
    (¬ HasHiddenNative s → (∀ e ∈ Entry.ofText s, '\r' ∉ e.description) →
      Entry.ofText (normalizeNewlines s) = Entry.ofText s) := by
  constructor
  · intro heq e he hmem
    rw [← heq] at he
    exact return_not_mem_normalizeNewlines s ((description_isInfix he).subset hmem)
  · intro hhidden hreturn
    rw [Entry.ofText, blocks_normalizeNewlines s hhidden]
    · rfl
    · intro b hb
      exact hreturn b.entry (List.mem_map_of_mem hb)

end NativeFinder
