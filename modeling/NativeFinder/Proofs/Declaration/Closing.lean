import NativeFinder.Declaration.Basic
import NativeFinder.Proofs.Text.Cuts

/-!
# Closings and where the first one is

The parameters of a declaration end at a **closing**: blanks, `returns`, blanks and a word.
`ClosingAt` and `HasClosing` say that a text starts with one or holds one somewhere, and the
readings of `Declaration` are described by them: `findClosing?_eq_some_iff` says that the cut
is made at the first closing, and `findClosing?_eq_none_iff` that no cut means no closing.

Whether a closing is the first one does not depend on what follows it
(`closingAt_append_iff`): a closing that starts earlier either ends inside the text up to the
end of the later one, or its blanks lead up to that one.
-/

namespace NativeFinder

namespace Declaration

open Text

/-! ### Keywords are words -/

theorem isWord_nativeWord : IsWord nativeWord := by decide

theorem isWord_takesWord : IsWord takesWord := by decide

theorem isWord_returnsWord : IsWord returnsWord := by decide

/-! ### Closings -/

/-- Blanks where a closing has blanks, and a word for the return type. -/
structure Closing.WellFormed (c : Closing) : Prop where
  blanksOfParameters : IsBlanks c.blanksOfParameters
  blanksOfReturns : IsBlanks c.blanksOfReturns
  returnType : IsWord c.returnType

/-- A text that starts with a closing. -/
def ClosingAt (s : Text) : Prop := ∃ c : Closing, c.WellFormed ∧ c.text <+: s

/-- A text that holds a closing somewhere. -/
def HasClosing (s : Text) : Prop := ∃ c : Closing, c.WellFormed ∧ c.text <:+: s

theorem ClosingAt.append {s : Text} (h : ClosingAt s) (t : Text) : ClosingAt (s ++ t) := by
  obtain ⟨c, hc, hs⟩ := h
  exact ⟨c, hc, hs.trans (List.prefix_append s t)⟩

theorem HasClosing.mono {s t : Text} (h : HasClosing s) (hst : s <:+: t) : HasClosing t := by
  obtain ⟨c, hc, hs⟩ := h
  exact ⟨c, hc, hs.trans hst⟩

theorem Closing.WellFormed.ne_nil {c : Closing} (hc : c.WellFormed) : c.text ≠ [] := by
  simp [Closing.text, hc.returnType.ne_nil]

/-- A closing begins with a blank, so a word does not begin with one. -/
theorem not_closingAt_of_stops {s : Text} (hs : Stops Character.isBlank s) : ¬ ClosingAt s := by
  rintro ⟨c, hc, t, rfl⟩
  obtain ⟨b, bs, hb⟩ := List.exists_cons_of_ne_nil hc.blanksOfParameters.ne_nil
  have hblank := hc.blanksOfParameters.all b (by simp [hb])
  have hnot : Character.isBlank b = false := hs b (by simp [Closing.text, hb])
  rw [hblank] at hnot
  exact absurd hnot (by decide)

/-- A text holds a closing if it starts with one or its tail holds one. -/
theorem hasClosing_cons {a : Char} {s : Text} :
    HasClosing (a :: s) ↔ ClosingAt (a :: s) ∨ HasClosing s := by
  simp only [HasClosing, ClosingAt, List.infix_cons_iff, ← exists_or, ← and_or_left]

/-! ### Reading a closing -/

/-- `returns`, blanks and a word are read as far as the word goes. -/
theorem parseReturns?_eq_some_iff {s blanks returnType rest : Text} :
    parseReturns? s = some ((blanks, returnType), rest) ↔
      s = returnsWord ++ blanks ++ returnType ++ rest ∧ IsBlanks blanks ∧ IsWord returnType ∧
        Stops Character.isWord rest := by
  simp only [parseReturns?, takeBlanks?, takeWord?, Option.bind_eq_bind,
    Option.bind_eq_some_iff, Prod.exists, Option.some.injEq, Prod.mk.injEq,
    dropPrefix?_eq_some_iff, takeRun?_eq_some_iff]
  constructor
  · rintro ⟨s₁, rfl, b, s₂, ⟨rfl, hb, -⟩, r, s₃, ⟨rfl, hr, hrest⟩, ⟨rfl, rfl⟩, rfl⟩
    exact ⟨by simp, hb, hr, hrest⟩
  · rintro ⟨rfl, hb, hr, hrest⟩
    exact ⟨blanks ++ (returnType ++ rest), by simp, blanks, returnType ++ rest,
      ⟨rfl, hb, hr.stops_blank rest⟩, returnType, rest, ⟨rfl, hr, hrest⟩, ⟨rfl, rfl⟩, rfl⟩

/-- A closing is read as far as its last word goes. -/
theorem parseClosing?_eq_some_iff {s rest : Text} {c : Closing} :
    parseClosing? s = some (c, rest) ↔
      s = c.text ++ rest ∧ c.WellFormed ∧ Stops Character.isWord rest := by
  simp only [parseClosing?, takeBlanks?, Option.bind_eq_bind, Option.bind_eq_some_iff,
    Prod.exists, Option.some.injEq, Prod.mk.injEq, takeRun?_eq_some_iff,
    parseReturns?_eq_some_iff]
  constructor
  · rintro ⟨b, s₁, ⟨rfl, hb, -⟩, br, r, s₂, ⟨rfl, hbr, hr, hrest⟩, rfl, rfl⟩
    exact ⟨by simp [Closing.text], ⟨hb, hbr, hr⟩, hrest⟩
  · rintro ⟨rfl, hc, hrest⟩
    refine ⟨c.blanksOfParameters, returnsWord ++ c.blanksOfReturns ++ c.returnType ++ rest,
      ⟨by simp [Closing.text], hc.blanksOfParameters, ?_⟩, c.blanksOfReturns, c.returnType, rest,
      ⟨rfl, hc.blanksOfReturns, hc.returnType, hrest⟩, rfl, rfl⟩
    simpa using isWord_returnsWord.stops_blank (c.blanksOfReturns ++ (c.returnType ++ rest))

/-- A closing is read wherever there is one: its last word is taken as far as it goes. -/
theorem parseClosing?_isSome_iff {s : Text} : (parseClosing? s).isSome ↔ ClosingAt s := by
  constructor
  · intro h
    obtain ⟨⟨c, rest⟩, hp⟩ := Option.isSome_iff_exists.mp h
    obtain ⟨rfl, hc, -⟩ := parseClosing?_eq_some_iff.mp hp
    exact ⟨c, hc, List.prefix_append _ _⟩
  · rintro ⟨c, hc, t, rfl⟩
    let whole : Closing := { c with returnType := c.returnType ++ t.takeWhile Character.isWord }
    have hp : parseClosing? (c.text ++ t) = some (whole, t.dropWhile Character.isWord) := by
      rw [parseClosing?_eq_some_iff]
      refine ⟨by simp [whole, Closing.text], ⟨hc.blanksOfParameters, hc.blanksOfReturns, ?_⟩,
        stops_dropWhile t⟩
      exact hc.returnType.append fun d hd => List.mem_takeWhile_imp hd
    rw [hp, Option.isSome_some]

theorem parseClosing?_eq_none_iff {s : Text} : parseClosing? s = none ↔ ¬ ClosingAt s := by
  rw [← parseClosing?_isSome_iff, Option.not_isSome_iff_eq_none]

/-! ### The first closing -/

/-- Without a closing there is no cut, and only then. -/
theorem findClosing?_eq_none_iff {s : Text} : findClosing? s = none ↔ ¬ HasClosing s := by
  induction s with
  | nil =>
    refine iff_of_true rfl ?_
    rintro ⟨c, hc, hin⟩
    exact hc.ne_nil (List.eq_nil_of_infix_nil hin)
  | cons a s ih =>
    simp only [findClosing?, hasClosing_cons, not_or]
    split
    · rename_i c rest hp
      have hat : ClosingAt (a :: s) := parseClosing?_isSome_iff.mp (by rw [hp, Option.isSome_some])
      simp [hat]
    · rename_i hp
      simp [ih, parseClosing?_eq_none_iff.mp hp]

/-- **The cut is made at the first closing**: none starts in the part before it. -/
theorem findClosing?_eq_some_iff {s before rest : Text} {c : Closing} :
    findClosing? s = some (before, c, rest) ↔
      s = before ++ c.text ++ rest ∧ c.WellFormed ∧ Stops Character.isWord rest ∧
        ∀ y, y <:+ before → y ≠ [] → ¬ ClosingAt (y ++ c.text ++ rest) := by
  induction s generalizing before with
  | nil =>
    simp only [findClosing?, reduceCtorEq, false_iff, not_and]
    intro h hc
    simp [hc.ne_nil] at h
  | cons a s ih =>
    simp only [findClosing?]
    split
    · -- a closing starts here, so nothing stands before the first one
      rename_i c' rest' hp
      constructor
      · intro h
        simp only [Option.some.injEq, Prod.mk.injEq] at h
        obtain ⟨rfl, rfl, rfl⟩ := h
        obtain ⟨heq, hc, hrest⟩ := parseClosing?_eq_some_iff.mp hp
        refine ⟨by simpa using heq, hc, hrest, fun y hy hne => ?_⟩
        exact absurd (List.suffix_nil.mp hy) hne
      · rintro ⟨heq, hc, hrest, hfirst⟩
        have hat : ClosingAt (a :: s) :=
          parseClosing?_isSome_iff.mp (by rw [hp, Option.isSome_some])
        have hnil : before = [] := by
          by_contra hne
          exact hfirst before List.suffix_rfl hne (heq ▸ hat)
        subst hnil
        have hp' := parseClosing?_eq_some_iff.mpr ⟨by simpa using heq, hc, hrest⟩
        rw [hp, Option.some.injEq, Prod.mk.injEq] at hp'
        rw [hp'.1, hp'.2]
    · -- none starts here, so the first one is the first one of the tail
      rename_i hp
      have hat : ¬ ClosingAt (a :: s) := parseClosing?_eq_none_iff.mp hp
      constructor
      · intro h
        simp only [Option.map_eq_some_iff, Prod.exists, Prod.mk.injEq] at h
        obtain ⟨b, c', r, hf, rfl, rfl, rfl⟩ := h
        obtain ⟨rfl, hc, hrest, hfirst⟩ := ih.mp hf
        refine ⟨by simp, hc, hrest, fun y hy hne => ?_⟩
        rcases List.suffix_cons_iff.mp hy with rfl | hy
        · simpa using hat
        · exact hfirst y hy hne
      · rintro ⟨heq, hc, hrest, hfirst⟩
        cases before with
        | nil => exact absurd ⟨c, hc, rest, by simpa using heq.symm⟩ hat
        | cons d before =>
          simp only [List.cons_append, List.cons.injEq] at heq
          obtain ⟨rfl, heq⟩ := heq
          rw [ih.mpr ⟨heq, hc, hrest, fun y hy => hfirst y (hy.trans (List.suffix_cons a _))⟩]
          rfl

/-! ### What follows a closing does not matter -/

/-- In blanks and a word, no blank comes after a character that is none. -/
private theorem not_sublist_blanks_word {b w : Text} (hb : IsBlanks b) (hw : IsWord w)
    {x y : Char} (hx : Character.isBlank x = false) (hy : Character.isBlank y = true) :
    ¬ [x, y].Sublist (b ++ w) := by
  intro h
  have hpair : (b ++ w).Pairwise fun c d =>
      Character.isBlank d = true → Character.isBlank c = true := by
    rw [List.pairwise_append]
    refine ⟨List.pairwise_of_forall_mem_list fun c hc d _ _ => hb.all c hc,
      List.pairwise_of_forall_mem_list fun c _ d hd hblank => ?_, fun c hc d _ _ => hb.all c hc⟩
    exact absurd (hw.all d hd) (not_isWord_of_isBlank hblank)
  have hxy := hpair.sublist h
  simp [hx, hy] at hxy

/-- **Whether a closing starts before another one does not depend on what follows that one.** -/
theorem closingAt_append_iff {c : Closing} (hc : c.WellFormed) (y rest : Text) :
    ClosingAt (y ++ c.text ++ rest) ↔ ClosingAt (y ++ c.text) := by
  refine ⟨?_, fun h => h.append rest⟩
  rintro ⟨c', hc', t, ht⟩
  rcases List.append_eq_append_iff.mp ht with ⟨v, hv, -⟩ | ⟨v, hv, -⟩
  · exact ⟨c', hc', v, hv.symm⟩
  -- the earlier closing goes on behind the later one: its blanks lead up to the later one
  have hsplit : c'.blanksOfParameters ++ (returnsWord ++ (c'.blanksOfReturns ++ c'.returnType)) =
      y ++ (c.blanksOfParameters ++
        (returnsWord ++ (c.blanksOfReturns ++ (c.returnType ++ v)))) := by
    simpa [Closing.text] using hv
  rcases List.append_eq_append_iff.mp hsplit with ⟨z, rfl, hz⟩ | ⟨z, hz, -⟩
  · -- otherwise a blank, an `r` and a blank would follow in that order from its `returns` on
    exfalso
    obtain ⟨b, bs, hb⟩ := List.exists_cons_of_ne_nil hc.blanksOfParameters.ne_nil
    obtain ⟨d, ds, hd⟩ := List.exists_cons_of_ne_nil hc.blanksOfReturns.ne_nil
    have hbb : Character.isBlank b = true := hc.blanksOfParameters.all b (by simp [hb])
    have hdd : Character.isBlank d = true := hc.blanksOfReturns.all d (by simp [hd])
    have hsub : [b, 'r', d].Sublist (returnsWord ++ (c'.blanksOfReturns ++ c'.returnType)) := by
      rw [hz, hb, hd]
      refine (List.Sublist.cons_cons b ?_).trans (List.sublist_append_right z _)
      refine List.Sublist.trans ?_ (List.sublist_append_right bs _)
      exact (List.singleton_sublist.mpr (by decide : 'r' ∈ returnsWord)).append
        (List.singleton_sublist.mpr (by simp))
    obtain ⟨l₁, l₂, hl, h₁, h₂⟩ := List.sublist_append_iff.mp hsub
    cases l₁ with
    | nil =>
      rw [List.nil_append] at hl
      subst hl
      exact not_sublist_blanks_word hc'.blanksOfReturns hc'.returnType (by decide) hdd
        ((List.sublist_cons_self b _).trans h₂)
    | cons b' l₁ =>
      obtain ⟨rfl, -⟩ := List.cons.inj hl
      have hmem : b ∈ returnsWord := h₁.subset (List.mem_cons_self ..)
      exact not_isWord_of_isBlank hbb (isWord_returnsWord.all b hmem)
  · refine ⟨{ c with blanksOfParameters := y ++ c.blanksOfParameters },
      ⟨⟨by simp [hc.blanksOfParameters.ne_nil], fun a ha => ?_⟩, hc.blanksOfReturns,
        hc.returnType⟩, by simp [Closing.text]⟩
    rcases List.mem_append.mp ha with ha | ha
    · exact hc'.blanksOfParameters.all a (by simp [hz, ha])
    · exact hc.blanksOfParameters.all a ha

end Declaration

end NativeFinder
