import NativeFinder.Proofs.Declaration.Closing

/-!
# Which declarations are read

`WellFormed` is the grammar of a declaration: blanks, words and keywords in their order, with
anything for parameters. `parse?_isSome_iff` says that a declaration is read wherever some
start of the text has this form, and `parse?_eq_some_iff` which of the possible declarations it
is. There are two kinds.

* A **closed** declaration has parameters, and they end at the first closing. It is read as
  it is whatever follows its last word.
* An **open** declaration has none: `takes` and `returns` have only blanks between them. It is
  read as it is only while no closing follows from `returns` on; where one does, everything
  up to that closing becomes the list of parameters (`parse?_of_isOpen_of_hasClosing`).
-/

namespace NativeFinder

namespace Declaration

open Text

variable {d : Declaration}

/-! ### The grammar -/

/-- The form of a declaration: blanks up to the start of a line, then blanks, words and
keywords in their order. The parameters may be any text. -/
structure WellFormed (d : Declaration) : Prop where
  lead : IsBlanks d.lead
  getLast_lead : d.lead.getLast? = some '\n'
  blanksOfNative : IsBlanks d.blanksOfNative
  name : IsWord d.name
  blanksOfName : IsBlanks d.blanksOfName
  blanksOfTakes : IsBlanks d.blanksOfTakes
  blanksOfParameters : IsBlanks d.blanksOfParameters
  blanksOfReturns : IsBlanks d.blanksOfReturns
  returnType : IsWord d.returnType

/-- A text that starts with a declaration. -/
def DeclarationAt (s : Text) : Prop := ∃ d : Declaration, d.WellFormed ∧ d.text <+: s

/-- What stands before the blanks of the parameters, up to `takes`. -/
def stem (d : Declaration) : Text :=
  d.lead ++ nativeWord ++ d.blanksOfNative ++ d.name ++ d.blanksOfName ++ takesWord

/-- The closing of a declaration. -/
def closing (d : Declaration) : Closing :=
  ⟨d.blanksOfParameters, d.blanksOfReturns, d.returnType⟩

/-- What stands from `returns` on. -/
def ending (d : Declaration) : Text := returnsWord ++ d.blanksOfReturns ++ d.returnType

/-- The declaration with another list of parameters and another closing. -/
def withParameters (d : Declaration) (blanksOfTakes parameters : Text) (c : Closing) :
    Declaration :=
  { d with
    blanksOfTakes, parameters
    blanksOfParameters := c.blanksOfParameters
    blanksOfReturns := c.blanksOfReturns
    returnType := c.returnType }

theorem text_eq (d : Declaration) :
    d.text = d.stem ++ d.blanksOfTakes ++ d.parameters ++ d.closing.text := by
  simp [text, stem, closing, Closing.text]

theorem closing_text (d : Declaration) : d.closing.text = d.blanksOfParameters ++ d.ending := by
  simp [closing, Closing.text, ending]

/-- Blanks before `returns` stop there. -/
theorem stops_ending_append (d : Declaration) (rest : Text) :
    Stops Character.isBlank (d.ending ++ rest) := by
  simpa [ending] using isWord_returnsWord.stops_blank (d.blanksOfReturns ++ (d.returnType ++ rest))

theorem text_withParameters (d : Declaration) (blanksOfTakes parameters : Text) (c : Closing) :
    (d.withParameters blanksOfTakes parameters c).text =
      d.stem ++ blanksOfTakes ++ parameters ++ c.text := by
  rw [text_eq]
  rfl

theorem WellFormed.closing (hd : d.WellFormed) : d.closing.WellFormed :=
  ⟨hd.blanksOfParameters, hd.blanksOfReturns, hd.returnType⟩

theorem WellFormed.withParameters (hd : d.WellFormed) {blanksOfTakes : Text}
    (hb : IsBlanks blanksOfTakes) (parameters : Text) {c : Closing} (hc : c.WellFormed) :
    (d.withParameters blanksOfTakes parameters c).WellFormed :=
  ⟨hd.lead, hd.getLast_lead, hd.blanksOfNative, hd.name, hd.blanksOfName, hb,
    hc.blanksOfParameters, hc.blanksOfReturns, hc.returnType⟩

/-- From `returns` on, a declaration is read up to the end of its last word. -/
theorem WellFormed.parseReturns?_ending_append (hd : d.WellFormed) {rest : Text}
    (hrest : Stops Character.isWord rest) :
    parseReturns? (d.ending ++ rest) = some ((d.blanksOfReturns, d.returnType), rest) :=
  parseReturns?_eq_some_iff.mpr ⟨by simp [ending], hd.blanksOfReturns, hd.returnType, hrest⟩

/-- The last word of a declaration can be taken as far as it goes. -/
theorem DeclarationAt.exists_eq_append {s : Text} (h : DeclarationAt s) :
    ∃ d : Declaration, ∃ rest, d.WellFormed ∧ s = d.text ++ rest ∧ Stops Character.isWord rest := by
  obtain ⟨d, hd, t, rfl⟩ := h
  refine ⟨{ d with returnType := d.returnType ++ t.takeWhile Character.isWord },
    t.dropWhile Character.isWord, ⟨hd.lead, hd.getLast_lead, hd.blanksOfNative, hd.name,
      hd.blanksOfName, hd.blanksOfTakes, hd.blanksOfParameters, hd.blanksOfReturns,
      hd.returnType.append fun c hc => List.mem_takeWhile_imp hc⟩, ?_, stops_dropWhile t⟩
  simp [text]

/-! ### Open and closed declarations -/

/-- A declaration is **closed** if it has parameters that end at the first closing. -/
structure IsClosed (d : Declaration) : Prop where
  ne_nil : d.parameters ≠ []
  stops : Stops Character.isBlank d.parameters
  first : ∀ y, y <:+ d.parameters → y ≠ [] → ¬ ClosingAt (y ++ d.closing.text)

/-- A declaration is **open** if its list of parameters is empty: the last one of the blanks
after `takes` leads to `returns`. -/
structure IsOpen (d : Declaration) : Prop where
  eq_nil : d.parameters = []
  length_eq : d.blanksOfParameters.length = 1

/-! ### Reading the parameters -/

/-- Blanks before a declaration are read if the last one is a line feed. -/
theorem takeLead?_eq_some_iff {s lead rest : Text} :
    takeLead? s = some (lead, rest) ↔
      s = lead ++ rest ∧ IsBlanks lead ∧ lead.getLast? = some '\n' ∧
        Stops Character.isBlank rest := by
  constructor
  · intro h
    have heq := eq_append_of_takeLead? h
    unfold takeLead? at h
    split at h
    · rename_i hlast
      simp only [Option.some.injEq, Prod.mk.injEq] at h
      obtain ⟨rfl, rfl⟩ := h
      have hlast' := beq_iff_eq.mp hlast
      refine ⟨heq, ⟨?_, fun c hc => List.mem_takeWhile_imp hc⟩, hlast', stops_dropWhile s⟩
      intro hnil
      rw [hnil] at hlast'
      simp at hlast'
    · simp at h
  · rintro ⟨rfl, hlead, hlast, hrest⟩
    obtain ⟨h₁, h₂⟩ := takeWhile_append_of_stops hlead.all hrest
    rw [takeLead?, h₁, h₂, hlast]
    rfl

/-- Parameters are read up to the first closing; without one, the last blank leads to
`returns`. -/
theorem parseParameters?_eq_some_iff {blanks s blanksOfTakes parameters rest : Text}
    {c : Closing} :
    parseParameters? blanks s = some ((blanksOfTakes, parameters, c), rest) ↔
      (blanksOfTakes = blanks ∧ findClosing? s = some (parameters, c, rest)) ∨
      (findClosing? s = none ∧ parameters = [] ∧ blanksOfTakes ≠ [] ∧
        blanks = blanksOfTakes ++ c.blanksOfParameters ∧ c.blanksOfParameters.length = 1 ∧
        parseReturns? s = some ((c.blanksOfReturns, c.returnType), rest)) := by
  unfold parseParameters?
  split
  · rename_i p c' r hf
    simp only [hf, Option.some.injEq, Prod.mk.injEq, reduceCtorEq, false_and, or_false]
    tauto
  · rename_i hf
    simp only [hf, reduceCtorEq, and_false, true_and, false_or]
    rcases List.eq_nil_or_concat' blanks with rfl | ⟨shorter, a, rfl⟩
    · simp only [List.dropLast_nil, reduceCtorEq, false_iff, not_and]
      intro _ hne hnil
      exact absurd (List.append_eq_nil_iff.mp hnil.symm).1 hne
    rw [List.dropLast_concat]
    cases shorter with
    | nil =>
      simp only [reduceCtorEq, false_iff, not_and]
      intro _ hne heq hlen
      have hsum := congrArg List.length heq
      have hpos := List.length_pos_iff.mpr hne
      simp only [List.nil_append, List.length_singleton, List.length_append] at hsum
      omega
    | cons b shorter =>
      simp only [List.drop_left, Option.map_eq_some_iff, Prod.exists, Prod.mk.injEq]
      constructor
      · rintro ⟨br, r, t, hr, ⟨rfl, rfl, rfl⟩, rfl⟩
        exact ⟨rfl, by simp, rfl, rfl, hr⟩
      · rintro ⟨rfl, -, heq, hlen, hr⟩
        obtain ⟨hbt, hbp⟩ := List.append_inj' heq (by simp [hlen])
        exact ⟨_, _, rest, hr, ⟨hbt, rfl, by rw [hbp]⟩, rfl⟩

/-- Parameters are read if a closing follows, or if `returns`, blanks and a word follow two
blanks or more. -/
theorem parseParameters?_isSome {blanks s : Text} (hb : IsBlanks blanks)
    (h : HasClosing s ∨ 2 ≤ blanks.length ∧ (parseReturns? s).isSome) :
    (parseParameters? blanks s).isSome := by
  cases hf : findClosing? s with
  | some found =>
    obtain ⟨p, c, r⟩ := found
    rw [parseParameters?_eq_some_iff.mpr (.inl ⟨rfl, hf⟩), Option.isSome_some]
  | none =>
    obtain ⟨hlen, hr⟩ := h.resolve_left (findClosing?_eq_none_iff.mp hf)
    obtain ⟨⟨⟨br, r⟩, t⟩, hr⟩ := Option.isSome_iff_exists.mp hr
    obtain ⟨shorter, a, rfl⟩ := (List.eq_nil_or_concat' blanks).resolve_left hb.ne_nil
    have hne : shorter ≠ [] := by
      rintro rfl
      simp at hlen
    have hp : parseParameters? (shorter ++ [a]) s = some ((shorter, [], ⟨[a], br, r⟩), t) :=
      parseParameters?_eq_some_iff.mpr (.inr ⟨hf, rfl, hne, rfl, rfl, hr⟩)
    rw [hp, Option.isSome_some]

/-! ### Reading a declaration -/

/-- After the stem of a declaration and blanks, only the parameters are left to read. -/
theorem parse?_stem_append (hd : d.WellFormed) {blanks t : Text} (hb : IsBlanks blanks)
    (ht : Stops Character.isBlank t) :
    parse? (d.stem ++ blanks ++ t) =
      (parseParameters? blanks t).map fun r =>
        (d.withParameters r.1.1 r.1.2.1 r.1.2.2, r.2) := by
  let s₅ := blanks ++ t
  let s₄ := takesWord ++ s₅
  let s₃ := d.blanksOfName ++ s₄
  let s₂ := d.name ++ s₃
  let s₁ := d.blanksOfNative ++ s₂
  have h₀ : takeLead? (d.stem ++ blanks ++ t) = some (d.lead, nativeWord ++ s₁) :=
    takeLead?_eq_some_iff.mpr ⟨by simp [stem, s₁, s₂, s₃, s₄, s₅], hd.lead, hd.getLast_lead,
      isWord_nativeWord.stops_blank s₁⟩
  have h₁ : dropPrefix? nativeWord (nativeWord ++ s₁) = some s₁ := dropPrefix?_eq_some_iff.mpr rfl
  have h₂ : takeBlanks? s₁ = some (d.blanksOfNative, s₂) :=
    takeRun?_eq_some_iff.mpr ⟨rfl, hd.blanksOfNative, hd.name.stops_blank s₃⟩
  have h₃ : takeWord? s₂ = some (d.name, s₃) :=
    takeRun?_eq_some_iff.mpr ⟨rfl, hd.name, hd.blanksOfName.stops_word s₄⟩
  have h₄ : takeBlanks? s₃ = some (d.blanksOfName, s₄) :=
    takeRun?_eq_some_iff.mpr ⟨rfl, hd.blanksOfName, isWord_takesWord.stops_blank s₅⟩
  have h₅ : dropPrefix? takesWord s₄ = some s₅ := dropPrefix?_eq_some_iff.mpr rfl
  have h₆ : takeBlanks? s₅ = some (blanks, t) := takeRun?_eq_some_iff.mpr ⟨rfl, hb, ht⟩
  simp only [parse?, Option.bind_eq_bind, h₀, h₁, h₂, h₃, h₄, h₅, h₆, Option.bind_some]
  cases parseParameters? blanks t <;> rfl

/-- A declaration that is read has the form of one, and it starts the text. -/
private theorem wellFormed_of_parse? {s rest : Text} (h : parse? s = some (d, rest)) :
    d.WellFormed ∧ Stops Character.isWord rest ∧
      (d.IsClosed ∨ d.IsOpen ∧ ¬ HasClosing (d.ending ++ rest)) := by
  simp only [parse?, takeBlanks?, takeWord?, Option.bind_eq_bind, Option.bind_eq_some_iff,
    Prod.exists, Option.some.injEq, Prod.mk.injEq, dropPrefix?_eq_some_iff,
    takeRun?_eq_some_iff, takeLead?_eq_some_iff] at h
  obtain ⟨lead, s₀, ⟨-, hlead, hlast, -⟩, s₁, -, b₁, s₂, ⟨-, h₁, -⟩, n, s₃, ⟨-, hn, -⟩, b₂, s₄,
    ⟨-, h₂, -⟩, s₅, -, b₃, s₆, ⟨-, h₃, hstop⟩, b₄, p, c, r, hp, rfl, rfl⟩ := h
  rcases parseParameters?_eq_some_iff.mp hp with
    ⟨rfl, hf⟩ | ⟨hf, rfl, hb₄, rfl, hlen, hr⟩
  · obtain ⟨rfl, hc, hrest, hfirst⟩ := findClosing?_eq_some_iff.mp hf
    refine ⟨⟨hlead, hlast, h₁, hn, h₂, h₃, hc.blanksOfParameters, hc.blanksOfReturns,
      hc.returnType⟩, hrest, .inl ?_⟩
    have hne : p ≠ [] := by
      rintro rfl
      exact not_closingAt_of_stops hstop ⟨c, hc, r, rfl⟩
    rw [List.append_assoc, stops_append hne] at hstop
    exact ⟨hne, hstop, fun y hy hy' hat => hfirst y hy hy' (hat.append r)⟩
  · obtain ⟨rfl, hbr, hrt, hrest⟩ := parseReturns?_eq_some_iff.mp hr
    have hb₄' : IsBlanks b₄ := ⟨hb₄, fun a ha => h₃.all a (by simp [ha])⟩
    have hbp : IsBlanks c.blanksOfParameters :=
      ⟨by intro hnil; simp [hnil] at hlen, fun a ha => h₃.all a (by simp [ha])⟩
    exact ⟨⟨hlead, hlast, h₁, hn, h₂, hb₄', hbp, hbr, hrt⟩, hrest,
      .inr ⟨⟨rfl, hlen⟩, findClosing?_eq_none_iff.mp hf⟩⟩

/-- **A closed declaration is read as it is, whatever follows its last word.** -/
theorem parse?_text_append_of_isClosed (hd : d.WellFormed) (hc : d.IsClosed) {rest : Text}
    (hrest : Stops Character.isWord rest) : parse? (d.text ++ rest) = some (d, rest) := by
  have hf : findClosing? (d.parameters ++ d.closing.text ++ rest) =
      some (d.parameters, d.closing, rest) := by
    rw [findClosing?_eq_some_iff]
    refine ⟨rfl, hd.closing, hrest, fun y hy hne => ?_⟩
    rw [closingAt_append_iff hd.closing]
    exact hc.first y hy hne
  have hstop : Stops Character.isBlank (d.parameters ++ d.closing.text ++ rest) := by
    rw [List.append_assoc, stops_append hc.ne_nil]
    exact hc.stops
  have hparse := parse?_stem_append hd hd.blanksOfTakes hstop
  rw [parseParameters?_eq_some_iff.mpr (.inl ⟨rfl, hf⟩)] at hparse
  simpa [text_eq, withParameters, closing] using hparse

/-- What the blanks of an open declaration lead to. -/
private theorem parse?_text_append_of_isOpen' (hd : d.WellFormed) (ho : d.IsOpen) (rest : Text) :
    parse? (d.text ++ rest) =
      (parseParameters? (d.blanksOfTakes ++ d.blanksOfParameters) (d.ending ++ rest)).map fun r =>
        (d.withParameters r.1.1 r.1.2.1 r.1.2.2, r.2) := by
  rw [← parse?_stem_append hd (hd.blanksOfTakes.append hd.blanksOfParameters.all)
    (d.stops_ending_append rest)]
  simp [text_eq, closing_text, ho.eq_nil]

/-- **An open declaration is read as it is while no closing follows from `returns` on.** -/
theorem parse?_text_append_of_isOpen (hd : d.WellFormed) (ho : d.IsOpen) {rest : Text}
    (hrest : Stops Character.isWord rest) (hnot : ¬ HasClosing (d.ending ++ rest)) :
    parse? (d.text ++ rest) = some (d, rest) := by
  have hp : parseParameters? (d.blanksOfTakes ++ d.blanksOfParameters) (d.ending ++ rest) =
      some ((d.blanksOfTakes, [], d.closing), rest) :=
    parseParameters?_eq_some_iff.mpr (.inr ⟨findClosing?_eq_none_iff.mpr hnot, rfl,
      hd.blanksOfTakes.ne_nil, rfl, ho.length_eq, hd.parseReturns?_ending_append hrest⟩)
  rw [parse?_text_append_of_isOpen' hd ho, hp]
  simp [withParameters, closing, ← ho.eq_nil]

/-- **An open declaration before a closing is read as another one**: the parameters go on up
to that closing, and so does its text. -/
theorem parse?_of_isOpen_of_hasClosing (hd : d.WellFormed) (ho : d.IsOpen) {rest : Text}
    (hrest : ¬ HasClosing d.ending) (h : HasClosing (d.ending ++ rest)) :
    ∃ d' rest', parse? (d.text ++ rest) = some (d', rest') ∧ d'.text ≠ d.text := by
  cases hf : findClosing? (d.ending ++ rest) with
  | none => exact absurd h (findClosing?_eq_none_iff.mp hf)
  | some found =>
    obtain ⟨p, c, r⟩ := found
    rw [parse?_text_append_of_isOpen' hd ho, parseParameters?_eq_some_iff.mpr (.inl ⟨rfl, hf⟩)]
    refine ⟨_, r, rfl, fun heq => hrest ?_⟩
    obtain ⟨-, hc, -⟩ := findClosing?_eq_some_iff.mp hf
    rw [text_withParameters, text_eq, closing_text, ho.eq_nil] at heq
    have hending : p ++ c.text = d.ending := by simpa using heq
    exact ⟨c, hc, by rw [← hending]; exact (List.suffix_append p _).isInfix⟩

/-- **Which declaration is read**: one that starts the text, has the form of a declaration and
ends with a whole word, and that is closed, or open without a closing from `returns` on. -/
theorem parse?_eq_some_iff {s rest : Text} :
    parse? s = some (d, rest) ↔
      s = d.text ++ rest ∧ d.WellFormed ∧ Stops Character.isWord rest ∧
        (d.IsClosed ∨ d.IsOpen ∧ ¬ HasClosing (d.ending ++ rest)) := by
  constructor
  · intro h
    obtain ⟨hd, hrest, hkind⟩ := wellFormed_of_parse? h
    exact ⟨eq_append_of_parse? h, hd, hrest, hkind⟩
  · rintro ⟨rfl, hd, hrest, hc | ⟨ho, hnot⟩⟩
    · exact parse?_text_append_of_isClosed hd hc hrest
    · exact parse?_text_append_of_isOpen hd ho hrest hnot

/-- **A declaration is read wherever there is one.** -/
theorem parse?_isSome_iff {s : Text} : (parse? s).isSome ↔ DeclarationAt s := by
  constructor
  · intro h
    obtain ⟨⟨d, rest⟩, hp⟩ := Option.isSome_iff_exists.mp h
    obtain ⟨rfl, hd, -⟩ := parse?_eq_some_iff.mp hp
    exact ⟨d, hd, List.prefix_append _ _⟩
  · intro h
    obtain ⟨d, rest, hd, rfl, hrest⟩ := h.exists_eq_append
    -- the blanks after `takes` are taken as far as they go, into the parameters or past them
    let t := d.parameters ++ (d.closing.text ++ rest)
    let more := t.takeWhile Character.isBlank
    have ht : more ++ t.dropWhile Character.isBlank = t := List.takeWhile_append_dropWhile
    have hmore : ∀ c ∈ more, Character.isBlank c = true := fun c hc => List.mem_takeWhile_imp hc
    have hparse := parse?_stem_append hd (hd.blanksOfTakes.append hmore)
      (stops_dropWhile (p := Character.isBlank) t)
    have htext : d.text ++ rest =
        d.stem ++ (d.blanksOfTakes ++ more) ++ t.dropWhile Character.isBlank := by
      rw [text_eq, ← List.append_assoc d.stem, List.append_assoc _ more, ht]
      simp [t]
    rw [htext, hparse, Option.isSome_map]
    apply parseParameters?_isSome (hd.blanksOfTakes.append hmore)
    rcases List.append_eq_append_iff.mp ht with ⟨z, hz, hdrop⟩ | ⟨z, hz, hclosing⟩
    · -- they end in the parameters, so the closing is still to come
      left
      exact ⟨d.closing, hd.closing, by rw [hdrop]; exact ⟨z, rest, by simp⟩⟩
    · -- they take in the blanks of the closing, and there are two of them at least
      right
      have heq : d.blanksOfParameters ++ (d.ending ++ rest) =
          z ++ t.dropWhile Character.isBlank := by
        rw [← hclosing, closing_text, List.append_assoc]
      obtain ⟨rfl, hdrop⟩ := append_inj_of_stops hd.blanksOfParameters.all
        (fun c hc => hmore c (by simp [hz, hc])) (d.stops_ending_append rest) (stops_dropWhile t)
        heq
      have h₁ := List.length_pos_iff.mpr hd.blanksOfTakes.ne_nil
      have h₂ := List.length_pos_iff.mpr hd.blanksOfParameters.ne_nil
      refine ⟨?_, by rw [← hdrop, hd.parseReturns?_ending_append hrest, Option.isSome_some]⟩
      rw [hz]
      simp only [List.length_append]
      omega

theorem parse?_eq_none_iff {s : Text} : parse? s = none ↔ ¬ DeclarationAt s := by
  rw [← parse?_isSome_iff, Option.not_isSome_iff_eq_none]

end Declaration

end NativeFinder
