import NativeFinder.Proofs.Declaration.Fields
import NativeFinder.Proofs.Declaration.Reading

/-!
# Fields and parts

A declaration is read twice. The first reading isolates it and tells its parts apart, and the
second one looks the parameters and the return type up in its text once more, with a weaker idea
of where they end: the first reading wants blanks, `returns`, blanks and a word behind the
parameters, the second one is content with blanks and `returns`, and it looks for the return type
behind any `returns`.

`entry_of_mem_blocks` says what the second reading finds in a block, and when this is the part
that the first one told apart: for the parameters, exactly if no blanks lead to a `returns` in
them. All of it is said of a name that does not itself end with the keyword.
-/

namespace NativeFinder

namespace Declaration

open Text

variable {α : Type} {d : Declaration}

/-! ### The first place -/

/-- A text is cut at the **first place** where `P` holds of what follows. -/
structure FirstAt (P : Text → Prop) (s before rest : Text) : Prop where
  eq : s = before ++ rest
  holds : P rest
  first : ∀ y, y <:+ before → y ≠ [] → ¬ P (y ++ rest)

variable {P : Text → Prop} {s before rest : Text}

theorem exists_firstAt (h : ∃ v, v <:+ s ∧ P v) : ∃ before rest, FirstAt P s before rest := by
  induction s with
  | nil =>
    obtain ⟨v, hv, hP⟩ := h
    obtain rfl := List.suffix_nil.mp hv
    exact ⟨[], [], rfl, hP, fun y hy hne => absurd (List.suffix_nil.mp hy) hne⟩
  | cons c s ih =>
    by_cases hP : P (c :: s)
    · exact ⟨[], c :: s, rfl, hP, fun y hy hne => absurd (List.suffix_nil.mp hy) hne⟩
    · obtain ⟨v, hv, hv'⟩ := h
      have hvs : v <:+ s := by
        rcases List.suffix_cons_iff.mp hv with rfl | hvs
        · exact absurd hv' hP
        · exact hvs
      obtain ⟨before, rest, rfl, hrest, hfirst⟩ := ih ⟨v, hvs, hv'⟩
      refine ⟨c :: before, rest, rfl, hrest, fun y hy hne => ?_⟩
      rcases List.suffix_cons_iff.mp hy with rfl | hy
      · exact hP
      · exact hfirst y hy hne

/-- No place comes before the first one. -/
theorem FirstAt.length_le (h : FirstAt P s before rest) {u v : Text} (hs : s = u ++ v) (hv : P v) :
    before.length ≤ u.length := by
  by_contra hlt
  rcases List.append_eq_append_iff.mp (h.eq.symm.trans hs) with ⟨y, rfl, -⟩ | ⟨y, rfl, rfl⟩
  · simp at hlt
  · refine h.first y (List.suffix_append u y) ?_ hv
    rintro rfl
    simp at hlt

/-- A reader that needs `P` reads nothing before the first place. -/
theorem FirstAt.firstMatch?_eq {f : Text → Option α} (h : FirstAt P s before rest)
    (hf : ∀ s, (f s).isSome → P s) : firstMatch? f s = firstMatch? f rest := by
  rw [h.eq]
  refine firstMatch?_append fun z hz hne => ?_
  rw [← Option.not_isSome_iff_eq_none]
  exact fun hsome => h.first z hz hne (hf _ hsome)

/-! ### Parameters -/

/-- The parameters of a closed declaration do not end with a blank: the closing would start
there. -/
theorem IsClosed.stops_reverse (hc : d.IsClosed) (hd : d.WellFormed) :
    Stops Character.isBlank d.parameters.reverse := by
  obtain ⟨x, c, hx⟩ := (List.eq_nil_or_concat' d.parameters).resolve_left hc.ne_nil
  rw [hx, List.reverse_append, List.reverse_singleton, List.singleton_append, stops_cons]
  by_contra hblank
  refine hc.first [c] ⟨x, hx.symm⟩ (by simp)
    ⟨{ d.closing with blanksOfParameters := [c] ++ d.blanksOfParameters },
      ⟨⟨by simp, fun a ha => ?_⟩, hd.blanksOfReturns, hd.returnType⟩, ?_⟩
  · rcases List.mem_append.mp ha with ha | ha
    · rw [List.mem_singleton.mp ha]
      simpa using hblank
    · exact hd.blanksOfParameters.all a ha
  · simp [closing, Closing.text]

/-- How a list of parameters is shown: without the blanks around it, or by the word for none. -/
def shown (parameters : Text) : Text := Entry.orElse Entry.nothing (some (trim parameters))

/-- The parameters of a closed declaration are shown as they are. -/
theorem IsClosed.shown_parameters (hc : d.IsClosed) (hd : d.WellFormed) :
    shown d.parameters = d.parameters := by
  rw [shown, trim_eq_self hc.stops (hc.stops_reverse hd), Entry.orElse_some hc.ne_nil]

/-- A list that does not begin with a blank is not shown longer than it is. -/
theorem length_shown_le {p : Text} (hne : p ≠ []) (hp : Stops Character.isBlank p) :
    (shown p).length ≤ p.length := by
  have htrim : trim p ≠ [] := fun hnil => IsRun.not_stops ⟨hne, trim_eq_nil_iff.mp hnil⟩ hp
  rw [shown, Entry.orElse_some htrim]
  exact (trim_isInfix p).length_le

theorem not_returnsAt_of_stops (hs : Stops Character.isBlank s) : ¬ ReturnsAt s := by
  rintro ⟨b, hb, t, rfl⟩
  rw [List.append_assoc, stops_append hb.ne_nil] at hs
  exact hb.not_stops hs

theorem ReturnsAt.append (h : ReturnsAt s) (t : Text) : ReturnsAt (s ++ t) := by
  obtain ⟨b, hb, hpre⟩ := h
  exact ⟨b, hb, hpre.trans (List.prefix_append s t)⟩

theorem WellFormed.returnsAt_closing (hd : d.WellFormed) : ReturnsAt d.closing.text :=
  ClosingAt.returnsAt ⟨d.closing, hd.closing, List.prefix_rfl⟩

theorem untilReturns?_of_firstAt (h : FirstAt ReturnsAt s before rest) :
    untilReturns? s = some before := by
  rw [h.eq]
  exact untilReturns?_append h.holds h.first

/-- **The parameters that are found are those of the declaration** exactly if no blanks lead to
`returns` in them. -/
theorem IsClosed.shown_eq_iff (hc : d.IsClosed) (hd : d.WellFormed)
    (h : FirstAt ReturnsAt (d.parameters ++ d.closing.text) before rest) :
    shown before = shown d.parameters ↔ ∀ v, v <:+ d.parameters → ¬ ReturnsAt v := by
  constructor
  · -- a list that is cut short is shorter than all of the parameters
    rintro heq v ⟨u, hu⟩ hat
    have hle : before.length ≤ u.length :=
      h.length_le (by rw [← hu, List.append_assoc]) (hat.append d.closing.text)
    have hv : v ≠ [] := by
      rintro rfl
      exact not_returnsAt_of_stops stops_nil hat
    have hlt : u.length < d.parameters.length := by
      rw [← hu, List.length_append]
      have hpos := List.length_pos_iff.mpr hv
      omega
    have hstart : Stops Character.isBlank (before ++ rest) := by
      rw [← h.eq, stops_append hc.ne_nil]
      exact hc.stops
    have hne : before ≠ [] := by
      rintro rfl
      exact not_returnsAt_of_stops hstart h.holds
    have hshown := length_shown_le hne ((stops_append hne).mp hstart)
    rw [heq, hc.shown_parameters hd] at hshown
    omega
  · intro hnone
    have hwhole : untilReturns? (d.parameters ++ d.closing.text) = some d.parameters := by
      refine untilReturns?_append hd.returnsAt_closing ?_
      rw [closing_text]
      exact not_returnsAt_append hnone (hc.stops_reverse hd) hd.blanksOfParameters
    rw [untilReturns?_of_firstAt h] at hwhole
    rw [Option.some.inj hwhole]

/-! ### No parameters -/

theorem untilReturns?_word_append {w : Text} (hw : IsWord w) (s : Text) :
    untilReturns? (w ++ s) = (untilReturns? s).map (w ++ ·) := by
  refine untilReturns?_append_eq_map fun y hy hne => ?_
  have hword : IsWord y := hw.of_suffix hy hne
  exact not_returnsAt_of_stops (hword.stops_blank s)

theorem untilReturns?_blanks_append {b : Text} (hb : IsBlanks b) (hs : Stops Character.isBlank s)
    (hreturns : ¬ returnsWord <+: s) :
    untilReturns? (b ++ s) = (untilReturns? s).map (b ++ ·) := by
  refine untilReturns?_append_eq_map fun y hy hne => ?_
  rintro ⟨b', hb', t, heq⟩
  rw [List.append_assoc] at heq
  obtain ⟨-, rfl⟩ := append_inj_of_stops hb'.all (fun c hc => hb.all c (hy.subset hc))
    (isWord_returnsWord.stops_blank t) hs heq
  exact hreturns (List.prefix_append returnsWord t)

/-- In an open declaration, blanks lead to no second `returns`, unless the return type begins with
it. -/
theorem WellFormed.untilReturns?_ending (hd : d.WellFormed) (h : ¬ returnsWord <+: d.returnType) :
    untilReturns? d.ending = none := by
  have hnil : untilReturns? d.returnType = none := by
    rw [← List.append_nil d.returnType, untilReturns?_word_append hd.returnType]
    rfl
  have hstop : Stops Character.isBlank d.returnType := by
    simpa using hd.returnType.stops_blank []
  rw [ending, List.append_assoc, untilReturns?_word_append isWord_returnsWord,
    untilReturns?_blanks_append hd.blanksOfReturns hstop h, hnil]
  rfl

/-- In an open declaration, the list that begins at `takes` is empty, unless blanks lead to a second
`returns`. -/
theorem IsOpen.parametersAt?_eq (ho : d.IsOpen) (hd : d.WellFormed) :
    parametersAt? (takesWord ++ (d.blanksOfTakes ++ (d.parameters ++ d.closing.text))) =
      (untilReturns? d.ending).or (some []) := by
  have hlength : 2 ≤ (d.blanksOfTakes ++ d.blanksOfParameters).length := by
    have hpos := List.length_pos_iff.mpr hd.blanksOfTakes.ne_nil
    rw [List.length_append, ho.length_eq]
    omega
  have hreturns : returnsWord <+: d.ending := ⟨d.blanksOfReturns ++ d.returnType, by simp [ending]⟩
  have hstop : Stops Character.isBlank d.ending := by simpa using d.stops_ending_append []
  rw [ho.eq_nil, closing_text, List.nil_append, ← List.append_assoc d.blanksOfTakes,
    parametersAt?_append (hd.blanksOfTakes.append hd.blanksOfParameters.all) hstop, if_pos]
  rw [Bool.and_eq_true, decide_eq_true_eq, List.isPrefixOf_iff_prefix]
  exact ⟨hlength, hreturns⟩

/-- **An open declaration shows no parameters**, unless the return type begins with `returns`. -/
theorem parametersIn?_text_of_isOpen (hd : d.WellFormed) (ho : d.IsOpen)
    (hname : ¬ takesWord <:+ d.name) (h : ¬ returnsWord <+: d.returnType) :
    parametersIn? d.text = some [] := by
  rw [parametersIn?, firstMatch?_text_of_name keyed_parametersAt? isWord_takesWord (by decide) hd
    hname]
  apply firstMatch?_of_eq_some
  rw [ho.parametersAt?_eq hd, hd.untilReturns?_ending h, Option.none_or]

/-! ### The return type -/

/-- A text that starts with `returns`, blanks and a word. -/
def TypeAt (s : Text) : Prop := ∃ b w, IsBlanks b ∧ IsWord w ∧ returnsWord ++ (b ++ w) <+: s

theorem typeAt_iff : TypeAt s ↔ (wordAt? returnsWord s).isSome := by
  rw [Option.isSome_iff_exists]
  simp only [wordAt?_eq_some_iff]
  constructor
  · rintro ⟨b, w, hb, hw, t, rfl⟩
    exact ⟨w ++ t.takeWhile Character.isWord, b, t.dropWhile Character.isWord, by simp, hb,
      hw.append fun c hc => List.mem_takeWhile_imp hc, stops_dropWhile t⟩
  · rintro ⟨w, b, t, rfl, hb, hw, -⟩
    exact ⟨b, w, hb, hw, t, by simp⟩

/-- The word behind the first `returns` that has one is found. -/
theorem FirstAt.returnTypeIn?_eq (h : FirstAt TypeAt (d.parameters ++ d.closing.text) before rest)
    (hd : d.WellFormed) (hname : ¬ returnsWord <:+ d.name) :
    ∃ b w t, rest = returnsWord ++ (b ++ (w ++ t)) ∧ IsBlanks b ∧ IsWord w ∧
      Stops Character.isWord t ∧ returnTypeIn? d.text = some w := by
  obtain ⟨w, hw⟩ := Option.isSome_iff_exists.mp (typeAt_iff.mp h.holds)
  obtain ⟨b, t, hrest, hb, hword, ht⟩ := wordAt?_eq_some_iff.mp hw
  refine ⟨b, w, t, hrest, hb, hword, ht, ?_⟩
  rw [returnTypeIn?_text_eq hd hname, h.firstMatch?_eq fun s => typeAt_iff.mpr]
  exact firstMatch?_of_eq_some hw

/-- A `returns` with a word behind it does not start in a text that holds none and does not end
with `returns` or a blank, if blanks follow it. -/
theorem not_typeAt_append {x b t : Text} (hx : ∀ v, v <:+ x → ¬ TypeAt v)
    (hreturns : ¬ returnsWord <:+ x) (hend : Stops Character.isBlank x.reverse) (hb : IsBlanks b) :
    ∀ y, y <:+ x → y ≠ [] → ¬ TypeAt (y ++ (b ++ t)) := by
  rintro y hy hne ⟨b', w, hb', hw, t', heq⟩
  simp only [List.append_assoc] at heq
  rcases List.append_eq_append_iff.mp heq with ⟨m, rfl, hm⟩ | ⟨m, hm, hrest⟩
  · have hmx : m <:+ x := (List.suffix_append returnsWord m).trans hy
    have hblanks : ¬ IsBlanks m := not_isBlanks_of_suffix hend hmx
    rcases List.append_eq_append_iff.mp hm with ⟨k, rfl, hk⟩ | ⟨k, rfl, -⟩
    · rcases List.append_eq_append_iff.mp hk with ⟨j, rfl, -⟩ | ⟨j, rfl, -⟩
      · -- the word ends in `x`
        exact hx _ hy ⟨b', w, hb', hw, j, by simp⟩
      · -- a start of the word does, unless only the blanks before it do
        have hk' : k ≠ [] := by
          rintro rfl
          exact hblanks (by simpa using hb')
        exact hx _ hy ⟨b', k, hb', ⟨hk', fun c hc => hw.all c (by simp [hc])⟩, List.prefix_rfl⟩
    · -- the blanks end behind `x`, so `x` ends with `returns` or with blanks
      refine hblanks ⟨?_, fun c hc => hb'.all c (by simp [hc])⟩
      rintro rfl
      exact hreturns (by simpa using hy)
  · -- the keyword ends at the blanks `b`, or it would go on where they begin
    cases m with
    | nil => exact hreturns (by simpa [hm] using hy)
    | cons c m =>
      have hm' : IsWord (c :: m) := isWord_returnsWord.of_suffix ⟨y, hm.symm⟩ (by simp)
      exact hb.append_ne_append hm' _ _ hrest

/-- **The return type that is found is that of the declaration** if the parameters do not end with
`returns` and no `returns` in them has a word behind it. -/
theorem returnTypeIn?_text_of_not_typeAt (hd : d.WellFormed) (hname : ¬ returnsWord <:+ d.name)
    (hend : Stops Character.isBlank d.parameters.reverse)
    (hreturns : ¬ returnsWord <:+ d.parameters)
    (hx : ∀ v, v <:+ d.parameters → ¬ TypeAt v) : returnTypeIn? d.text = some d.returnType := by
  have hparameters : ∀ y, y <:+ d.parameters → y ≠ [] →
      wordAt? returnsWord (y ++ (d.blanksOfParameters ++ d.ending)) = none := by
    intro y hy hne
    rw [← Option.not_isSome_iff_eq_none, ← typeAt_iff]
    exact not_typeAt_append hx hreturns hend hd.blanksOfParameters y hy hne
  rw [returnTypeIn?_text_eq hd hname, closing_text, firstMatch?_append hparameters,
    firstMatch?_blanks_append (keyed_wordAt? returnsWord) isWord_returnsWord hd.blanksOfParameters,
    hd.firstMatch?_ending]

/-- The closing of a declaration names a type. -/
theorem WellFormed.exists_firstAt_typeAt (hd : d.WellFormed) :
    ∃ before rest, FirstAt TypeAt (d.parameters ++ d.closing.text) before rest := by
  refine exists_firstAt ⟨d.ending, ?_, d.blanksOfReturns, d.returnType, hd.blanksOfReturns,
    hd.returnType, by simp [ending]⟩
  rw [closing_text]
  exact (List.suffix_append _ _).trans (List.suffix_append _ _)

theorem WellFormed.exists_firstAt_returnsAt (hd : d.WellFormed) :
    ∃ before rest, FirstAt ReturnsAt (d.parameters ++ d.closing.text) before rest :=
  exists_firstAt ⟨d.closing.text, List.suffix_append _ _, hd.returnsAt_closing⟩

end Declaration

/-! ### Entries -/

open Declaration Text

variable {b : Block}

theorem entry_parameters {p : Text} (h : parametersIn? b.declaration.text = some p) :
    b.entry.parameters = shown p := by
  simp [Block.entry, Entry.build, h, shown]

theorem entry_returnType {w : Text} (h : returnTypeIn? b.declaration.text = some w)
    (hw : IsWord w) : b.entry.returnType = w := by
  simp [Block.entry, Entry.build, h, Entry.orElse_some hw.ne_nil]

/-- **The parameters of an entry** are those up to the first place where blanks lead to `returns`,
and they are the ones of the declaration exactly if that place is the closing. -/
theorem entry_parameters_of_wellFormed (hd : b.declaration.WellFormed)
    (hkind : b.declaration.IsClosed ∨ b.declaration.IsOpen)
    (hname : ¬ takesWord <:+ b.declaration.name)
    (htype : b.declaration.parameters = [] → ¬ returnsWord <+: b.declaration.returnType) :
    (∃ before rest,
      FirstAt ReturnsAt (b.declaration.parameters ++ b.declaration.closing.text) before rest ∧
        b.entry.parameters = shown before) ∧
      (b.entry.parameters = shown b.declaration.parameters ↔
        ∀ v, v <:+ b.declaration.parameters → ¬ ReturnsAt v) := by
  rcases hkind with hc | ho
  · obtain ⟨before, rest, h⟩ := hd.exists_firstAt_returnsAt
    have hp := entry_parameters
      (parametersIn?_text_of_untilReturns? hd hname hc.ne_nil hc.stops (untilReturns?_of_firstAt h))
    rw [hp]
    exact ⟨⟨before, rest, h, rfl⟩, hc.shown_eq_iff hd h⟩
  · have hp := entry_parameters (parametersIn?_text_of_isOpen hd ho hname (htype ho.eq_nil))
    rw [hp, ho.eq_nil, List.nil_append]
    refine ⟨⟨[], _, ⟨rfl, hd.returnsAt_closing, fun y hy hne => ?_⟩, rfl⟩, iff_of_true rfl ?_⟩
    · exact absurd (List.suffix_nil.mp hy) hne
    · intro v hv
      rw [List.suffix_nil.mp hv]
      exact not_returnsAt_of_stops stops_nil

/-- **The return type of an entry** is the word behind the first `returns` that has one, and it is
the one of the declaration if none of these stands in the parameters. -/
theorem entry_returnType_of_wellFormed (hd : b.declaration.WellFormed)
    (hkind : b.declaration.IsClosed ∨ b.declaration.IsOpen)
    (hname : ¬ returnsWord <:+ b.declaration.name) :
    (∃ before blanks rest,
      FirstAt TypeAt (b.declaration.parameters ++ b.declaration.closing.text) before
          (returnsWord ++ (blanks ++ (b.entry.returnType ++ rest))) ∧
        IsBlanks blanks ∧ IsWord b.entry.returnType ∧ Stops Character.isWord rest) ∧
      (¬ returnsWord <:+ b.declaration.parameters →
        (∀ v, v <:+ b.declaration.parameters → ¬ TypeAt v) →
          b.entry.returnType = b.declaration.returnType) := by
  constructor
  · obtain ⟨before, rest, h⟩ := hd.exists_firstAt_typeAt
    obtain ⟨blanks, w, t, rfl, hblanks, hw, ht, hfound⟩ := h.returnTypeIn?_eq hd hname
    rw [entry_returnType hfound hw]
    exact ⟨before, blanks, t, h, hblanks, hw, ht⟩
  · intro hreturns hx
    have hend : Stops Character.isBlank b.declaration.parameters.reverse := by
      rcases hkind with hc | ho
      · exact hc.stops_reverse hd
      · rw [ho.eq_nil]
        exact stops_nil
    have hfound := returnTypeIn?_text_of_not_typeAt hd hname hend hreturns hx
    exact entry_returnType hfound hd.returnType

/-- **Fields and parts of the blocks of a text.** Unless the name ends with `takes`, and no return
type that begins with `returns` follows an empty list, the parameters of an entry reach up to the
first place where blanks lead to `returns`; they are those of the declaration exactly if no blanks
lead to `returns` in these. Unless the name ends with `returns`, the return type of an entry is the
word behind the first `returns` that has one; it is that of the declaration if the parameters
neither hold such a `returns` nor end with one. -/
theorem entry_of_mem_blocks (s : Text) :
    ∀ b ∈ blocks s,
      let d := b.declaration
      d.WellFormed ∧
      (¬ takesWord <:+ d.name → (d.parameters = [] → ¬ returnsWord <+: d.returnType) →
        (∃ before rest, FirstAt ReturnsAt (d.parameters ++ d.closing.text) before rest ∧
          b.entry.parameters = shown before) ∧
        (b.entry.parameters = shown d.parameters ↔ ∀ v, v <:+ d.parameters → ¬ ReturnsAt v)) ∧
      (¬ returnsWord <:+ d.name →
        (∃ before blanks rest,
          FirstAt TypeAt (d.parameters ++ d.closing.text) before
              (returnsWord ++ (blanks ++ (b.entry.returnType ++ rest))) ∧
            IsBlanks blanks ∧ IsWord b.entry.returnType ∧ Stops Character.isWord rest) ∧
        (¬ returnsWord <:+ d.parameters → (∀ v, v <:+ d.parameters → ¬ TypeAt v) →
          b.entry.returnType = d.returnType)) := by
  intro b hb d
  obtain ⟨hd, hkind⟩ := declaration_of_mem_blocks hb
  exact ⟨hd, entry_parameters_of_wellFormed hd hkind, entry_returnType_of_wellFormed hd hkind⟩

/-- A parameter whose name begins with `returns` cuts the list short; the return type is found. -/
theorem entry_of_mem_blocks_of_returns :
    let b : Block :=
      ⟨"/** a */", ⟨"\n", " ", "Leave", " ", " ", "integer returnsLeft", " ", " ", "unit"⟩⟩
    b ∈ blocks "/** a */\nnative Leave takes integer returnsLeft returns unit" ∧
      b.entry.parameters = "integer" ∧
      (b.entry.parameters = shown b.declaration.parameters ↔
        ∀ v, v <:+ b.declaration.parameters → ¬ ReturnsAt v) ∧
      b.entry.returnType = b.declaration.returnType := by
  intro b
  have hb : b ∈ blocks "/** a */\nnative Leave takes integer returnsLeft returns unit" := by
    decide +kernel
  have hx : ∀ v, v <:+ b.declaration.parameters → ¬ TypeAt v := by
    have hnone : ∀ v ∈ b.declaration.parameters.tails, wordAt? returnsWord v = none := by
      decide +kernel
    intro v hv
    rw [typeAt_iff, Option.not_isSome_iff_eq_none]
    exact hnone v ((List.mem_tails v _).mpr hv)
  obtain ⟨-, hparameters, hreturnType⟩ := entry_of_mem_blocks _ b hb
  exact ⟨hb, by decide +kernel, (hparameters (by decide) (by decide)).2,
    (hreturnType (by decide)).2 (by decide) hx⟩

/-- **The two readings disagree** where a parameter begins with `returns`; and, since the second one
takes the end of a word for a keyword, where a name ends with one. -/
theorem exists_block_disagreeing :
    (¬ ∀ b ∈ blocks "/** a */\nnative Leave takes integer returnsLeft returns unit",
      b.entry.parameters = shown b.declaration.parameters) ∧
    (¬ ∀ b ∈ blocks "/** a */\nnative Retakes takes integer a returns unit",
      b.entry.parameters = shown b.declaration.parameters) ∧
    (¬ ∀ b ∈ blocks "/** a */\nnative Noreturns takes integer a returns unit",
      b.entry.returnType = b.declaration.returnType) := by
  decide +kernel

end NativeFinder
