import NativeFinder.Declaration.Entries
import NativeFinder.Proofs.Declaration.Grammar

/-!
# The fields of a declaration

The name, the parameters and the return type of an entry are looked up in the text of its
declaration, each at the first place where a keyword, blanks and the rest of the pattern stand.
A keyword that occurs **embedded**, with a character after it that is no blank, is passed over
(`firstMatch?_append_of_embedded`), so a declaration gives its own parts as long as no part
before the keyword ends with the keyword: `nameIn?_text` needs nothing of the kind,
`parametersIn?_text` and `returnTypeIn?_text` say what they need of the name and the parameters.
-/

namespace NativeFinder

/-- A part that is there and not empty needs no stand-in. -/
theorem Entry.orElse_some {standIn part : Text} (h : part ≠ []) :
    Entry.orElse standIn (some part) = part := by
  obtain ⟨c, s, rfl⟩ := List.exists_cons_of_ne_nil h
  rfl

namespace Declaration

open Text

variable {α : Type} {f : Text → Option α} {d : Declaration}

/-! ### The first match -/

theorem firstMatch?_of_eq_some {s : Text} {a : α} (h : f s = some a) :
    firstMatch? f s = some a := by
  cases s with
  | nil => exact h
  | cons c s => simp [firstMatch?, h]

/-- Where nothing matches, the search goes on. -/
theorem firstMatch?_append {x y : Text} (h : ∀ z, z <:+ x → z ≠ [] → f (z ++ y) = none) :
    firstMatch? f (x ++ y) = firstMatch? f y := by
  induction x with
  | nil => rfl
  | cons c x ih =>
    have hc : f (c :: (x ++ y)) = none := h (c :: x) List.suffix_rfl (by simp)
    have hx : firstMatch? f (x ++ y) = firstMatch? f y :=
      ih fun z hz => h z (hz.trans (List.suffix_cons c x))
    rw [List.cons_append, firstMatch?, hc, ← hx]
    rfl

/-- A reader that begins with a keyword and blanks. -/
def Keyed (keyword : Text) (f : Text → Option α) : Prop :=
  ∀ s, (f s).isSome → ∃ b t, IsBlanks b ∧ s = keyword ++ (b ++ t)

/-- Dropping the keyword and taking blanks is such a beginning. -/
theorem keyed_of_eq {keyword : Text} (g : Text × Text → Option α)
    (hf : ∀ s, f s = (dropPrefix? keyword s).bind fun t => (takeBlanks? t).bind g) :
    Keyed keyword f := by
  intro s hs
  obtain ⟨a, ha⟩ := Option.isSome_iff_exists.mp hs
  rw [hf, Option.bind_eq_some_iff] at ha
  obtain ⟨t, ht, ha⟩ := ha
  obtain ⟨⟨b, r⟩, hb, -⟩ := Option.bind_eq_some_iff.mp ha
  obtain ⟨rfl, hblanks, -⟩ := takeRun?_eq_some_iff.mp hb
  exact ⟨b, r, hblanks, dropPrefix?_eq_some_iff.mp ht⟩

/-- Wherever the keyword occurs in the text, a character that is no blank follows it there. -/
def Embedded (keyword s : Text) : Prop :=
  ∀ u v, s = u ++ keyword ++ v → v ≠ [] ∧ Stops Character.isBlank v

theorem embedded_of_not_infix {keyword s : Text} (h : ¬ keyword <:+: s) : Embedded keyword s :=
  fun u v hs => absurd ⟨u, v, hs.symm⟩ h

/-- In a word, a keyword is embedded unless the word ends with it. -/
theorem embedded_of_isWord {keyword w : Text} (hw : IsWord w) (h : ¬ keyword <:+ w) :
    Embedded keyword w := by
  intro u v hs
  have hne : v ≠ [] := by
    rintro rfl
    exact h ⟨u, by simpa using hs.symm⟩
  refine ⟨hne, fun c hc => Character.isBlank_eq_false_of_isWord (hw.all c ?_)⟩
  rw [hs]
  exact List.mem_append_right _ (List.mem_of_mem_head? hc)

/-- **Embedded keywords are passed over**, together with the blanks behind them. -/
theorem firstMatch?_append_of_embedded {keyword w b : Text} (hf : Keyed keyword f)
    (hk : IsWord keyword) (hw : Embedded keyword w) (hb : IsBlanks b) (y : Text) :
    firstMatch? f (w ++ (b ++ y)) = firstMatch? f y := by
  rw [← List.append_assoc]
  refine firstMatch?_append fun z hz hne => ?_
  by_contra hsome
  obtain ⟨b', t, hb', heq⟩ := hf _ (Option.isSome_iff_ne_none.mpr hsome)
  obtain ⟨u, hu⟩ := hz
  rcases List.append_eq_append_iff.mp hu with ⟨z', rfl, rfl⟩ | ⟨u', -, hcut⟩
  · -- the match starts in `w`
    rw [List.append_assoc] at heq
    rcases List.append_eq_append_iff.mp heq with ⟨m, hkey, hrest⟩ | ⟨m, rfl, hrest⟩
    · cases m with
      | nil =>
        rw [List.append_nil] at hkey
        exact (hw u [] (by simp [hkey])).1 rfl
      | cons c m =>
        -- the keyword would go on where the blanks begin
        have hm : IsWord (c :: m) := hk.of_suffix ⟨z', hkey.symm⟩ (by simp)
        exact hb.append_ne_append hm _ _ hrest
    · obtain ⟨hm, hstop⟩ := hw u m (by simp)
      rw [← stops_append hm, ← hrest, stops_append hb'.ne_nil] at hstop
      exact hb'.not_stops hstop
  · -- the match starts in the blanks
    have hz : IsBlanks z := hb.of_suffix ⟨u', hcut.symm⟩ hne
    exact hz.append_ne_append hk _ _ heq

/-- Blanks are passed over. -/
theorem firstMatch?_blanks_append {keyword b : Text} (hf : Keyed keyword f) (hk : IsWord keyword)
    (hb : IsBlanks b) (y : Text) : firstMatch? f (b ++ y) = firstMatch? f y := by
  have hnil : Embedded keyword [] := embedded_of_not_infix fun h =>
    hk.ne_nil (List.eq_nil_of_infix_nil h)
  rw [← List.nil_append (b ++ y), firstMatch?_append_of_embedded hf hk hnil hb]

/-! ### Keywords with a word behind them -/

theorem keyed_wordAt? (keyword : Text) : Keyed keyword (wordAt? keyword) :=
  keyed_of_eq _ fun _ => rfl

/-- **A word behind a keyword is read** as far as it goes. -/
theorem wordAt?_eq_some_iff {keyword s w : Text} :
    wordAt? keyword s = some w ↔
      ∃ b t, s = keyword ++ (b ++ (w ++ t)) ∧ IsBlanks b ∧ IsWord w ∧ Stops Character.isWord t := by
  simp only [wordAt?, takeBlanks?, takeWord?, Option.bind_eq_bind, Option.bind_eq_some_iff,
    Prod.exists, Option.some.injEq, dropPrefix?_eq_some_iff, takeRun?_eq_some_iff]
  constructor
  · rintro ⟨s₁, rfl, b, s₂, ⟨rfl, hb, -⟩, w', t, ⟨rfl, hw, ht⟩, rfl⟩
    exact ⟨b, t, rfl, hb, hw, ht⟩
  · rintro ⟨b, t, rfl, hb, hw, ht⟩
    exact ⟨_, rfl, b, w ++ t, ⟨rfl, hb, hw.stops_blank t⟩, w, t, ⟨rfl, hw, ht⟩, rfl⟩

theorem wordAt?_append {keyword b w t : Text} (hb : IsBlanks b) (hw : IsWord w)
    (ht : Stops Character.isWord t) : wordAt? keyword (keyword ++ (b ++ (w ++ t))) = some w :=
  wordAt?_eq_some_iff.mpr ⟨b, t, rfl, hb, hw, ht⟩

/-- A declaration with its parts bracketed from the right, for reading on part by part. -/
private theorem text_eq_append (d : Declaration) :
    d.text = d.lead ++ (nativeWord ++ (d.blanksOfNative ++ (d.name ++ (d.blanksOfName ++
      (takesWord ++ (d.blanksOfTakes ++ (d.parameters ++ d.closing.text))))))) := by
  simp [text_eq, stem]

/-- No keyword matches in the blanks before a declaration. -/
private theorem firstMatch?_text_of_lead {keyword : Text} (hf : Keyed keyword f)
    (hk : IsWord keyword) (hd : d.WellFormed) :
    firstMatch? f d.text =
      firstMatch? f (nativeWord ++ (d.blanksOfNative ++ (d.name ++ (d.blanksOfName ++
        (takesWord ++ (d.blanksOfTakes ++ (d.parameters ++ d.closing.text))))))) := by
  rw [text_eq_append, firstMatch?_blanks_append hf hk hd.lead]

/-- **The name of a declaration is found.** -/
theorem nameIn?_text (hd : d.WellFormed) : nameIn? d.text = some d.name := by
  rw [nameIn?, firstMatch?_text_of_lead (keyed_wordAt? nativeWord) isWord_nativeWord hd]
  exact firstMatch?_of_eq_some
    (wordAt?_append hd.blanksOfNative hd.name (hd.blanksOfName.stops_word _))

/-- Up to the `takes` after the name, no keyword other than `native` matches, unless the name ends
with it. -/
theorem firstMatch?_text_of_name {keyword : Text} (hf : Keyed keyword f) (hk : IsWord keyword)
    (hnative : ¬ keyword <:+ nativeWord) (hd : d.WellFormed) (hname : ¬ keyword <:+ d.name) :
    firstMatch? f d.text =
      firstMatch? f (takesWord ++ (d.blanksOfTakes ++ (d.parameters ++ d.closing.text))) := by
  have hnative' : Embedded keyword nativeWord := embedded_of_isWord isWord_nativeWord hnative
  have hname' : Embedded keyword d.name := embedded_of_isWord hd.name hname
  rw [firstMatch?_text_of_lead hf hk hd,
    firstMatch?_append_of_embedded hf hk hnative' hd.blanksOfNative,
    firstMatch?_append_of_embedded hf hk hname' hd.blanksOfName]

/-- Unless the name ends with `returns`, the return type is looked for from the parameters on. -/
theorem returnTypeIn?_text_eq (hd : d.WellFormed) (hname : ¬ returnsWord <:+ d.name) :
    returnTypeIn? d.text = firstMatch? (wordAt? returnsWord) (d.parameters ++ d.closing.text) := by
  have hf := keyed_wordAt? returnsWord
  have htakes : Embedded returnsWord takesWord := embedded_of_not_infix (by decide)
  rw [returnTypeIn?, firstMatch?_text_of_name hf isWord_returnsWord (by decide) hd hname,
    firstMatch?_append_of_embedded hf isWord_returnsWord htakes hd.blanksOfTakes]

/-- From `returns` on, the return type is found. -/
theorem WellFormed.firstMatch?_ending (hd : d.WellFormed) :
    firstMatch? (wordAt? returnsWord) d.ending = some d.returnType := by
  have hending : d.ending = returnsWord ++ (d.blanksOfReturns ++ (d.returnType ++ [])) := by
    simp [ending]
  rw [hending]
  exact firstMatch?_of_eq_some (wordAt?_append hd.blanksOfReturns hd.returnType stops_nil)

/-- **The return type of a declaration is found** if its name does not end with `returns` and
every `returns` in its parameters is embedded. -/
theorem returnTypeIn?_text (hd : d.WellFormed) (hname : ¬ returnsWord <:+ d.name)
    (hparameters : Embedded returnsWord d.parameters) :
    returnTypeIn? d.text = some d.returnType := by
  rw [returnTypeIn?_text_eq hd hname, closing_text, firstMatch?_append_of_embedded
    (keyed_wordAt? returnsWord) isWord_returnsWord hparameters hd.blanksOfParameters,
    hd.firstMatch?_ending]

/-! ### Parameters -/

/-- A text that starts with blanks and `returns`. -/
def ReturnsAt (s : Text) : Prop := ∃ b, IsBlanks b ∧ b ++ returnsWord <+: s

/-- A closing starts with blanks and `returns`. -/
theorem ClosingAt.returnsAt {s : Text} (h : ClosingAt s) : ReturnsAt s := by
  obtain ⟨c, hc, hs⟩ := h
  refine ⟨c.blanksOfParameters, hc.blanksOfParameters, List.IsPrefix.trans ?_ hs⟩
  exact ⟨c.blanksOfReturns ++ c.returnType, by simp [Closing.text]⟩

/-- Where blanks lead to `returns`, the parameters end. -/
theorem untilReturns?_of_returnsAt {s : Text} (h : ReturnsAt s) : untilReturns? s = some [] := by
  obtain ⟨b, hb, t, rfl⟩ := h
  obtain ⟨c, b, rfl⟩ := List.exists_cons_of_ne_nil hb.ne_nil
  have htake : takeBlanks? (c :: (b ++ (returnsWord ++ t))) = some (c :: b, returnsWord ++ t) :=
    takeRun?_eq_some_iff.mpr ⟨rfl, hb, isWord_returnsWord.stops_blank t⟩
  have hpre : returnsWord.isPrefixOf (returnsWord ++ t) = true :=
    List.isPrefixOf_iff_prefix.mpr (List.prefix_append returnsWord t)
  rw [List.append_assoc, List.cons_append, untilReturns?, htake]
  simp only [hpre, if_true]

theorem untilReturns?_cons {c : Char} {s : Text} (h : ¬ ReturnsAt (c :: s)) :
    untilReturns? (c :: s) = (untilReturns? s).map (c :: ·) := by
  rw [untilReturns?]
  split
  · rename_i b rest hb
    obtain ⟨heq, hblanks, -⟩ := takeRun?_eq_some_iff.mp hb
    rw [if_neg]
    intro hpre
    obtain ⟨t, rfl⟩ := List.isPrefixOf_iff_prefix.mp hpre
    exact h ⟨b, hblanks, t, by rw [heq, List.append_assoc]⟩
  · rfl

/-- Where blanks lead to no `returns`, the parameters go on. -/
theorem untilReturns?_append_eq_map {x s : Text}
    (h : ∀ y, y <:+ x → y ≠ [] → ¬ ReturnsAt (y ++ s)) :
    untilReturns? (x ++ s) = (untilReturns? s).map (x ++ ·) := by
  induction x with
  | nil => simp
  | cons c x ih =>
    have hnot : ¬ ReturnsAt (c :: (x ++ s)) := h (c :: x) List.suffix_rfl (by simp)
    have hx : untilReturns? (x ++ s) = (untilReturns? s).map (x ++ ·) :=
      ih fun y hy => h y (hy.trans (List.suffix_cons c x))
    rw [List.cons_append, untilReturns?_cons hnot, hx, Option.map_map]
    rfl

/-- **The parameters reach up to the first place where blanks lead to `returns`.** -/
theorem untilReturns?_append {x s : Text} (hs : ReturnsAt s)
    (h : ∀ y, y <:+ x → y ≠ [] → ¬ ReturnsAt (y ++ s)) : untilReturns? (x ++ s) = some x := by
  rw [untilReturns?_append_eq_map h, untilReturns?_of_returnsAt hs]
  simp

/-- Where a text does not end with a blank, no end of it is all blanks. -/
theorem not_isBlanks_of_suffix {x y : Text} (hend : Stops Character.isBlank x.reverse)
    (hy : y <:+ x) : ¬ IsBlanks y := by
  rintro hblanks
  obtain ⟨u, rfl⟩ := hy
  rw [List.reverse_append, stops_append (by simpa using hblanks.ne_nil)] at hend
  refine IsRun.not_stops ⟨by simpa using hblanks.ne_nil, fun c hc => ?_⟩ hend
  exact hblanks.all c (List.mem_reverse.mp hc)

/-- Blanks that lead to no `returns` in a text lead to none behind it either, if the text does not
end with a blank and blanks follow it. -/
theorem not_returnsAt_append {x b t : Text} (hx : ∀ v, v <:+ x → ¬ ReturnsAt v)
    (hend : Stops Character.isBlank x.reverse) (hb : IsBlanks b) :
    ∀ y, y <:+ x → y ≠ [] → ¬ ReturnsAt (y ++ (b ++ t)) := by
  rintro y hy hne ⟨b', hb', t', heq⟩
  rw [List.append_assoc] at heq
  rcases List.append_eq_append_iff.mp heq with ⟨m, rfl, hm⟩ | ⟨m, hm, -⟩
  · rcases List.append_eq_append_iff.mp hm with ⟨k, rfl, -⟩ | ⟨k, hk, hrest⟩
    · -- the other `returns` lies inside `x`
      exact hx _ hy ⟨b', hb', k, by rw [List.append_assoc]⟩
    · -- it ends at the blanks `b`, or it would go on where they begin
      cases k with
      | nil =>
        obtain rfl : returnsWord = m := by simpa using hk
        exact hx _ hy ⟨b', hb', List.prefix_rfl⟩
      | cons c k =>
        have hk' : IsWord (c :: k) := isWord_returnsWord.of_suffix ⟨m, hk.symm⟩ (by simp)
        exact hb.append_ne_append hk' _ _ hrest
  · -- all of `y` would be blank, but it ends as `x` does
    exact not_isBlanks_of_suffix hend hy ⟨hne, fun c hc => hb'.all c (by simp [hm, hc])⟩

/-- Before a `returns`, blanks lead to no other one in a text without `returns` that does not end
with a blank. -/
theorem not_returnsAt_of_not_infix {x b t : Text} (hx : ¬ returnsWord <:+: x)
    (hend : Stops Character.isBlank x.reverse) (hb : IsBlanks b) :
    ∀ y, y <:+ x → y ≠ [] → ¬ ReturnsAt (y ++ (b ++ t)) := by
  refine not_returnsAt_append (fun v hv hat => hx ?_) hend hb
  obtain ⟨b', -, hpre⟩ := hat
  exact ((List.suffix_append b' returnsWord).isInfix.trans hpre.isInfix).trans hv.isInfix

theorem keyed_parametersAt? : Keyed takesWord parametersAt? :=
  keyed_of_eq _ fun _ => rfl

/-- The blanks after `takes` are passed over. -/
theorem parametersAt?_append {b s : Text} (hb : IsBlanks b) (hs : Stops Character.isBlank s) :
    parametersAt? (takesWord ++ (b ++ s)) =
      (untilReturns? s).or
        (if 2 ≤ b.length && returnsWord.isPrefixOf s then some [] else none) := by
  have h₁ : dropPrefix? takesWord (takesWord ++ (b ++ s)) = some (b ++ s) :=
    dropPrefix?_eq_some_iff.mpr rfl
  have h₂ : takeBlanks? (b ++ s) = some (b, s) := takeRun?_eq_some_iff.mpr ⟨rfl, hb, hs⟩
  simp only [parametersAt?, Option.bind_eq_bind, h₁, h₂, Option.bind_some]
  cases untilReturns? s <;> rfl

/-- Unless the name ends with `takes`, the parameters that stand before the first place where
blanks lead to `returns` are found. -/
theorem parametersIn?_text_of_untilReturns? (hd : d.WellFormed) (hname : ¬ takesWord <:+ d.name)
    (hne : d.parameters ≠ []) (hstart : Stops Character.isBlank d.parameters) {p : Text}
    (hp : untilReturns? (d.parameters ++ d.closing.text) = some p) :
    parametersIn? d.text = some p := by
  rw [parametersIn?, firstMatch?_text_of_name keyed_parametersAt? isWord_takesWord (by decide) hd
    hname]
  apply firstMatch?_of_eq_some
  rw [parametersAt?_append hd.blanksOfTakes ((stops_append hne).mpr hstart), hp, Option.some_or]

/-- **The parameters of a declaration are found** if its name does not end with `takes`, and if
they are trimmed, not empty and without `returns`. -/
theorem parametersIn?_text (hd : d.WellFormed) (hname : ¬ takesWord <:+ d.name)
    (hne : d.parameters ≠ []) (hstart : Stops Character.isBlank d.parameters)
    (hend : Stops Character.isBlank d.parameters.reverse)
    (hparameters : ¬ returnsWord <:+: d.parameters) :
    parametersIn? d.text = some d.parameters := by
  refine parametersIn?_text_of_untilReturns? hd hname hne hstart
    (untilReturns?_append (ClosingAt.returnsAt ⟨d.closing, hd.closing, List.prefix_rfl⟩) ?_)
  rw [closing_text]
  exact not_returnsAt_of_not_infix hparameters hend hd.blanksOfParameters

end Declaration

end NativeFinder
