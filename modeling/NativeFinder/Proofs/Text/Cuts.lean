import Mathlib.Data.List.Infix
import Mathlib.Data.List.TakeWhile
import NativeFinder.Text.Basic

/-!
# What a cut of a text says

The scans of `Text` cut a text in two places: where a run of one character class ends, and
where a pattern occurs for the first time. Each of the two cuts is described here by the parts
alone, without the scan: `takeRun?_eq_some_iff` says that a run is cut where it cannot go on,
and `splitFirst?_eq_some_iff` that the part before a first occurrence does not hold the
pattern. The second needs a pattern that is **unbordered**, so that no occurrence can overlap
the one that was found; the marks of a doc comment are of this kind.
-/

namespace NativeFinder

namespace Text

/-! ### Runs -/

/-- A **run** of class `p`: one or more characters, all of the class. -/
structure IsRun (p : Char → Bool) (s : Text) : Prop where
  ne_nil : s ≠ []
  all : ∀ c ∈ s, p c = true

instance (p : Char → Bool) (s : Text) : Decidable (IsRun p s) :=
  decidable_of_iff (s ≠ [] ∧ s.all p = true)
    ⟨fun ⟨hne, hall⟩ => ⟨hne, List.all_eq_true.mp hall⟩,
      fun h => ⟨h.ne_nil, List.all_eq_true.mpr h.all⟩⟩

/-- One or more blanks. -/
abbrev IsBlanks (s : Text) : Prop := IsRun Character.isBlank s

/-- One or more word characters. -/
abbrev IsWord (s : Text) : Prop := IsRun Character.isWord s

/-- A text that does not begin with a character of class `p`: a run before it **stops** there. -/
def Stops (p : Char → Bool) (s : Text) : Prop := ∀ c ∈ s.head?, p c = false

variable {p : Char → Bool}

theorem stops_nil : Stops p [] := by simp [Stops]

theorem stops_cons {c : Char} {s : Text} : Stops p (c :: s) ↔ p c = false := by
  simp [Stops]

theorem stops_append {s t : Text} (hs : s ≠ []) : Stops p (s ++ t) ↔ Stops p s := by
  rw [Stops, Stops, List.head?_append_of_ne_nil s hs]

theorem Stops.append {s t : Text} (hs : Stops p s) (ht : Stops p t) : Stops p (s ++ t) := by
  cases s with
  | nil => exact ht
  | cons c s => exact stops_cons.mpr (stops_cons.mp hs)

/-- Dropping a class stops at a character outside it. -/
theorem stops_dropWhile (s : Text) : Stops p (s.dropWhile p) := by
  intro c hc
  have hnot := List.head?_dropWhile_not p s
  rw [Option.mem_def.mp hc] at hnot
  exact hnot

theorem IsRun.not_stops {s : Text} (hs : IsRun p s) : ¬ Stops p s := by
  obtain ⟨c, s, rfl⟩ := List.exists_cons_of_ne_nil hs.ne_nil
  rw [stops_cons, hs.all c (List.mem_cons_self ..)]
  decide

theorem IsRun.append {s t : Text} (hs : IsRun p s) (ht : ∀ c ∈ t, p c = true) :
    IsRun p (s ++ t) :=
  ⟨by simp [hs.ne_nil], fun c hc => (List.mem_append.mp hc).elim (hs.all c) (ht c)⟩

theorem IsRun.of_suffix {s t : Text} (hs : IsRun p s) (ht : t <:+ s) (hne : t ≠ []) : IsRun p t :=
  ⟨hne, fun c hc => hs.all c (ht.subset hc)⟩

theorem not_isWord_of_isBlank {c : Char} (h : Character.isBlank c = true) :
    ¬ Character.isWord c = true := by
  intro hword
  rw [Character.isBlank_eq_false_of_isWord hword] at h
  exact absurd h (by decide)

/-- A word stops a run of blanks. -/
theorem IsWord.stops_blank {s : Text} (hs : IsWord s) (t : Text) :
    Stops Character.isBlank (s ++ t) := by
  rw [stops_append hs.ne_nil]
  exact fun c hc => Character.isBlank_eq_false_of_isWord (hs.all c (List.mem_of_mem_head? hc))

/-- Blanks stop a word. -/
theorem IsBlanks.stops_word {s : Text} (hs : IsBlanks s) (t : Text) :
    Stops Character.isWord (s ++ t) := by
  rw [stops_append hs.ne_nil]
  intro c hc
  have hblank := hs.all c (List.mem_of_mem_head? hc)
  exact Bool.eq_false_iff.mpr (not_isWord_of_isBlank hblank)

/-- No text begins with blanks and with a word. -/
theorem IsBlanks.append_ne_append {b w : Text} (hb : IsBlanks b) (hw : IsWord w) (s t : Text) :
    b ++ s ≠ w ++ t := by
  intro heq
  have hstop := hw.stops_blank t
  rw [← heq, stops_append hb.ne_nil] at hstop
  exact hb.not_stops hstop

/-- A run is cut from what follows it at the first character outside the class. -/
theorem takeWhile_append_of_stops {s t : Text} (hs : ∀ c ∈ s, p c = true) (ht : Stops p t) :
    (s ++ t).takeWhile p = s ∧ (s ++ t).dropWhile p = t := by
  rw [List.takeWhile_append_of_pos hs, List.dropWhile_append_of_pos hs]
  cases t with
  | nil => simp
  | cons c t => simp [stops_cons.mp ht]

/-- A text splits in only one way into characters of a class and a part where they stop. -/
theorem append_inj_of_stops {s s' t t' : Text} (hs : ∀ c ∈ s, p c = true)
    (hs' : ∀ c ∈ s', p c = true) (ht : Stops p t) (ht' : Stops p t') (h : s ++ t = s' ++ t') :
    s = s' ∧ t = t' := by
  obtain ⟨h₁, h₂⟩ := takeWhile_append_of_stops hs ht
  obtain ⟨h₁', h₂'⟩ := takeWhile_append_of_stops hs' ht'
  exact ⟨by rw [← h₁, h, h₁'], by rw [← h₂, h, h₂']⟩

/-- From its end, a text splits in only one way into characters of a class and what stops them. -/
theorem append_inj_of_stops_reverse {s s' t t' : Text} (hs : Stops p s.reverse)
    (hs' : Stops p s'.reverse) (ht : ∀ c ∈ t, p c = true) (ht' : ∀ c ∈ t', p c = true)
    (h : s ++ t = s' ++ t') : s = s' ∧ t = t' := by
  have hreverse : t.reverse ++ s.reverse = t'.reverse ++ s'.reverse := by
    rw [← List.reverse_append, ← List.reverse_append, h]
  obtain ⟨hrun, hrest⟩ :=
    append_inj_of_stops (by simpa using ht) (by simpa using ht') hs hs' hreverse
  exact ⟨List.reverse_inj.mp hrest, List.reverse_inj.mp hrun⟩

/-- **A run is read as far as it goes**, and only if there is one. -/
theorem takeRun?_eq_some_iff {s run rest : Text} :
    takeRun? p s = some (run, rest) ↔ s = run ++ rest ∧ IsRun p run ∧ Stops p rest := by
  constructor
  · intro h
    refine ⟨eq_append_of_takeRun? h, ?_⟩
    unfold takeRun? at h
    split at h
    · simp at h
    · rename_i c r heq
      simp only [Option.some.injEq, Prod.mk.injEq] at h
      obtain ⟨rfl, rfl⟩ := h
      refine ⟨⟨by simp, fun d hd => ?_⟩, stops_dropWhile s⟩
      rw [← heq] at hd
      exact List.mem_takeWhile_imp hd
  · rintro ⟨rfl, hrun, hrest⟩
    obtain ⟨h₁, h₂⟩ := takeWhile_append_of_stops hrun.all hrest
    rw [takeRun?, h₁, h₂]
    cases run with
    | nil => exact absurd rfl hrun.ne_nil
    | cons c run => rfl

theorem takeRun?_append {run rest : Text} (hrun : IsRun p run) (hrest : Stops p rest) :
    takeRun? p (run ++ rest) = some (run, rest) :=
  takeRun?_eq_some_iff.mpr ⟨rfl, hrun, hrest⟩

/-- No run is read exactly where none begins. -/
theorem takeRun?_eq_none_iff {s : Text} : takeRun? p s = none ↔ Stops p s := by
  cases s with
  | nil => simp [takeRun?, Stops]
  | cons c s => cases hc : p c <;> simp [takeRun?, stops_cons, hc]

/-! ### First occurrences -/

/-- A pattern is **unbordered** if no proper end of it is also a start of it; two occurrences
of such a pattern never overlap. -/
def Unbordered (pat : Text) : Prop := ∀ k < pat.length, 0 < k → ¬ pat.drop k <+: pat

instance (pat : Text) : Decidable (Unbordered pat) :=
  inferInstanceAs (Decidable (∀ k < pat.length, 0 < k → ¬ pat.drop k <+: pat))

/-- Before an occurrence of an unbordered pattern, the pattern starts only where it also ends
before that occurrence. -/
theorem Unbordered.isPrefix_of_isPrefix_append {pat s t : Text} (hb : Unbordered pat)
    (hs : s ≠ []) (h : pat <+: s ++ pat ++ t) : pat <+: s := by
  have hpos : 0 < s.length := List.length_pos_iff.mpr hs
  rcases Nat.lt_or_ge s.length pat.length with hlt | hge
  · exfalso
    apply hb s.length hlt hpos
    have hdrop : pat.drop s.length <+: pat ++ t := by
      have h' := h.drop s.length
      rwa [List.append_assoc, List.drop_left] at h'
    exact List.prefix_of_prefix_length_le hdrop (List.prefix_append pat t) (by simp)
  · rw [List.append_assoc] at h
    exact List.prefix_of_prefix_length_le h (List.prefix_append s (pat ++ t)) hge

/-- **The first cut around a pattern**: the pattern does not occur in the part before it. -/
theorem splitFirst?_eq_some_iff {pat s before after : Text} (hne : pat ≠ [])
    (hb : Unbordered pat) :
    splitFirst? pat s = some (before, after) ↔ s = before ++ pat ++ after ∧ ¬ pat <:+: before := by
  induction s generalizing before with
  | nil => simp [splitFirst?, hne]
  | cons c s ih =>
    simp only [splitFirst?, List.isPrefixOf_iff_prefix]
    split
    · -- the pattern starts here
      rename_i hp
      constructor
      · intro h
        simp only [Option.some.injEq, Prod.mk.injEq] at h
        obtain ⟨rfl, rfl⟩ := h
        exact ⟨by simpa using (List.prefix_iff_eq_append.mp hp).symm, by simpa using hne⟩
      · rintro ⟨heq, hnot⟩
        have hnil : before = [] := by
          by_contra hbefore
          rw [heq] at hp
          exact hnot (hb.isPrefix_of_isPrefix_append hbefore hp).isInfix
        subst hnil
        simp [heq]
    · -- it does not, so the first character belongs to the part before
      rename_i hp
      constructor
      · intro h
        simp only [Option.map_eq_some_iff, Prod.exists, Prod.mk.injEq] at h
        obtain ⟨b, a, hs, rfl, rfl⟩ := h
        obtain ⟨rfl, hnot⟩ := ih.mp hs
        refine ⟨by simp, fun hin => ?_⟩
        rcases List.infix_cons_iff.mp hin with h | h
        · exact hp (by simpa using h.trans (List.prefix_append (c :: b) (pat ++ a)))
        · exact hnot h
      · rintro ⟨heq, hnot⟩
        cases before with
        | nil => exact absurd ⟨after, by simpa using heq.symm⟩ hp
        | cons d before =>
          simp only [List.cons_append, List.cons.injEq] at heq
          obtain ⟨rfl, heq⟩ := heq
          rw [ih.mpr ⟨heq, fun h => hnot (List.infix_cons h)⟩]
          rfl

/-- There is no cut around a pattern exactly if the text does not hold it. -/
theorem splitFirst?_eq_none_iff {pat s : Text} (hne : pat ≠ []) :
    splitFirst? pat s = none ↔ ¬ pat <:+: s := by
  induction s with
  | nil => simp [splitFirst?, hne]
  | cons c s ih =>
    simp only [splitFirst?, List.isPrefixOf_iff_prefix, List.infix_cons_iff]
    split
    · rename_i hp
      simp [hp]
    · rename_i hp
      simp [hp, ih]

/-! ### Trimming -/

/-- The blanks that trimming takes from the start of a text. -/
def leading (s : Text) : Text := s.takeWhile Character.isBlank

/-- The blanks that trimming takes from the end of a text. -/
def trailing (s : Text) : Text := ((trimStart s).reverse.takeWhile Character.isBlank).reverse

theorem trim_append_trailing (s : Text) : trim s ++ trailing s = trimStart s := by
  rw [trim, trimEnd, dropEndWhile, trailing, ← List.reverse_append,
    List.takeWhile_append_dropWhile, List.reverse_reverse]

/-- The blanks that are taken away and what is left make up the text. -/
theorem leading_append_trim (s : Text) : leading s ++ (trim s ++ trailing s) = s := by
  rw [trim_append_trailing, leading, trimStart, List.takeWhile_append_dropWhile]

theorem isBlank_of_mem_leading {s : Text} : ∀ c ∈ leading s, Character.isBlank c = true :=
  fun _ hc => List.mem_takeWhile_imp hc

theorem isBlank_of_mem_trailing {s : Text} : ∀ c ∈ trailing s, Character.isBlank c = true :=
  fun _ hc => List.mem_takeWhile_imp (List.mem_reverse.mp hc)

/-- A trimmed text does not begin with a blank. -/
theorem stops_trim (s : Text) : Stops Character.isBlank (trim s) := by
  by_cases hnil : trim s = []
  · rw [hnil]
    exact stops_nil
  · rw [← stops_append hnil (t := trailing s), trim_append_trailing]
    exact stops_dropWhile s

/-- A trimmed text does not end with a blank. -/
theorem stops_reverse_trim (s : Text) : Stops Character.isBlank (trim s).reverse := by
  rw [trim, trimEnd, dropEndWhile, List.reverse_reverse]
  exact stops_dropWhile _

/-- A text that neither begins nor ends with a blank is trimmed. -/
theorem trim_eq_self {s : Text} (hs : Stops Character.isBlank s)
    (hs' : Stops Character.isBlank s.reverse) : trim s = s := by
  have hdrop : ∀ t : Text, Stops Character.isBlank t → t.dropWhile Character.isBlank = t :=
    fun t ht => (takeWhile_append_of_stops (s := []) (by simp) ht).2
  rw [trim, trimStart, hdrop s hs, trimEnd, dropEndWhile, hdrop s.reverse hs', List.reverse_reverse]

theorem trim_isInfix (s : Text) : trim s <:+: s :=
  ⟨leading s, trailing s, by rw [List.append_assoc, leading_append_trim]⟩

/-- Trimming leaves nothing exactly of a text of blanks. -/
theorem trim_eq_nil_iff {s : Text} : trim s = [] ↔ ∀ c ∈ s, Character.isBlank c = true := by
  constructor
  · intro hnil c hc
    rw [← leading_append_trim s, hnil, List.nil_append] at hc
    rcases List.mem_append.mp hc with hc | hc
    · exact isBlank_of_mem_leading c hc
    · exact isBlank_of_mem_trailing c hc
  · intro hall
    have hstart : trimStart s = [] := List.dropWhile_eq_nil_iff.mpr hall
    rw [trim, hstart]
    rfl

/-- Blanks around a text do not change what trimming leaves of it. -/
theorem trim_append_append {before after : Text}
    (hbefore : ∀ c ∈ before, Character.isBlank c = true)
    (hafter : ∀ c ∈ after, Character.isBlank c = true) (s : Text) :
    trim (before ++ (s ++ after)) = trim s := by
  have hstart : trimStart (before ++ (s ++ after)) = trimStart (s ++ after) :=
    List.dropWhile_append_of_pos hbefore
  have hend (t : Text) : trimEnd (t ++ after) = trimEnd t := by
    rw [trimEnd, dropEndWhile, List.reverse_append, List.dropWhile_append_of_pos]
    · rfl
    · exact fun c hc => hafter c (List.mem_reverse.mp hc)
  rw [trim, hstart, trimStart, List.dropWhile_append]
  split
  · rename_i hnil
    have hnone : s.dropWhile Character.isBlank = [] := List.isEmpty_iff.mp hnil
    rw [trim, trimStart, hnone, List.dropWhile_eq_nil_iff.mpr hafter]
  · exact hend _

/-! ### Joined texts -/

/-- Joined texts are the first one and the others, each behind a separator. -/
theorem join_cons (sep s : Text) (ss : List Text) :
    join sep (s :: ss) = s ++ ss.flatMap (sep ++ ·) := by
  induction ss generalizing s with
  | nil => simp [join]
  | cons t ss ih =>
    rw [join, ih t]
    · simp
    · simp

/-- Texts that are joined behind others are added to them, each behind a separator. -/
theorem join_append {sep : Text} {ss : List Text} (hss : ss ≠ []) (ts : List Text) :
    join sep (ss ++ ts) = join sep ss ++ ts.flatMap (sep ++ ·) := by
  obtain ⟨s, ss, rfl⟩ := List.exists_cons_of_ne_nil hss
  rw [List.cons_append, join_cons, join_cons]
  simp

/-- Each of some texts stands in the joined text. -/
theorem isInfix_join_of_mem {sep s : Text} {ss : List Text} (h : s ∈ ss) : s <:+: join sep ss := by
  fun_induction join sep ss with
  | case1 => cases h
  | case2 t => rw [List.mem_singleton.mp h]
  | case3 t ts _ ih =>
    rcases List.mem_cons.mp h with rfl | h
    · exact ⟨[], sep ++ join sep ts, by simp⟩
    · exact (ih h).trans (List.suffix_append _ _).isInfix

end Text

end NativeFinder
