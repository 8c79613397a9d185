import NativeFinder.Proofs.Text.Cuts

/-!
# Line breaks in one convention

`normalizeNewlines` makes a line feed of every line break. It goes through a text from left to
right, and what it makes of one place depends only on whether a carriage return stands right before
a line feed there. So a text can be cut in two before, unless the cut is made between these two
(`normalizeNewlines_append`), and every cut of the result comes from one of the text
(`exists_of_normalizeNewlines_eq_append`).

What holds no line break is not changed, neither forth nor back: a word or a keyword of the result
stands in the text as well (`exists_of_normalizeNewlines_eq_plain_append`), and blanks come from
blanks (`exists_of_normalizeNewlines_eq_blanks_append`).
-/

namespace NativeFinder

namespace Text

variable {s t a b : Text} {c : Char}

/-! ### From left to right -/

theorem normalizeNewlines_cons (hc : c ≠ '\r') (s : Text) :
    normalizeNewlines (c :: s) = c :: normalizeNewlines s := by
  rw [normalizeNewlines]
  · exact fun _ h _ => hc h
  · exact hc

theorem head?_ne_of_forall_ne (hs : ∀ t, s = '\n' :: t → False) : s.head? ≠ some '\n' := by
  intro hhead
  obtain ⟨t, rfl⟩ := List.head?_eq_some_iff.mp hhead
  exact hs t rfl

theorem normalizeNewlines_return_cons (hs : s.head? ≠ some '\n') :
    normalizeNewlines ('\r' :: s) = '\n' :: normalizeNewlines s := by
  rw [normalizeNewlines]
  rintro s rfl
  exact hs rfl

/-- A text may be cut before its line breaks are made one, but not between a carriage return and a
line feed. -/
theorem normalizeNewlines_append (h : s.getLast? = some '\r' → t.head? ≠ some '\n') :
    normalizeNewlines (s ++ t) = normalizeNewlines s ++ normalizeNewlines t := by
  have hlast (c : Char) {s : Text} (hs : s.getLast? = some '\r') :
      (c :: s).getLast? = some '\r' := by
    simp [List.getLast?_cons, hs]
  induction s using normalizeNewlines.induct with
  | case1 => rfl
  | case2 s ih =>
    have ih := ih fun hs => h (hlast _ (hlast _ hs))
    simp only [List.cons_append, normalizeNewlines, ih]
  | case3 s hs ih =>
    have hs' : s.head? ≠ some '\n' := head?_ne_of_forall_ne hs
    have hst : (s ++ t).head? ≠ some '\n' := by
      cases s with
      | nil => exact h rfl
      | cons d s => exact hs'
    rw [List.cons_append, normalizeNewlines_return_cons hst, normalizeNewlines_return_cons hs',
      ih fun hs => h (hlast _ hs), List.cons_append]
  | case4 c s _ hc ih =>
    rw [List.cons_append, normalizeNewlines_cons hc, normalizeNewlines_cons hc,
      ih fun hs => h (hlast _ hs), List.cons_append]

/-- **Every cut of the result comes from a cut of the text.** -/
theorem exists_of_normalizeNewlines_eq_append (h : normalizeNewlines s = a ++ b) :
    ∃ a' b', s = a' ++ b' ∧ normalizeNewlines a' = a ∧ normalizeNewlines b' = b := by
  induction s using normalizeNewlines.induct generalizing a with
  | case1 =>
    obtain ⟨rfl, rfl⟩ := List.append_eq_nil_iff.mp h.symm
    exact ⟨[], [], rfl, rfl, rfl⟩
  | case2 s ih =>
    cases a with
    | nil => exact ⟨[], _, rfl, rfl, h⟩
    | cons d a =>
      obtain ⟨rfl, hs⟩ := List.cons.inj h
      obtain ⟨a', b', rfl, rfl, rfl⟩ := ih hs
      exact ⟨'\r' :: '\n' :: a', b', rfl, rfl, rfl⟩
  | case3 s hs ih =>
    cases a with
    | nil => exact ⟨[], _, rfl, rfl, h⟩
    | cons d a =>
      rw [normalizeNewlines_return_cons (head?_ne_of_forall_ne hs)] at h
      obtain ⟨rfl, hs'⟩ := List.cons.inj h
      obtain ⟨a', b', rfl, rfl, rfl⟩ := ih hs'
      -- a line feed at the beginning of the cut would begin the whole text
      have ha' : a'.head? ≠ some '\n' :=
        head?_ne_of_forall_ne fun t ht => hs (t ++ b') (by rw [ht, List.cons_append])
      exact ⟨'\r' :: a', b', rfl, normalizeNewlines_return_cons ha', rfl⟩
  | case4 c s _ hc ih =>
    cases a with
    | nil => exact ⟨[], _, rfl, rfl, h⟩
    | cons d a =>
      rw [normalizeNewlines_cons hc] at h
      obtain ⟨rfl, hs⟩ := List.cons.inj h
      obtain ⟨a', b', rfl, rfl, rfl⟩ := ih hs
      exact ⟨c :: a', b', rfl, normalizeNewlines_cons hc a', rfl⟩

/-! ### The characters -/

theorem return_not_mem_normalizeNewlines (s : Text) : '\r' ∉ normalizeNewlines s := by
  induction s using normalizeNewlines.induct with
  | case1 => simp [normalizeNewlines]
  | case2 s ih => simp [normalizeNewlines, ih]
  | case3 s hs ih => rw [normalizeNewlines] <;> simp_all
  | case4 c s _ hc ih => rw [normalizeNewlines_cons hc]; simp_all [eq_comm]

/-- Only carriage returns get lost, and they leave a line feed. -/
theorem mem_normalizeNewlines_or (hc : c ∈ s) :
    c ∈ normalizeNewlines s ∨ c = '\r' ∧ '\n' ∈ normalizeNewlines s := by
  induction s using normalizeNewlines.induct with
  | case1 => cases hc
  | case2 s ih =>
    simp only [List.mem_cons] at hc
    rw [normalizeNewlines]
    rcases hc with rfl | rfl | hc
    · exact .inr ⟨rfl, List.mem_cons_self⟩
    · exact .inl List.mem_cons_self
    · exact (ih hc).imp (List.mem_cons_of_mem _) (And.imp_right (List.mem_cons_of_mem _))
  | case3 s hs ih =>
    rw [normalizeNewlines]
    · rcases List.mem_cons.mp hc with rfl | hc
      · exact .inr ⟨rfl, List.mem_cons_self⟩
      · exact (ih hc).imp (List.mem_cons_of_mem _) (And.imp_right (List.mem_cons_of_mem _))
    · exact hs
  | case4 d s _ hd ih =>
    rw [normalizeNewlines_cons hd]
    rcases List.mem_cons.mp hc with rfl | hc
    · exact .inl List.mem_cons_self
    · exact (ih hc).imp (List.mem_cons_of_mem _) (And.imp_right (List.mem_cons_of_mem _))

/-- A text without carriage returns stays as it is. -/
theorem normalizeNewlines_eq_self (hs : '\r' ∉ s) : normalizeNewlines s = s := by
  induction s with
  | nil => rfl
  | cons c s ih =>
    obtain ⟨hc, hs⟩ : '\r' ≠ c ∧ '\r' ∉ s := by simpa using hs
    rw [normalizeNewlines_cons hc.symm, ih hs]

/-- A text without carriage returns at the beginning is passed over. -/
theorem normalizeNewlines_append_of_return_not_mem (hs : '\r' ∉ s) (t : Text) :
    normalizeNewlines (s ++ t) = s ++ normalizeNewlines t := by
  rw [normalizeNewlines_append fun hlast => absurd (List.mem_of_getLast? hlast) hs,
    normalizeNewlines_eq_self hs]

/-- A result without line feeds is the text itself. -/
theorem eq_of_feed_not_mem (hs : '\n' ∉ normalizeNewlines s) : normalizeNewlines s = s := by
  refine normalizeNewlines_eq_self fun hreturn => ?_
  rcases mem_normalizeNewlines_or hreturn with hmem | ⟨-, hfeed⟩
  · exact return_not_mem_normalizeNewlines s hmem
  · exact hs hfeed

/-! ### Words and blanks -/

theorem IsWord.feed_not_mem {w : Text} (hw : IsWord w) : '\n' ∉ w := fun h =>
  absurd (hw.all _ h) (by decide)

/-- What begins a result and holds no line feed begins the text. -/
theorem exists_of_normalizeNewlines_eq_plain_append {w : Text} (hw : '\n' ∉ w)
    (h : normalizeNewlines s = w ++ b) : ∃ b', s = w ++ b' ∧ normalizeNewlines b' = b := by
  obtain ⟨w', b', rfl, rfl, rfl⟩ := exists_of_normalizeNewlines_eq_append h
  exact ⟨b', by rw [eq_of_feed_not_mem hw], rfl⟩

/-- Blanks at the beginning of a result come from blanks. -/
theorem exists_of_normalizeNewlines_eq_blanks_append {w : Text} (hw : IsBlanks w)
    (h : normalizeNewlines s = w ++ b) :
    ∃ w' b', s = w' ++ b' ∧ IsBlanks w' ∧ normalizeNewlines w' = w ∧ normalizeNewlines b' = b := by
  obtain ⟨w', b', rfl, rfl, rfl⟩ := exists_of_normalizeNewlines_eq_append h
  refine ⟨w', b', rfl, ⟨?_, fun c hc => ?_⟩, rfl, rfl⟩
  · rintro rfl
    exact hw.ne_nil rfl
  · rcases mem_normalizeNewlines_or hc with hmem | ⟨rfl, -⟩
    · exact hw.all c hmem
    · decide

/-- What a result holds without a line feed, the text holds too. -/
theorem infix_of_infix_normalizeNewlines {w : Text} (hw : '\n' ∉ w)
    (h : w <:+: normalizeNewlines s) : w <:+: s := by
  obtain ⟨x, y, hxy⟩ := h
  rw [List.append_assoc] at hxy
  obtain ⟨x', s', rfl, -, hs'⟩ := exists_of_normalizeNewlines_eq_append hxy.symm
  obtain ⟨y', rfl, -⟩ := exists_of_normalizeNewlines_eq_plain_append hw hs'
  exact ⟨x', y', by rw [List.append_assoc]⟩

/-- A result that ends with a line feed comes from a text that ends with a line break. -/
theorem getLast?_of_getLast?_normalizeNewlines (h : (normalizeNewlines s).getLast? = some '\n') :
    s.getLast? = some '\n' ∨ s.getLast? = some '\r' := by
  rcases List.eq_nil_or_concat' s with rfl | ⟨s, c, rfl⟩
  · cases h
  · rw [List.getLast?_concat]
    by_contra hnot
    obtain ⟨hfeed, hreturn⟩ : c ≠ '\n' ∧ c ≠ '\r' := by simpa using hnot
    rw [normalizeNewlines_append (by simp [hfeed]), normalizeNewlines_cons hreturn] at h
    simp [normalizeNewlines, hfeed] at h

/-- A word goes on in the result only where it goes on in the text. -/
theorem Stops.normalizeNewlines (h : Stops Character.isWord s) :
    Stops Character.isWord (normalizeNewlines s) := by
  intro c hc
  obtain ⟨t, ht⟩ := List.head?_eq_some_iff.mp (Option.mem_def.mp hc)
  by_cases hfeed : c = '\n'
  · rw [hfeed]
    decide
  · obtain ⟨s', rfl, -⟩ := exists_of_normalizeNewlines_eq_plain_append (w := [c])
      (by simpa using Ne.symm hfeed) ht
    exact h c (by simp)

end Text

end NativeFinder
