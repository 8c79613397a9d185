import NativeFinder.Proofs.Text.Cuts

/-!
# The lines of a text that goes on

A text is cut into pieces at every separator, and into lines at every line feed. What is written
behind a text adds pieces to it: behind a separator they are pieces of their own
(`splitOn_append_cons`), and elsewhere the first of them goes on with the last piece of the text
(`splitOn_append_of_not_mem`).

Blanks behind a text change its lines by no more than blanks, and add blank lines
(`exists_map_trim_lines_append`).
-/

namespace NativeFinder

namespace Text

variable {p : Char → Bool} {sep : Char} {s : Text}

/-! ### Pieces -/

theorem splitOn_cons_self (sep : Char) (s : Text) :
    splitOn sep (sep :: s) = [] :: splitOn sep s := by
  obtain ⟨piece, pieces, h⟩ := List.exists_cons_of_ne_nil (splitOn_ne_nil sep s)
  simp [splitOn, h]

theorem splitOn_cons_of_ne {c : Char} (hc : c ≠ sep) (s : Text) :
    splitOn sep (c :: s) = (splitOn sep s).modifyHead (c :: ·) := by
  obtain ⟨piece, pieces, h⟩ := List.exists_cons_of_ne_nil (splitOn_ne_nil sep s)
  simp [splitOn, h, hc]

/-- **A text is cut at every separator.** -/
theorem splitOn_append_cons (sep : Char) (s t : Text) :
    splitOn sep (s ++ sep :: t) = splitOn sep s ++ splitOn sep t := by
  induction s with
  | nil => exact splitOn_cons_self sep t
  | cons c s ih =>
    by_cases hc : c = sep
    · subst hc
      rw [List.cons_append, splitOn_cons_self, splitOn_cons_self, ih]
      rfl
    · obtain ⟨piece, pieces, h⟩ := List.exists_cons_of_ne_nil (splitOn_ne_nil sep s)
      rw [List.cons_append, splitOn_cons_of_ne hc, splitOn_cons_of_ne hc, ih, h]
      rfl

/-- A text without separators begins the first piece of every text that it starts. -/
theorem splitOn_append_of_not_mem (h : sep ∉ s) (t : Text) :
    splitOn sep (s ++ t) = (splitOn sep t).modifyHead (s ++ ·) := by
  induction s with
  | nil =>
    obtain ⟨piece, pieces, ht⟩ := List.exists_cons_of_ne_nil (splitOn_ne_nil sep t)
    simp [ht]
  | cons c s ih =>
    obtain ⟨hc, hs⟩ : c ≠ sep ∧ sep ∉ s := by simpa [eq_comm] using h
    rw [List.cons_append, splitOn_cons_of_ne hc, ih hs, List.modifyHead_modifyHead]
    rfl

/-- No piece holds the separator. -/
theorem not_mem_of_mem_splitOn {piece : Text} (h : piece ∈ splitOn sep s) : sep ∉ piece := by
  induction s generalizing piece with
  | nil =>
    rw [List.mem_singleton.mp h]
    exact List.not_mem_nil
  | cons c s ih =>
    obtain ⟨first, pieces, hs⟩ := List.exists_cons_of_ne_nil (splitOn_ne_nil sep s)
    by_cases hc : c = sep
    · subst hc
      rw [splitOn_cons_self] at h
      rcases List.mem_cons.mp h with rfl | h
      · exact List.not_mem_nil
      · exact ih h
    · rw [splitOn_cons_of_ne hc, hs, List.modifyHead_cons] at h
      rcases List.mem_cons.mp h with rfl | h
      · have hfirst : sep ∉ first := ih (hs ▸ List.mem_cons_self ..)
        simpa using ⟨Ne.symm hc, hfirst⟩
      · exact ih (hs ▸ List.mem_cons_of_mem first h)

/-- One more character belongs to the last piece. -/
theorem exists_splitOn_append_singleton {c : Char} (hc : c ≠ sep) (s : Text) :
    ∃ init last, splitOn sep s = init ++ [last] ∧
      splitOn sep (s ++ [c]) = init ++ [last ++ [c]] := by
  induction s with
  | nil => exact ⟨[], [], rfl, by simp [splitOn_cons_of_ne hc, splitOn]⟩
  | cons d s ih =>
    obtain ⟨init, last, hs, hsc⟩ := ih
    by_cases hd : d = sep
    · subst hd
      refine ⟨[] :: init, last, ?_, ?_⟩
      · rw [splitOn_cons_self, hs]
        rfl
      · rw [List.cons_append, splitOn_cons_self, hsc]
        rfl
    · rw [List.cons_append, splitOn_cons_of_ne hd, splitOn_cons_of_ne hd, hs, hsc]
      cases init with
      | nil => exact ⟨[], d :: last, rfl, rfl⟩
      | cons first init => exact ⟨(d :: first) :: init, last, rfl, rfl⟩

/-! ### Trimmed lines -/

/-- A text that does not end with a character of a class keeps what stands before it when the class
is dropped from the end. -/
theorem dropEndWhile_append (hs : Stops p s.reverse) (t : Text) :
    dropEndWhile p (s ++ t) = s ++ dropEndWhile p t := by
  have hdrop : s.reverse.dropWhile p = s.reverse :=
    (takeWhile_append_of_stops (s := []) (by simp) hs).2
  rw [dropEndWhile, dropEndWhile, List.reverse_append, List.dropWhile_append]
  split
  · rename_i hnil
    rw [List.isEmpty_iff.mp hnil, hdrop]
    simp
  · simp

@[simp]
theorem trim_trim (s : Text) : trim (trim s) = trim s :=
  trim_eq_self (stops_trim s) (stops_reverse_trim s)

/-- **Blanks behind a text** change none of its trimmed lines, and add empty ones. -/
theorem exists_map_trim_lines_append {blanks : Text}
    (h : ∀ c ∈ blanks, Character.isBlank c = true) (s : Text) :
    ∃ k, (lines (s ++ blanks)).map trim = (lines s).map trim ++ List.replicate k [] := by
  -- from the last blank on: a line feed begins an empty line, and any other blank ends the last one
  induction blanks using List.reverseRecOn with
  | nil => exact ⟨0, by simp⟩
  | append_singleton blanks c ih =>
    have hc : Character.isBlank c = true := h c (by simp)
    obtain ⟨k, hk⟩ := ih fun d hd => h d (List.mem_append_left _ hd)
    rw [← List.append_assoc]
    by_cases hfeed : c = '\n'
    · subst hfeed
      refine ⟨k + 1, ?_⟩
      rw [lines, splitOn_append_cons, List.map_append, ← lines, hk, List.append_assoc,
        List.replicate_succ']
      rfl
    · obtain ⟨init, last, hs, hsc⟩ := exists_splitOn_append_singleton hfeed (s ++ blanks)
      have hlast : trim (last ++ [c]) = trim last := by
        have hblank : ∀ d ∈ [c], Character.isBlank d = true := by simpa using hc
        exact trim_append_append (List.forall_mem_nil _) hblank last
      refine ⟨k, ?_⟩
      rw [← hk, lines, lines, hs, hsc, List.map_append, List.map_append, List.map_singleton,
        List.map_singleton, hlast]

end Text

end NativeFinder
