import NativeFinder.Proofs.Declaration.Reading
import NativeFinder.Proofs.Text.Lines

/-!
# Summaries

The summary of an entry is looked for in all lines of its description, and the search ends at the
first line that begins with `native`, where the declaration should be. `summary_of_mem_blocks` says
what it finds, by the lines of the doc comment alone: the first of them that **has prose**, or
nothing if there is none. The declaration adds nothing, since its blanks hold no prose and its first
line ends the search.

But prose that itself begins with `native` ends the search as well, and then there is no summary
(`exists_summary_eq_nil`).
-/

namespace NativeFinder

open Text

namespace Entry

/-- A line that **has prose**: without its decoration it is not empty, and it is no annotation. -/
def HasProse (line : Text) : Prop :=
  undecorated line ≠ [] ∧ (undecorated line).head? ≠ some '@'

instance (line : Text) : Decidable (HasProse line) :=
  inferInstanceAs (Decidable (_ ∧ _))

/-- A line at which the search for a summary ends. -/
def EndsSearch (line : Text) : Prop := Declaration.nativeWord <+: trim line

instance (line : Text) : Decidable (EndsSearch line) :=
  inferInstanceAs (Decidable (_ <+: _))

/-- What the search says where a line with prose is the first one. -/
def proseOf (line : Text) : Text := if EndsSearch line then [] else undecorated line

/-- The first line with prose. -/
def proseLine? (lines : List Text) : Option Text := lines.find? fun line => HasProse line

variable {line s : Text} {ls ms : List Text}

/-! ### The search -/

theorem undecorated_trim (line : Text) : undecorated (trim line) = undecorated line := by
  rw [undecorated, trim_trim, undecorated]

theorem hasProse_trim_iff : HasProse (trim line) ↔ HasProse line := by
  rw [HasProse, undecorated_trim, HasProse]

theorem endsSearch_trim_iff : EndsSearch (trim line) ↔ EndsSearch line := by
  unfold EndsSearch
  rw [trim_trim]

theorem proseOf_trim (line : Text) : proseOf (trim line) = proseOf line := by
  unfold proseOf
  rw [undecorated_trim, if_congr endsSearch_trim_iff rfl rfl]

theorem not_hasProse_nil : ¬ HasProse [] := by decide

/-- What `native` ends with is neither a blank nor a decoration. -/
theorem stops_reverse_nativeWord {p : Char → Bool} (h : p 'e' = false) :
    Stops p Declaration.nativeWord.reverse := by
  have hreverse : Declaration.nativeWord.reverse = 'e' :: "vitan".toList := by decide
  rw [hreverse]
  exact stops_cons.mpr h

/-- A line that ends the search has prose: its `native` is no decoration. -/
theorem EndsSearch.hasProse (h : EndsSearch line) : HasProse line := by
  obtain ⟨rest, hrest⟩ := h
  have hstart : (trim line).dropWhile isDecoration = trim line := by
    rw [← hrest]
    rfl
  have hend : dropEndWhile isDecoration (trim line) =
      Declaration.nativeWord ++ dropEndWhile isDecoration rest := by
    rw [← hrest]
    exact dropEndWhile_append (stops_reverse_nativeWord (by decide)) rest
  have hword : undecorated line =
      Declaration.nativeWord ++ trimEnd (dropEndWhile isDecoration rest) := by
    rw [undecorated, hstart, hend]
    exact dropEndWhile_append (stops_reverse_nativeWord (by decide)) _
  have hhead : (undecorated line).head? = some 'n' := by
    rw [hword]
    rfl
  refine ⟨fun hnil => ?_, by simp [hhead]⟩
  rw [hnil] at hhead
  cases hhead

/-- **The search by its first line with prose.** -/
theorem firstProse_eq (ls : List Text) : firstProse ls = ((proseLine? ls).map proseOf).getD [] := by
  induction ls with
  | nil => rfl
  | cons line ls ih =>
    by_cases hline : HasProse line
    · have hfound : proseLine? (line :: ls) = some line := by simp [proseLine?, hline]
      have hprose : ((undecorated line).isEmpty || (undecorated line).head? == some '@') =
          false := by
        simpa [HasProse] using hline
      simp only [firstProse, hprose, hfound, List.isPrefixOf_iff_prefix]
      rfl
    · have hnext : proseLine? (line :: ls) = proseLine? ls := by simp [proseLine?, hline]
      have hends : ¬ EndsSearch line := mt EndsSearch.hasProse hline
      have hprose : ((undecorated line).isEmpty || (undecorated line).head? == some '@') =
          true := by
        simpa [HasProse, or_iff_not_imp_left] using hline
      rw [hnext, ← ih, firstProse, if_neg (by rwa [List.isPrefixOf_iff_prefix])]
      simp only [hprose, if_true]

/-- The search sees the trimmed lines only, and passes over empty ones. -/
theorem map_proseOf_proseLine? {k : Nat} (h : ms.map trim = ls.map trim ++ List.replicate k []) :
    (proseLine? ms).map proseOf = (proseLine? ls).map proseOf := by
  have htrim (ls : List Text) :
      (proseLine? (ls.map trim)).map proseOf = (proseLine? ls).map proseOf := by
    have hprose : (fun line => decide (HasProse line)) ∘ trim =
        fun line => decide (HasProse line) := by
      funext line
      simp [hasProse_trim_iff]
    have hof : proseOf ∘ trim = proseOf := funext proseOf_trim
    rw [proseLine?, List.find?_map, Option.map_map, hprose, hof, proseLine?]
  have hempty : proseLine? (List.replicate k []) = none := by
    simp [proseLine?, not_hasProse_nil]
  rw [← htrim ms, h, proseLine?, List.find?_append, ← proseLine?, ← proseLine?, hempty,
    Option.or_none, htrim]

end Entry

open Entry

/-- The lines of a block are those of its comment, blanks apart, and those from `native` on. -/
theorem Declaration.WellFormed.exists_lines_append {d : Declaration} (hd : d.WellFormed)
    (comment : Text) :
    ∃ ls k line rest, Text.lines (comment ++ d.text) = ls ++ line :: rest ∧
      ls.map trim = (Text.lines comment).map trim ++ List.replicate k [] ∧ EndsSearch line := by
  obtain ⟨blanks, hlead⟩ : ∃ blanks, d.lead = blanks ++ ['\n'] :=
    ⟨_, (List.dropLast_append_getLast? _ hd.getLast_lead).symm⟩
  have hblanks : ∀ c ∈ blanks, Character.isBlank c = true :=
    fun c hc => hd.lead.all c (by simp [hlead, hc])
  obtain ⟨k, hk⟩ := exists_map_trim_lines_append hblanks comment
  obtain ⟨after, hafter⟩ : ∃ after, d.text = blanks ++ '\n' :: (nativeWord ++ after) :=
    ⟨_, by rw [text, hlead]; simp only [List.append_assoc, List.cons_append, List.nil_append]; rfl⟩
  obtain ⟨first, rest, hfirst⟩ := List.exists_cons_of_ne_nil (splitOn_ne_nil '\n' after)
  have hnative : splitOn '\n' (nativeWord ++ after) = (nativeWord ++ first) :: rest := by
    rw [splitOn_append_of_not_mem (by decide), hfirst]
    rfl
  refine ⟨Text.lines (comment ++ blanks), k, nativeWord ++ first, rest, ?_, hk, ?_⟩
  · rw [hafter, ← List.append_assoc, Text.lines, splitOn_append_cons, hnative, Text.lines]
  · exact ⟨trimEnd first, (dropEndWhile_append (stops_reverse_nativeWord (by decide)) first).symm⟩

/-- The summary of a block, by its comment alone. -/
theorem Block.summary_entry {b : Block} (hd : b.declaration.WellFormed) :
    b.entry.summary = ((proseLine? (Text.lines b.comment)).map proseOf).getD [] := by
  obtain ⟨ls, k, line, rest, hlines, htrim, hends⟩ := hd.exists_lines_append b.comment
  have hsummary : b.entry.summary = firstProse (ls ++ line :: rest) := by
    rw [← hlines]
    rfl
  have hline : proseLine? (line :: rest) = some line := by simp [proseLine?, hends.hasProse]
  have hnone : proseOf line = [] := if_pos hends
  rw [hsummary, firstProse_eq, proseLine?, List.find?_append, ← proseLine?, ← proseLine?, hline,
    ← map_proseOf_proseLine? htrim]
  -- where the comment has no prose, the line of the declaration has none to show
  cases proseLine? ls <;> simp [hnone]

/-- **The summaries of a text.** The summary of a block is the first line of its doc comment that
has prose, without its decoration, unless that line begins with `native`; it is empty if there is no
such line. -/
theorem summary_of_mem_blocks (s : Text) :
    Entry.ofText s = (blocks s).map Block.entry ∧
      ∀ b ∈ blocks s, Piece.IsDocComment b.comment ∧
        b.entry.summary =
          match (Text.lines b.comment).find? fun line => HasProse line with
          | none => []
          | some line => if Declaration.nativeWord <+: trim line then [] else undecorated line := by
  refine ⟨rfl, fun b hb => ⟨isDocComment_of_mem_blocks hb, ?_⟩⟩
  rw [Block.summary_entry (declaration_of_mem_blocks hb).1, proseLine?]
  cases (Text.lines b.comment).find? fun line => HasProse line with
  | none => rfl
  | some line => rfl

/-- An annotation is passed over, and the prose behind it is found, on the line that closes the
comment. -/
theorem summary_of_mem_blocks_of_annotation :
    let b : Block :=
      ⟨"/** @async\n * Kills a unit. */",
        ⟨"\n", " ", "Kill", " ", " ", "unit u", " ", " ", "nothing"⟩⟩
    b ∈ blocks "/** @async\n * Kills a unit. */\nnative Kill takes unit u returns nothing" ∧
      b.entry.summary = "Kills a unit." := by
  intro b
  have hb : b ∈
      blocks "/** @async\n * Kills a unit. */\nnative Kill takes unit u returns nothing" := by
    decide +kernel
  refine ⟨hb, ((summary_of_mem_blocks _).2 b hb).2.trans ?_⟩
  decide +kernel

/-- **Prose can hide itself**: a doc comment whose prose begins with `native` leaves its entry
without a summary. -/
theorem exists_summary_eq_nil :
    ∃ b ∈ blocks "/**\nnatively creates a unit\n*/\nnative A takes nothing returns nothing",
      (Text.lines b.comment).find? (fun line => HasProse line) =
          some "natively creates a unit".toList ∧
        undecorated "natively creates a unit" = "natively creates a unit".toList ∧
        b.entry.summary = [] := by
  decide +kernel

end NativeFinder
