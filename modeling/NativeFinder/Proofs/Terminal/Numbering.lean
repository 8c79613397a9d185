import NativeFinder.Proofs.Markup.Tags
import NativeFinder.Proofs.Number.Digits
import NativeFinder.Proofs.Terminal.Notices
import NativeFinder.Terminal.Prompt

/-!
# Opening a row by its number

Rows are numbered twice: the table counts the rows that it shows, and the terminal counts those that
can be selected when it looks for a number. `numberedRow?_of_line` and `numberedRow?_eq_none` say
that the two agree, so that the row that is found stands in the line of the table with the number.

A line that consists of a colon and digits is read as a number (`ofLine_colon_digits`), and the
notice that there is no such row can always be read (`exists_ofMarkup_notice_open`).
-/

namespace NativeFinder

/-! ### Numbers of lines -/

theorem Text.ofNat_ne_nil (n : Nat) : Text.ofNat n ≠ [] := Nat.toDigits_ne_nil

theorem Text.ofNat_injective : Function.Injective Text.ofNat := by
  intro m n h
  have hvalue := congrArg (fun digits => Nat.ofDigitChars 10 digits 0) h
  simpa [Text.ofNat] using hvalue

namespace RowTable

variable {rows : List Row} {row : Row} {line : TableRow} {k i j : Nat}

/-- **A line of a table** stands for the row at its place; it has a number if the row can be
selected, and then the row is found by counting those that can. -/
theorem exists_row_of_getElem?_numbered (h : (numbered k rows)[j]? = some line) :
    ∃ row, rows[j]? = some row ∧
      (row.placeholder = true ∧ line = .ofPlaceholder row ∨
        row.placeholder = false ∧ ∃ i, line = .ofNumbered (k + i + 1) row ∧
          (rows.filter fun r => !r.placeholder)[i]? = some row) := by
  -- rows that can be selected move both counts on, placeholders neither
  induction rows generalizing k j with
  | nil => simp [numbered] at h
  | cons first rest ih =>
    rw [numbered] at h
    split at h
    · rename_i hfirst
      cases j with
      | zero => exact ⟨first, rfl, .inl ⟨hfirst, by simpa using h.symm⟩⟩
      | succ j =>
        obtain ⟨row, hrow, hcases⟩ := ih (by simpa using h)
        exact ⟨row, by simpa using hrow, by simpa [hfirst] using hcases⟩
    · rename_i hfirst
      rw [Bool.not_eq_true] at hfirst
      cases j with
      | zero => exact ⟨first, rfl, .inr ⟨hfirst, 0, by simpa using h.symm, by simp [hfirst]⟩⟩
      | succ j =>
        obtain ⟨row, hrow, hcases⟩ := ih (by simpa using h)
        refine ⟨row, by simpa using hrow, hcases.imp_right fun ⟨hnot, i, hline, hi⟩ => ?_⟩
        exact ⟨hnot, i + 1, by rw [hline]; congr 1; omega, by simpa [hfirst] using hi⟩

/-- Every row that can be selected is shown with its number. -/
theorem exists_line_of_getElem?_filter
    (h : (rows.filter fun r => !r.placeholder)[i]? = some row) :
    ∃ line ∈ numbered k rows, line.number = .bare (Text.ofNat (k + i + 1)) := by
  induction rows generalizing k i with
  | nil => simp at h
  | cons first rest ih =>
    rw [numbered]
    split
    · rename_i hfirst
      obtain ⟨line, hmem, hnumber⟩ := ih (k := k) (by simpa [hfirst] using h)
      exact ⟨line, List.mem_cons_of_mem _ hmem, hnumber⟩
    · rename_i hfirst
      cases i with
      | zero => exact ⟨_, List.mem_cons_self .., rfl⟩
      | succ i =>
        obtain ⟨line, hmem, hnumber⟩ := ih (k := k + 1) (by simpa [hfirst] using h)
        exact ⟨line, List.mem_cons_of_mem _ hmem, by rw [hnumber]; congr 2; omega⟩

end RowTable

namespace TerminalSurface

variable {t : TerminalSurface} {line : TableRow} {n j : Nat}

/-- **The row with a number** is the one in the line of the table that shows the number. -/
theorem numberedRow?_of_line (hline : (RowTable.ofRows t.rows).rows[j]? = some line)
    (hnumber : line.number = .bare (Text.ofNat n)) :
    ∃ row, t.rows[j]? = some row ∧ row.placeholder = false ∧ line = .ofNumbered n row ∧
      t.numberedRow? n = some row := by
  obtain ⟨row, hrow, ⟨-, rfl⟩ | ⟨hnot, i, rfl, hi⟩⟩ :=
    RowTable.exists_row_of_getElem?_numbered hline
  · -- the line of a placeholder has no number
    exact absurd (Cell.bare.inj hnumber).symm (Text.ofNat_ne_nil n)
  · obtain rfl : 0 + i + 1 = n := Text.ofNat_injective (Cell.bare.inj hnumber)
    refine ⟨row, hrow, hnot, rfl, ?_⟩
    rw [Nat.zero_add]
    exact hi

/-- A number that the table does not show has no row. -/
theorem numberedRow?_eq_none
    (h : ∀ line ∈ (RowTable.ofRows t.rows).rows, line.number ≠ .bare (Text.ofNat n)) :
    t.numberedRow? n = none := by
  cases n with
  | zero => rfl
  | succ k =>
    refine Option.eq_none_iff_forall_ne_some.mpr fun row hrow => ?_
    obtain ⟨line, hmem, hnumber⟩ := RowTable.exists_line_of_getElem?_filter (k := 0) hrow
    exact h line hmem (by rw [hnumber, Nat.zero_add])

end TerminalSurface

/-! ### Lines of digits -/

/-- A digit has no capital form. -/
theorem Character.toLower_of_isDigit {c : Char} (h : isDigit c = true) : c.toLower = c := by
  have hupper : inRanges [(65, 90)] c.toNat = false :=
    inRanges_disjoint (by decide +kernel) (inRanges_of_isDigit h)
  unfold Char.toLower
  split
  · rename_i hc
    have hbound : 65 ≤ c.toNat ∧ c.toNat ≤ 90 := hc
    simp [inRanges, hbound] at hupper
  · rfl

namespace Terminal

variable {digits text line : Text}

theorem trim_of_isDigit (h : ∀ c ∈ digits, Character.isDigit c = true) :
    Text.trim digits = digits := by
  refine Text.trim_eq_self (fun c hc => ?_) fun c hc => ?_
  · exact Character.isBlank_eq_false_of_isDigit (h c (List.mem_of_mem_head? hc))
  · exact Character.isBlank_eq_false_of_isDigit
      (h c (List.mem_reverse.mp (List.mem_of_mem_head? hc)))

/-- Digits are no word that ends the session. -/
theorem lowerAscii_notMem_quitWords (h : ∀ c ∈ digits, Character.isDigit c = true) :
    digits.lowerAscii ∉ quitWords := by
  have hlower : digits.lowerAscii = digits :=
    (List.map_congr_left fun c hc => Character.toLower_of_isDigit (h c hc)).trans (List.map_id _)
  rw [hlower]
  intro hmem
  have hcases : digits = "q".toList ∨ digits = "quit".toList ∨ digits = "exit".toList := by
    simpa [quitWords] using hmem
  rcases hcases with rfl | rfl | rfl
  · exact absurd (h 'q' (by simp)) (by decide)
  · exact absurd (h 'q' (by simp)) (by decide)
  · exact absurd (h 'e' (by simp)) (by decide)

/-- **A colon and digits** ask for a row. -/
theorem ofLine_colon_digits (hne : digits ≠ []) (h : ∀ c ∈ digits, Character.isDigit c = true) :
    Command.ofLine (':' :: digits) = .open digits (':' :: digits) := by
  have htrim : Text.trim (':' :: digits) = ':' :: digits := by
    refine Text.trim_eq_self (Text.stops_cons.mpr (by decide)) ?_
    rw [List.reverse_cons, Text.stops_append (by simpa using hne)]
    exact fun c hc => Character.isBlank_eq_false_of_isDigit
      (h c (List.mem_reverse.mp (List.mem_of_mem_head? hc)))
  have hall : digits.all Character.isDigit = true := List.all_eq_true.mpr h
  have hnonempty : digits.isEmpty = false := by simpa using hne
  rw [Command.ofLine, htrim]
  simp [trim_of_isDigit h, lowerAscii_notMem_quitWords h, hall, hnonempty]

/-- Only digits ask for a row, and the line holds nothing else but blanks. -/
theorem of_ofLine_eq_open (h : Command.ofLine text = .open digits line) :
    digits ≠ [] ∧ (∀ c ∈ digits, Character.isDigit c = true) ∧
      ∃ rest, line = ':' :: rest ∧ Text.trim rest = digits := by
  unfold Command.ofLine at h
  split at h
  · rename_i rest _
    simp only at h
    split at h
    · cases h
    · split at h
      · rename_i hdigits
        obtain ⟨rfl, rfl⟩ := Command.open.inj h
        obtain ⟨hne, hall⟩ : Text.trim rest ≠ [] ∧
            ∀ c ∈ Text.trim rest, Character.isDigit c = true := by
          simpa using hdigits
        exact ⟨hne, hall, rest, rfl, rfl⟩
      · cases h
  · cases h

/-! ### Notices -/

/-- A notice about a line without brackets and backslashes can be read. -/
theorem exists_ofMarkup_unknownNotice (h : ∀ c ∈ line, c ≠ '\\' ∧ c ≠ '[') :
    ∃ styled, Styled.ofMarkup (unknownNotice line) = .ok styled := by
  have hheading : ∀ c ∈ noticeHeading, c ≠ '\\' ∧ c ≠ '[' := by
    have hall : noticeHeading.all (fun c => c != '\\' && c != '[') = true := by decide
    simpa using List.all_eq_true.mp hall
  have hplain : ∀ c ∈ noticeHeading ++ line, c ≠ '\\' ∧ c ≠ '[' :=
    fun c hc => (List.mem_append.mp hc).elim (hheading c) (h c)
  have hne : noticeHeading ++ line ≠ [] := List.append_ne_nil_of_left_ne_nil (by decide) line
  have hstyle := isStyleName_noticeStyle
  have htags : Markup.liveTags false (unknownNotice line) = [noticeStyle, '/' :: noticeStyle] := by
    rw [unknownNotice_eq, inNotice, Markup.liveTags_tag hstyle.opening,
      Markup.liveTags_append_of_plain hplain hne, Markup.liveTags_tag hstyle.closing]
    rfl
  have hdraw : ∀ body ∈ Markup.liveTags false (unknownNotice line),
      Styled.opensDrawable body = true := by
    simp [htags, hstyle.opensDrawable_opening, hstyle.opensDrawable_closing]
  rw [Styled.exists_ofMarkup_iff hdraw, htags]
  simp [Styled.Closes, hstyle.afterTag?_opening, hstyle.afterTag?_closing]

/-- **The notice about a number** can be read. -/
theorem exists_ofMarkup_notice_open (h : Command.ofLine text = .open digits line) :
    ∃ styled, Styled.ofMarkup (unknownNotice line) = .ok styled := by
  obtain ⟨-, hdigits, rest, rfl, htrim⟩ := of_ofLine_eq_open h
  have hblank {c : Char} (hc : Character.isBlank c = true) : c ≠ '\\' ∧ c ≠ '[' := by
    constructor <;> (rintro rfl; revert hc; decide)
  have hdigit {c : Char} (hc : Character.isDigit c = true) : c ≠ '\\' ∧ c ≠ '[' := by
    constructor <;> (rintro rfl; revert hc; decide)
  refine exists_ofMarkup_unknownNotice (List.forall_mem_cons.mpr ⟨by decide, fun c hc => ?_⟩)
  rw [← Text.leading_append_trim rest, htrim] at hc
  rcases List.mem_append.mp hc with hc | hc
  · exact hblank (Text.isBlank_of_mem_leading c hc)
  · rcases List.mem_append.mp hc with hc | hc
    · exact hdigit (hdigits c hc)
    · exact hblank (Text.isBlank_of_mem_trailing c hc)

end Terminal

end NativeFinder
