import NativeFinder.Number.Numeral
import NativeFinder.Proofs.Text.Cuts

/-!
# Numerals that consist of digits

A row is opened by a numeral that consists of digits. A digit is a decimal digit of some script, or
a typographic form of one, such as a superscript; only the first has a value in a numeral.
`decimalValue?` gives the number that a text of decimal digits writes, and `parseInt_of_isDigit`
says that this is how a text of digits is read, if it is not too long.
-/

namespace NativeFinder

namespace Character

variable {c : Char}

/-- The ranges of the decimal digits. -/
def decimalRanges : List (Nat × Nat) := decimalZeros.map fun start => (start, start + 9)

theorem isSome_decimalDigit? (c : Char) :
    (decimalDigit? c).isSome = inRanges decimalRanges c.toNat := by
  rw [Bool.eq_iff_iff]
  simp [decimalDigit?, decimalRanges, inRanges]

theorem isDigit_of_decimalDigit? {d : Nat} (h : decimalDigit? c = some d) : isDigit c = true := by
  simp [isDigit, h]

/-- The value of a digit has one digit. -/
theorem lt_ten_of_decimalDigit? {d : Nat} (h : decimalDigit? c = some d) : d < 10 := by
  obtain ⟨start, hstart, rfl⟩ := Option.map_eq_some_iff.mp h
  have hrange := List.find?_some hstart
  simp only [Bool.and_eq_true, decide_eq_true_eq] at hrange
  omega

/-- A typographic digit is not in ASCII. -/
theorem le_toNat_of_typographic (h : decimalDigit? c = none) (hc : isDigit c = true) :
    0x80 ≤ c.toNat := by
  have htypographic : inRanges typographicDigitRanges c.toNat = true := by
    simpa [isDigit, h] using hc
  have hascii : inRanges [(0, 0x7F)] c.toNat = false :=
    inRanges_disjoint (by decide +kernel) htypographic
  simp only [inRanges, List.any_cons, List.any_nil, Bool.or_false, Bool.and_eq_false_iff,
    decide_eq_false_iff_not] at hascii
  omega

theorem inRanges_of_isDigit (h : isDigit c = true) :
    inRanges (decimalRanges ++ typographicDigitRanges) c.toNat = true := by
  rw [isDigit, isSome_decimalDigit?] at h
  simpa [inRanges] using h

/-- The ranges of all blanks. -/
def allBlankRanges : List (Nat × Nat) :=
  [(0x20, 0x20), (0x09, 0x0D), (0x1C, 0x1F)] ++ blankRanges

theorem inRanges_of_isBlank (h : isBlank c = true) : inRanges allBlankRanges c.toNat = true := by
  unfold isBlank at h
  dsimp only at h
  simp only [inRanges, allBlankRanges, List.any_append, Bool.or_eq_true]
  split at h
  · left
    simp only [List.any_cons, List.any_nil, Bool.or_eq_true, Bool.and_eq_true, decide_eq_true_eq,
      beq_iff_eq, Bool.false_eq_true, or_false] at h ⊢
    omega
  · exact .inr h

/-- A digit is no blank. -/
theorem isBlank_eq_false_of_isDigit (h : isDigit c = true) : isBlank c = false := by
  have hblank : inRanges allBlankRanges c.toNat = false :=
    inRanges_disjoint (by decide +kernel) (inRanges_of_isDigit h)
  by_contra hnot
  rw [inRanges_of_isBlank (by simpa using hnot)] at hblank
  cases hblank

end Character

namespace Numeral

/-- **The number that decimal digits write**, in any script; `none` if another character is among
them. -/
def decimalValue? (s : Text) : Option Nat :=
  s.foldlM (fun n c => (Character.decimalDigit? c).map (10 * n + ·)) 0

/-! ### Digits in their ASCII form -/

/-- A digit in its ASCII form, if it has one. -/
def plainDigit (c : Char) : Char :=
  match Character.decimalDigit? c with
  | some d => Nat.digitChar d
  | none => c

variable {c : Char} {s : Text}

theorem plainDigits_eq (s : Text) : plainDigits s = s.map plainDigit := rfl

/-- The ASCII form is an ASCII digit exactly if there is one. -/
theorem isDigit_plainDigit (h : Character.isDigit c = true) :
    (plainDigit c).isDigit = (Character.decimalDigit? c).isSome := by
  unfold plainDigit
  cases hd : Character.decimalDigit? c with
  | some d =>
    have hlt := Character.lt_ten_of_decimalDigit? hd
    simp [Nat.isDigit_digitChar, hlt]
  | none =>
    have hle := Character.le_toNat_of_typographic hd h
    refine Bool.eq_false_iff.mpr fun hascii => ?_
    have hbound : c.toNat ≤ 57 := (Char.isDigit_iff_toNat.mp hascii).2
    omega

/-- What is no digit, in ASCII, is not the form of a digit either. -/
theorem plainDigit_ne {d : Char} (h : Character.isDigit c = true) (hd : d.isDigit = false)
    (hascii : d.toNat < 0x80) : plainDigit c ≠ d := by
  rintro rfl
  rw [isDigit_plainDigit h, Option.isSome_eq_false_iff, Option.isNone_iff_eq_none] at hd
  have hle := Character.le_toNat_of_typographic hd h
  have hplain : plainDigit c = c := by simp [plainDigit, hd]
  rw [hplain] at hascii
  omega

/-! ### Reading digits -/

/-- A text without underscores is read as it is. -/
theorem dropUnderscores?_of_not_mem (h : '_' ∉ s) (afterDigit : Bool) :
    dropUnderscores? afterDigit s = some s := by
  induction s generalizing afterDigit with
  | nil => simp [dropUnderscores?]
  | cons c s ih =>
    obtain ⟨hc, hs⟩ : c ≠ '_' ∧ '_' ∉ s := by simpa [eq_comm] using h
    unfold dropUnderscores?
    split
    · rename_i heq
      cases heq
    · exact absurd (List.cons.inj ‹_›).1 hc
    · exact absurd (List.cons.inj ‹_›).1 hc
    · rename_i heq
      obtain ⟨rfl, rfl⟩ := List.cons.inj heq
      rw [ih hs]
      rfl

theorem splitSign_of_head (h : ∀ c ∈ s.head?, c ≠ '-' ∧ c ≠ '+') : splitSign s = (false, s) := by
  unfold splitSign
  split
  · exact absurd rfl (h _ rfl).1
  · exact absurd rfl (h _ rfl).2
  · rfl

/-- Digits have a value together exactly if they are decimal digits. -/
theorem foldlM_decimalDigit? (h : ∀ c ∈ s, Character.isDigit c = true) (n : Nat) :
    s.foldlM (fun n c => (Character.decimalDigit? c).map (10 * n + ·)) n =
      if (s.map plainDigit).all Char.isDigit then
        some ((s.map plainDigit).foldl (fun n c => 10 * n + (c.toNat - '0'.toNat)) n)
      else none := by
  induction s generalizing n with
  | nil => rfl
  | cons c s ih =>
    obtain ⟨hc, hs⟩ := List.forall_mem_cons.mp h
    rw [List.foldlM_cons, List.map_cons, List.all_cons, isDigit_plainDigit hc, List.foldl_cons]
    cases hd : Character.decimalDigit? c with
    | none => rfl
    | some d =>
      have hlt := Character.lt_ten_of_decimalDigit? hd
      have hvalue : (plainDigit c).toNat - '0'.toNat = d := by
        rw [plainDigit, hd, Nat.toNat_digitChar_of_lt_ten hlt]
        exact Nat.add_sub_cancel_left ..
      rw [hvalue]
      exact ih hs (10 * n + d)

/-- What has a value consists of digits. -/
theorem isDigit_of_decimalValue? {n : Nat} (h : decimalValue? s = some n) :
    ∀ c ∈ s, Character.isDigit c = true := by
  suffices hfold : ∀ m, s.foldlM (fun n c => (Character.decimalDigit? c).map (10 * n + ·)) m =
      some n → ∀ c ∈ s, Character.isDigit c = true from hfold 0 h
  intro m hm
  clear h
  induction s generalizing m with
  | nil => simp
  | cons c s ih =>
    rw [List.foldlM_cons] at hm
    cases hd : Character.decimalDigit? c with
    | none => simp [hd] at hm
    | some d =>
      rw [hd] at hm
      exact List.forall_mem_cons.mpr ⟨Character.isDigit_of_decimalDigit? hd, ih _ hm⟩

/-- **Digits are read** as the number that they write, if they are decimal digits and not too
many. -/
theorem parseInt_of_isDigit (hne : s ≠ []) (h : ∀ c ∈ s, Character.isDigit c = true) :
    parseInt s =
      match decimalValue? s with
      | none => .error (.malformed s)
      | some n => if digitLimit < s.length then .error (.tooLong s.length) else .ok n := by
  have hmargin : ∀ c ∈ s, isMargin c = false := fun c hc => by
    simp [isMargin, Character.isBlank_eq_false_of_isDigit (h c hc)]
  have htrim : trimMargin s = s := by
    have hdrop (t : Text) (ht : ∀ c ∈ t, isMargin c = false) : t.dropWhile isMargin = t := by
      cases t with
      | nil => rfl
      | cons c t => exact List.dropWhile_cons_of_neg (by simp [ht c (List.mem_cons_self ..)])
    rw [trimMargin, hdrop s hmargin, Text.dropEndWhile,
      hdrop s.reverse fun c hc => hmargin c (List.mem_reverse.mp hc), List.reverse_reverse]
  have hnot (d : Char) (hd : d.isDigit = false) (hascii : d.toNat < 0x80) :
      d ∉ s.map plainDigit := by
    intro hmem
    obtain ⟨c, hc, rfl⟩ := List.mem_map.mp hmem
    exact plainDigit_ne (h c hc) hd hascii rfl
  have hsign : splitSign (s.map plainDigit) = (false, s.map plainDigit) := by
    refine splitSign_of_head fun c hc => ?_
    have hmem := List.mem_of_mem_head? hc
    exact ⟨fun heq => hnot '-' rfl (by decide) (heq ▸ hmem),
      fun heq => hnot '+' rfl (by decide) (heq ▸ hmem)⟩
  -- so neither margins, nor a sign, nor underscores are taken off
  have hempty : (s.map plainDigit).isEmpty = false := by simpa using hne
  rw [parseInt, htrim, plainDigits_eq, dropUnderscores?_of_not_mem (hnot '_' rfl (by decide))]
  simp only [hsign, hempty, Bool.false_or, List.length_map, Bool.false_eq_true, if_false]
  rw [decimalValue?, foldlM_decimalDigit? h]
  cases hall : (s.map plainDigit).all Char.isDigit with
  | false => rfl
  | true =>
    simp only [Bool.not_true, Bool.false_eq_true, if_false, if_true]
    rfl

end Numeral

end NativeFinder
