import NativeFinder.Json.Reader
import NativeFinder.Json.Writer
import Mathlib.Data.Option.Basic
import Mathlib.Tactic.SplitIfs

/-!
# Texts in JSON

A text that is written with escapes is read back as it was, whatever characters it is made of
(`readChars?_escape`). One character is one step of the reader
(`readChars?_escapeChar`): it stands for itself, or behind a backslash there is a letter, a unit of
four hexadecimal digits, or a pair of units for a character beyond the first plane.
-/

namespace NativeFinder

/-! ### Hexadecimal digits -/

/-- The last digit of a numeral with leading zeros is split off. -/
theorem Text.padHex_add_two (width n : Nat) :
    padHex (width + 2) n = padHex (width + 1) (n / 16) ++ [(n % 16).digitChar] := by
  rw [padHex, padHex, Nat.toDigits_eq_if (by decide)]
  split
  · rename_i hn
    have hzero : n / 16 = 0 := Nat.div_eq_of_lt hn
    simp [hzero, Nat.mod_eq_of_lt hn, List.replicate_succ']
  · have hlength : width + 2 - ((Nat.toDigits 16 (n / 16)).length + 1) =
        width + 1 - (Nat.toDigits 16 (n / 16)).length := by omega
    simp [hlength]

/-- The four digits of a unit. -/
theorem Text.padHex_four {n : Nat} (h : n < 0x10000) :
    padHex 4 n = [(n / 4096).digitChar, (n / 256 % 16).digitChar, (n / 16 % 16).digitChar,
      (n % 16).digitChar] := by
  have hfirst : n / 16 / 16 / 16 < 16 := by omega
  rw [padHex_add_two, padHex_add_two, padHex_add_two, padHex, Nat.toDigits_of_lt_base hfirst]
  simp [Nat.div_div_eq_div_mul]

namespace Json

theorem hexDigit?_digitChar : ∀ d < 16, hexDigit? d.digitChar = some d := by decide

variable {n fuel : Nat} {c e : Char} {s : Text}

/-! ### Units -/

theorem unitEscape_append (n : Nat) (s : Text) :
    unitEscape n ++ s = '\\' :: 'u' :: (Text.padHex 4 n ++ s) := rfl

theorem readUnit?_padHex (h : n < 0x10000) (s : Text) :
    readUnit? (Text.padHex 4 n ++ s) = some (n, s) := by
  have hdigit (d : Nat) : hexDigit? (d % 16).digitChar = some (d % 16) :=
    hexDigit?_digitChar _ (Nat.mod_lt _ (by decide))
  have hvalue : ((n / 4096 * 16 + n / 256 % 16) * 16 + n / 16 % 16) * 16 + n % 16 = n := by omega
  rw [Text.padHex_four h]
  simp [readUnit?, hexDigit?_digitChar (n / 4096) (by omega), hdigit, hvalue]

/-- The code of a character is no half of a pair. -/
theorem not_isHighUnit_and_not_isLowUnit (c : Char) :
    isHighUnit c.toNat = false ∧ isLowUnit c.toNat = false := by
  have hvalid : c.toNat.isValidChar := c.valid
  simp only [Nat.isValidChar] at hvalid
  simp only [isHighUnit, isLowUnit, Bool.and_eq_false_iff, decide_eq_false_iff_not]
  omega

/-- A character of the first plane is read from one unit. -/
theorem readEscapedUnits?_unit (h : c.toNat < 0x10000) (s : Text) :
    readEscapedUnits? (Text.padHex 4 c.toNat ++ s) = some (c, s) := by
  obtain ⟨hhigh, hlow⟩ := not_isHighUnit_and_not_isLowUnit c
  simp [readEscapedUnits?, readUnit?_padHex h, hhigh, hlow]

theorem readEscapedUnits?_high_low {high low : Nat} (hhigh : isHighUnit high = true)
    (hlow : isLowUnit low = true) (s : Text) :
    readEscapedUnits? (Text.padHex 4 high ++ (unitEscape low ++ s)) =
      some (ofUnits high low, s) := by
  have hhigh' : high < 0x10000 := by
    simp only [isHighUnit, Bool.and_eq_true, decide_eq_true_eq] at hhigh
    omega
  have hlow' : low < 0x10000 := by
    simp only [isLowUnit, Bool.and_eq_true, decide_eq_true_eq] at hlow
    omega
  simp [readEscapedUnits?, unitEscape_append, readUnit?_padHex hhigh', readUnit?_padHex hlow',
    hhigh, hlow]

/-- A character beyond the first plane is read from its pair of units. -/
theorem readEscapedUnits?_pair (h : 0x10000 ≤ c.toNat) (s : Text) :
    readEscapedUnits? (Text.padHex 4 (0xD800 + (c.toNat - 0x10000) / 0x400) ++
      (unitEscape (0xDC00 + (c.toNat - 0x10000) % 0x400) ++ s)) = some (c, s) := by
  have hvalid : c.toNat.isValidChar := c.valid
  simp only [Nat.isValidChar] at hvalid
  rw [readEscapedUnits?_high_low, ofUnits]
  · have hcode : 0x10000 + (0xD800 + (c.toNat - 0x10000) / 0x400 - 0xD800) * 0x400 +
        (0xDC00 + (c.toNat - 0x10000) % 0x400 - 0xDC00) = c.toNat := by omega
    rw [hcode, Char.ofNat_toNat]
  · simp only [isHighUnit, Bool.and_eq_true, decide_eq_true_eq]
    omega
  · simp only [isLowUnit, Bool.and_eq_true, decide_eq_true_eq]
    omega

/-! ### Characters -/

theorem readChars?_units {t : Text} (h : readEscapedUnits? t = some (c, s)) (fuel : Nat) :
    readChars? (fuel + 1) ('\\' :: 'u' :: t) =
      (readChars? fuel s).map fun (text, rest) => (c :: text, rest) := by
  rw [readChars?, h]
  exact (Option.map_eq_bind ..).symm

theorem readChars?_short (h : shortEscape? e = some c) (fuel : Nat) (s : Text) :
    readChars? (fuel + 1) ('\\' :: e :: s) =
      (readChars? fuel s).map fun (text, rest) => (c :: text, rest) := by
  have hne : e ≠ 'u' := by
    rintro rfl
    cases h
  rw [readChars?, h]
  · exact (Option.map_eq_bind ..).symm
  · simpa using hne

theorem readChars?_plain (hquote : c ≠ '"') (hslash : c ≠ '\\') (hcontrol : 0x20 ≤ c.toNat)
    (fuel : Nat) (s : Text) :
    readChars? (fuel + 1) (c :: s) =
      (readChars? fuel s).map fun (text, rest) => (c :: text, rest) := by
  rw [readChars?]
  · have hplain : (c != '\\' && decide (0x20 ≤ c.toNat)) = true := by simp [hslash, hcontrol]
    have hguard : (guard (c != '\\' && decide (0x20 ≤ c.toNat)) : Option Unit) = some () :=
      if_pos hplain
    rw [hguard]
    exact (Option.map_eq_bind ..).symm
  all_goals simp_all

/-- **One written character** is read in one step. -/
theorem readChars?_escapeChar (fuel : Nat) (c : Char) (s : Text) :
    readChars? (fuel + 1) (escapeChar c ++ s) =
      (readChars? fuel s).map fun (text, rest) => (c :: text, rest) := by
  unfold escapeChar
  extract_lets n m
  -- the cases are those of the writer; what they exclude is what the last ones need
  by_cases hquote : c = '"'
  · subst hquote
    exact readChars?_short rfl fuel s
  by_cases hslash : c = '\\'
  · subst hslash
    exact readChars?_short rfl fuel s
  rw [if_neg hquote, if_neg hslash]
  split_ifs with hn hr ht hb hf hplain hunit
  · exact hn ▸ readChars?_short rfl fuel s
  · exact hr ▸ readChars?_short rfl fuel s
  · exact ht ▸ readChars?_short rfl fuel s
  · exact hb ▸ readChars?_short rfl fuel s
  · exact hf ▸ readChars?_short rfl fuel s
  · simp only [Bool.and_eq_true, decide_eq_true_eq] at hplain
    exact readChars?_plain hquote hslash hplain.1 fuel s
  · rw [unitEscape_append]
    exact readChars?_units (readEscapedUnits?_unit hunit s) fuel
  · rw [List.append_assoc, unitEscape_append]
    exact readChars?_units (readEscapedUnits?_pair (Nat.le_of_not_lt hunit) s) fuel

theorem escapeChar_ne_nil (c : Char) : escapeChar c ≠ [] := by
  unfold escapeChar
  extract_lets n m
  split_ifs
  all_goals exact List.cons_ne_nil _ _

/-- A written text is as long as the text at least. -/
theorem length_le_length_flatMap_escapeChar (t : Text) :
    t.length ≤ (t.flatMap escapeChar).length := by
  induction t with
  | nil => exact Nat.le_refl _
  | cons c t ih =>
    have hpos := List.length_pos_iff.mpr (escapeChar_ne_nil c)
    simp only [List.flatMap_cons, List.length_append, List.length_cons]
    omega

theorem readChars?_flatMap_escapeChar (t rest : Text) (h : t.length < fuel) :
    readChars? fuel (t.flatMap escapeChar ++ '"' :: rest) = some (t, rest) := by
  induction t generalizing fuel with
  | nil =>
    obtain ⟨fuel, rfl⟩ := Nat.exists_eq_add_of_lt h
    simp [readChars?]
  | cons c t ih =>
    obtain ⟨fuel, rfl⟩ := Nat.exists_eq_add_of_lt h
    rw [List.flatMap_cons, List.append_assoc, readChars?_escapeChar, ih]
    · rfl
    · simp only [List.length_cons]
      omega

theorem escape_append (t rest : Text) :
    escape t ++ rest = '"' :: (t.flatMap escapeChar ++ '"' :: rest) := by
  simp [escape]

/-- **A written text is read back** up to its closing quote. -/
theorem readChars?_escape (t rest : Text) :
    readChars? ((t.flatMap escapeChar ++ '"' :: rest).length + 1)
      (t.flatMap escapeChar ++ '"' :: rest) = some (t, rest) := by
  refine readChars?_flatMap_escapeChar t rest ?_
  have hlength := length_le_length_flatMap_escapeChar t
  simp only [List.length_append, List.length_cons]
  omega

end Json

end NativeFinder
