import NativeFinder.Text.Character

/-!
# Text

A **text** is a list of characters. Positions, lengths and widths count code points, and
every scan of the library is a recursion over this list. A string literal stands for the
text of its characters wherever a text is expected.

The module holds the cuts that the other modules are built from: trimming, the first place
where a pattern occurs, the lines of a text, and the pieces between separators.
-/

namespace NativeFinder

/-- A text is the list of its characters. -/
abbrev Text := List Char

/-- A string literal is the text of its characters. -/
instance : Coe String Text := ⟨String.toList⟩

namespace Text

/-! ### Trimming -/

/-- The text without its leading blanks. -/
def trimStart (s : Text) : Text := s.dropWhile Character.isBlank

/-- The text without its trailing characters of class `p`. -/
def dropEndWhile (p : Char → Bool) (s : Text) : Text := (s.reverse.dropWhile p).reverse

/-- The text without its trailing blanks. -/
def trimEnd (s : Text) : Text := dropEndWhile Character.isBlank s

/-- The text without leading and trailing blanks. -/
def trim (s : Text) : Text := trimEnd (trimStart s)

/-! ### Searching -/

/-- Cuts a text around the first occurrence of `pat`: what stands before it and after it. -/
def splitFirst? (pat : Text) : Text → Option (Text × Text)
  | [] => if pat.isEmpty then some ([], []) else none
  | c :: s =>
    if pat.isPrefixOf (c :: s) then some ([], (c :: s).drop pat.length)
    else (splitFirst? pat s).map fun (before, after) => (c :: before, after)

/-- The parts of a cut, with the pattern between them, make up the text. -/
theorem eq_append_of_splitFirst? {pat s before after : Text}
    (h : splitFirst? pat s = some (before, after)) : s = before ++ pat ++ after := by
  induction s generalizing before after with
  | nil =>
    simp only [splitFirst?] at h
    split at h <;> simp_all
  | cons c s ih =>
    simp only [splitFirst?] at h
    split at h
    · rename_i hp
      obtain ⟨t, ht⟩ := List.isPrefixOf_iff_prefix.mp hp
      simp only [Option.some.injEq, Prod.mk.injEq] at h
      obtain ⟨rfl, rfl⟩ := h
      simp [← ht]
    · obtain ⟨⟨b, a⟩, hs, heq⟩ := Option.map_eq_some_iff.mp h
      simp only [Prod.mk.injEq] at heq
      obtain ⟨rfl, rfl⟩ := heq
      simp [ih hs]

/-- Whether `pat` occurs somewhere in the text. -/
def occursIn (pat s : Text) : Bool := (splitFirst? pat s).isSome

/-- The rest of a text after a pattern that it starts with. -/
def dropPrefix? (pat s : Text) : Option Text :=
  if pat.isPrefixOf s then some (s.drop pat.length) else none

/-- A text that starts with `pat` is `pat` followed by the rest. -/
theorem dropPrefix?_eq_some_iff {pat s rest : Text} :
    dropPrefix? pat s = some rest ↔ s = pat ++ rest := by
  unfold dropPrefix?
  constructor
  · intro h
    split at h
    · rename_i hp
      obtain ⟨t, rfl⟩ := List.isPrefixOf_iff_prefix.mp hp
      simp_all
    · simp at h
  · rintro rfl
    rw [if_pos (List.isPrefixOf_iff_prefix.mpr (List.prefix_append pat rest))]
    simp

/-! ### Runs -/

/-- A run of one or more characters of class `p` and what follows it. -/
def takeRun? (p : Char → Bool) (s : Text) : Option (Text × Text) :=
  match s.takeWhile p with
  | [] => none
  | c :: run => some (c :: run, s.dropWhile p)

/-- A run is what a text starts with. -/
theorem eq_append_of_takeRun? {p : Char → Bool} {s run rest : Text}
    (h : takeRun? p s = some (run, rest)) : s = run ++ rest := by
  have hs := List.takeWhile_append_dropWhile (p := p) (l := s)
  unfold takeRun? at h
  split at h
  · simp at h
  · rename_i c r heq
    simp only [Option.some.injEq, Prod.mk.injEq] at h
    rw [← h.1, ← h.2, ← heq, hs]

/-- What follows a run is shorter than the text. -/
theorem length_lt_of_takeRun? {p : Char → Bool} {s run rest : Text}
    (h : takeRun? p s = some (run, rest)) : rest.length < s.length := by
  have heq := eq_append_of_takeRun? h
  unfold takeRun? at h
  split at h
  · simp at h
  · simp only [Option.some.injEq, Prod.mk.injEq] at h
    rw [heq, ← h.1]
    simp only [List.length_append, List.length_cons]
    omega

/-- A run of one or more blanks and what follows it. -/
def takeBlanks? (s : Text) : Option (Text × Text) := takeRun? Character.isBlank s

/-- A word and what follows it. -/
def takeWord? (s : Text) : Option (Text × Text) := takeRun? Character.isWord s

/-! ### Pieces -/

/-- The pieces of a text between the separators `sep`; a text without one is one piece. -/
def splitOn (sep : Char) : Text → List Text
  | [] => [[]]
  | c :: s =>
    match splitOn sep s with
    | [] => [[c]]
    | piece :: pieces =>
      if c = sep then [] :: piece :: pieces else (c :: piece) :: pieces

/-- The lines of a text: its pieces between line feeds. -/
def lines (s : Text) : List Text := splitOn '\n' s

/-- The texts of a list in order, with `sep` between neighbours. -/
def join (sep : Text) : List Text → Text
  | [] => []
  | [s] => s
  | s :: rest => s ++ sep ++ join sep rest

/-- The pieces between separators are never none. -/
theorem splitOn_ne_nil (sep : Char) (s : Text) : splitOn sep s ≠ [] := by
  cases s with
  | nil => simp [splitOn]
  | cons c s =>
    simp only [splitOn]
    split
    · simp
    · split <;> simp

/-- Joining the pieces with their separator gives the text back. -/
theorem join_splitOn (sep : Char) (s : Text) : join [sep] (splitOn sep s) = s := by
  induction s with
  | nil => rfl
  | cons c s ih =>
    simp only [splitOn]
    split
    · rename_i h
      exact absurd h (splitOn_ne_nil sep s)
    · rename_i piece pieces h
      rw [h] at ih
      split
      · rename_i hc
        subst hc
        simp [join, ih]
      · cases pieces with
        | nil => simpa [join] using ih
        | cons p ps => simpa [join] using ih

/-! ### Forms -/

/-- The text with its ASCII capitals made small; enough to compare with an ASCII keyword. -/
def lowerAscii (s : Text) : Text := s.map Char.toLower

/-- Line breaks in the one convention of the library: a carriage return, alone or before a
line feed, becomes a line feed. -/
def normalizeNewlines : Text → Text
  | [] => []
  | '\r' :: '\n' :: s => '\n' :: normalizeNewlines s
  | '\r' :: s => '\n' :: normalizeNewlines s
  | c :: s => c :: normalizeNewlines s

/-- The text of `n` spaces. -/
def spaces (n : Nat) : Text := List.replicate n ' '

/-- The decimal numeral of a natural number. -/
def ofNat (n : Nat) : Text := Nat.toDigits 10 n

/-- The decimal numeral of `n`, filled with zeros to `width` digits. -/
def padNat (width n : Nat) : Text :=
  List.replicate (width - (ofNat n).length) '0' ++ ofNat n

/-- The decimal numeral of an integer, with a minus sign before a negative one. -/
def ofInt : Int → Text
  | .ofNat n => ofNat n
  | .negSucc n => '-' :: ofNat (n + 1)

/-- The numeral of `n` in lower-case hexadecimal digits, at least `width` of them. -/
def padHex (width n : Nat) : Text :=
  let digits := Nat.toDigits 16 n
  List.replicate (width - digits.length) '0' ++ digits

/-- Comparison by code points, a shorter text before its extensions. -/
def le : Text → Text → Bool
  | [], _ => true
  | _ :: _, [] => false
  | c :: s, d :: t => c < d || (c == d && le s t)

end Text

end NativeFinder
