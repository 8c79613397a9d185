import NativeFinder.Proofs.Number.Rounding
import NativeFinder.Search.Similarity
import Mathlib.Data.List.Infix
import Mathlib.Tactic.Linarith
import Mathlib.Tactic.NormNum
import Mathlib.Tactic.Positivity

/-!
# The greatest similarity

Two texts have all points for each other exactly if they are `Nested`: one of them stands in the
other, and neither is empty unless both are. This is so although a similarity is the best one over
many windows and is rounded three times on its way to points, with one limit: of two texts that are
not nested the shorter one must not be so long that the share of a single character is lost by
rounding (`score_eq_hundred_iff`). That nested texts have all points needs no limit
(`score_of_nested`).

The rows of `lcsRow` obey the recursion of the longest common subsequence (`lcsLength_cons_cons`),
by which `lcsLength` is the greatest length of a common subsequence. So only a window that is the
shorter text itself is similar to it without a rest, and any other one leaves the share of at least
one character (`similarity_le_of_ne`).
-/

namespace NativeFinder

namespace Similarity

variable {s t u w : Text} {n : Nat}

/-! ### Common subsequences -/

/-- The first entry of a row is about the whole text, and the others are the row of its rest. -/
theorem lcsRow_cons (s : Text) (d : Char) (t : Text) :
    lcsRow s (d :: t) = lcsLength s (d :: t) :: lcsRow s t := by
  induction s with
  | nil => rfl
  | cons c s ih =>
    rw [lcsLength, lcsRow, ih, lcsStep]
    rfl

/-- **The recursion** of the longest common subsequence. -/
theorem lcsLength_cons_cons (c d : Char) (s t : Text) :
    lcsLength (c :: s) (d :: t) =
      if c = d then lcsLength s t + 1 else max (lcsLength s (d :: t)) (lcsLength (c :: s) t) := by
  rw [lcsLength, lcsRow, lcsRow_cons, lcsStep]
  rfl

/-- A common subsequence is not longer. -/
theorem length_le_lcsLength (hs : u.Sublist s) (ht : u.Sublist t) : u.length ≤ lcsLength s t := by
  induction s generalizing u t with
  | nil => simp [List.sublist_nil.mp hs]
  | cons c s ihs =>
    induction t generalizing u with
    | nil => simp [List.sublist_nil.mp ht]
    | cons d t iht =>
      rw [lcsLength_cons_cons]
      split_ifs with hcd
      · have htail : u.tail.length ≤ lcsLength s t := ihs hs.tail ht.tail
        rw [List.length_tail] at htail
        omega
      · -- the first character of both texts cannot be the first one of the subsequence
        rcases List.sublist_cons_iff.mp hs with hs' | ⟨r, rfl, -⟩
        · exact le_max_of_le_left (ihs hs' ht)
        · rcases List.sublist_cons_iff.mp ht with ht' | ⟨r', heq, -⟩
          · exact le_max_of_le_right (iht hs ht')
          · exact absurd (List.cons.inj heq).1 hcd

/-- There is a common subsequence of that length. -/
theorem exists_length_eq_lcsLength (s t : Text) :
    ∃ u : Text, u.Sublist s ∧ u.Sublist t ∧ u.length = lcsLength s t := by
  induction s generalizing t with
  | nil => exact ⟨[], List.nil_sublist _, List.nil_sublist _, rfl⟩
  | cons c s ihs =>
    induction t with
    | nil => exact ⟨[], List.nil_sublist _, List.nil_sublist _, rfl⟩
    | cons d t iht =>
      rw [lcsLength_cons_cons]
      split_ifs with hcd
      · obtain ⟨u, hs, ht, hu⟩ := ihs t
        exact ⟨c :: u, hs.cons_cons c, hcd ▸ ht.cons_cons c, by rw [List.length_cons, hu]⟩
      · rcases max_choice (lcsLength s (d :: t)) (lcsLength (c :: s) t) with hmax | hmax
        · obtain ⟨u, hs, ht, hu⟩ := ihs (d :: t)
          exact ⟨u, hs.cons c, ht, hu.trans hmax.symm⟩
        · obtain ⟨u, hs, ht, hu⟩ := iht
          exact ⟨u, hs, ht.cons d, hu.trans hmax.symm⟩

theorem lcsLength_self (s : Text) : lcsLength s s = s.length := by
  obtain ⟨u, hs, -, hu⟩ := exists_length_eq_lcsLength s s
  have hself : s.Sublist s := List.Sublist.refl s
  exact le_antisymm (hu ▸ hs.length_le) (length_le_lcsLength hself hself)

/-- **Different texts** do not have all of their characters in common. -/
theorem two_mul_lcsLength_lt (h : s ≠ t) : 2 * lcsLength s t < s.length + t.length := by
  obtain ⟨u, hs, ht, hu⟩ := exists_length_eq_lcsLength s t
  have hle : u.length ≤ s.length ∧ u.length ≤ t.length := ⟨hs.length_le, ht.length_le⟩
  have hne : ¬ (u.length = s.length ∧ u.length = t.length) := fun ⟨hus, hut⟩ =>
    h ((hs.eq_of_length hus).symm.trans (ht.eq_of_length hut))
  omega

/-! ### Similarities -/

theorem similarity_eq_div (s t : Text) :
    similarity s t = 2 * lcsLength s t / (s.length + t.length) := by
  rw [similarity, Rat.mkRat_eq_div]
  push_cast
  rfl

theorem similarity_self (hs : s ≠ []) : similarity s s = 1 := by
  have hpos : (0 : Rat) < s.length := by exact_mod_cast List.length_pos_iff.mpr hs
  rw [similarity_eq_div, lcsLength_self, two_mul]
  exact div_self (by positivity)

/-- **The rest of a similarity**: of different texts, which have at most `n` characters together, it
is at least the share of one character. -/
theorem similarity_le_of_ne (h : s ≠ t) (hn : s.length + t.length ≤ n) :
    similarity s t ≤ 1 - 1 / n := by
  have hlt : 2 * lcsLength s t + 1 ≤ s.length + t.length := two_mul_lcsLength_lt h
  have hcommon : (2 * lcsLength s t + 1 : Rat) ≤ s.length + t.length := by exact_mod_cast hlt
  have hpos : (0 : Rat) < s.length + t.length := by
    have : 0 < s.length + t.length := by omega
    exact_mod_cast this
  calc similarity s t
      = 2 * lcsLength s t / (s.length + t.length) := similarity_eq_div s t
    _ ≤ (s.length + t.length - 1) / (s.length + t.length) :=
      div_le_div_of_nonneg_right (by linarith) hpos.le
    _ = 1 - 1 / (s.length + t.length) := by rw [sub_div, div_self hpos.ne']
    _ ≤ 1 - 1 / n := sub_le_sub_left (one_div_le_one_div_of_le hpos (by exact_mod_cast hn)) 1

theorem similarity_le_one (s t : Text) : similarity s t ≤ 1 := by
  by_cases h : s = t
  · subst h
    cases s with
    | nil => exact zero_le_one
    | cons c s => exact (similarity_self (List.cons_ne_nil c s)).le
  · exact (similarity_le_of_ne h le_rfl).trans (sub_le_self 1 (by positivity))

/-! ### The best of several -/

theorem best_eq_foldl_max (xs : List Rat) : best xs = xs.foldl max 0 := by
  have hmax : (fun a b : Rat => if a < b then b else a) = max :=
    funext₂ fun a b => (max_def_lt a b).symm
  rw [best, hmax]

theorem foldl_max_le_iff {xs : List Rat} {a b : Rat} :
    xs.foldl max a ≤ b ↔ a ≤ b ∧ ∀ x ∈ xs, x ≤ b := by
  induction xs generalizing a with
  | nil => simp
  | cons x xs ih => rw [List.foldl_cons, ih, max_le_iff, List.forall_mem_cons, and_assoc]

/-- **The best** of some rationals is the least bound of them that is not negative. -/
theorem best_le_iff {xs : List Rat} {b : Rat} : best xs ≤ b ↔ 0 ≤ b ∧ ∀ x ∈ xs, x ≤ b := by
  rw [best_eq_foldl_max, foldl_max_le_iff]

theorem best_nonneg (xs : List Rat) : 0 ≤ best xs := (best_le_iff.mp le_rfl).1

theorem le_best {xs : List Rat} {x : Rat} (h : x ∈ xs) : x ≤ best xs :=
  (best_le_iff.mp le_rfl).2 x h

/-! ### Windows -/

theorem isInfix_of_mem_windows (h : w ∈ windows n t) : w <:+: t := by
  obtain ⟨k, -, rfl⟩ := List.mem_map.mp h
  exact (List.drop_suffix _ _).isInfix.trans (List.take_prefix _ _).isInfix

theorem length_le_of_mem_windows (h : w ∈ windows n t) : w.length ≤ n := by
  obtain ⟨k, -, rfl⟩ := List.mem_map.mp h
  rw [List.length_drop, List.length_take]
  omega

/-- **Every part** of a text that is not empty is one of the windows of its length. -/
theorem mem_windows_of_isInfix (h : s <:+: t) (hs : s ≠ []) : s ∈ windows s.length t := by
  obtain ⟨before, after, rfl⟩ := h
  have hpos : 0 < s.length := List.length_pos_iff.mpr hs
  -- the window that ends where the part ends
  refine List.mem_map.mpr ⟨before.length + s.length - 1, List.mem_range.mpr ?_, ?_⟩
  · simp only [List.length_append]
    omega
  · have hend : before.length + s.length - 1 + 1 = (before ++ s).length := by
      rw [List.length_append]
      omega
    rw [hend, List.take_left, List.length_append, Nat.add_sub_cancel, List.drop_left]

theorem windowSimilarity_nonneg (s t : Text) : 0 ≤ windowSimilarity s t := best_nonneg _

theorem windowSimilarity_le_one (s t : Text) : windowSimilarity s t ≤ 1 := by
  refine best_le_iff.mpr ⟨zero_le_one, fun x hx => ?_⟩
  obtain ⟨w, -, rfl⟩ := List.mem_map.mp hx
  exact similarity_le_one s w

theorem windowSimilarity_of_isInfix (h : s <:+: t) (hs : s ≠ []) : windowSimilarity s t = 1 := by
  refine le_antisymm (windowSimilarity_le_one s t) ?_
  rw [← similarity_self hs]
  exact le_best (List.mem_map_of_mem (mem_windows_of_isInfix h hs))

/-- A text of at most `n` characters that does not stand in another one, or that is empty, differs
from every window by the share of a character. -/
theorem windowSimilarity_le (h : s <:+: t → s = []) (hn : s.length ≤ n) (hpos : 0 < n) :
    windowSimilarity s t ≤ 1 - 1 / (2 * n : Nat) := by
  have hrest : (0 : Rat) ≤ 1 - 1 / (2 * n : Nat) := by
    have hle : (1 : Rat) ≤ (2 * n : Nat) := by exact_mod_cast (by omega : 1 ≤ 2 * n)
    rw [sub_nonneg]
    exact div_le_one_of_le₀ hle (by positivity)
  refine best_le_iff.mpr ⟨hrest, fun x hx => ?_⟩
  obtain ⟨w, hw, rfl⟩ := List.mem_map.mp hx
  have hlength : w.length ≤ s.length := length_le_of_mem_windows hw
  by_cases hsw : s = w
  · -- only the empty text is one of the windows
    obtain rfl : s = [] := h (hsw ▸ isInfix_of_mem_windows hw)
    rw [← hsw]
    exact hrest
  · exact similarity_le_of_ne hsw (by omega)

/-! ### Nested texts -/

/-- Two texts are **nested** if one of them stands in the other, and neither is empty unless both
are. -/
def Nested (s t : Text) : Prop := (s = [] ↔ t = []) ∧ (s <:+: t ∨ t <:+: s)

instance (s t : Text) : Decidable (Nested s t) := inferInstanceAs (Decidable (_ ∧ _))

theorem nested_comm : Nested s t ↔ Nested t s := and_congr iff_comm or_comm

/-- A text that stands in another one is nested with it, unless it is empty. -/
theorem nested_of_isInfix (h : s <:+: t) (hs : s ≠ []) : Nested s t :=
  ⟨iff_of_false hs fun ht => hs (List.infix_nil.mp (ht ▸ h)), .inl h⟩

/-- The shorter one of two nested texts stands in the other. -/
theorem Nested.isInfix (h : Nested s t) (hle : s.length ≤ t.length) : s <:+: t := by
  rcases h.2 with hst | hts
  · exact hst
  · rw [hts.eq_of_length (le_antisymm hts.length_le hle)]

/-! ### The similarity of a part -/

/-- **The similarity of two texts** that are not both empty is the best one of the shorter text with
a window over the other. -/
theorem partialSimilarity_le_iff {b : Rat} (hne : ¬ (s = [] ∧ t = [])) :
    partialSimilarity s t ≤ b ↔
      (s.length ≤ t.length → windowSimilarity s t ≤ b) ∧
        (t.length ≤ s.length → windowSimilarity t s ≤ b) := by
  rcases lt_trichotomy s.length t.length with hlt | heq | hlt
  · simp [partialSimilarity, hne, hlt, hlt.le, hlt.not_ge]
  · have hnonneg (h : windowSimilarity s t ≤ b) : 0 ≤ b := (windowSimilarity_nonneg s t).trans h
    have hbest : partialSimilarity s t = best [windowSimilarity s t, windowSimilarity t s] := by
      simp [partialSimilarity, hne, heq]
    rw [hbest, best_le_iff]
    simpa [heq] using fun h _ => hnonneg h
  · simp [partialSimilarity, hne, hlt, hlt.le, hlt.not_ge, hlt.not_gt]

theorem partialSimilarity_le_one (s t : Text) : partialSimilarity s t ≤ 1 := by
  by_cases hne : s = [] ∧ t = []
  · simp [partialSimilarity, hne]
  · exact (partialSimilarity_le_iff hne).mpr
      ⟨fun _ => windowSimilarity_le_one s t, fun _ => windowSimilarity_le_one t s⟩

theorem partialSimilarity_nonneg (s t : Text) : 0 ≤ partialSimilarity s t := by
  by_cases hne : s = [] ∧ t = []
  · simp [partialSimilarity, hne]
  obtain ⟨hst, hts⟩ := (partialSimilarity_le_iff hne).mp le_rfl
  rcases le_total s.length t.length with hle | hle
  · exact (windowSimilarity_nonneg s t).trans (hst hle)
  · exact (windowSimilarity_nonneg t s).trans (hts hle)

/-- **Nested texts** have the greatest similarity. -/
theorem partialSimilarity_of_nested (h : Nested s t) : partialSimilarity s t = 1 := by
  by_cases hne : s = [] ∧ t = []
  · simp [partialSimilarity, hne]
  obtain ⟨hs, ht⟩ : s ≠ [] ∧ t ≠ [] := by
    have := h.1
    tauto
  refine le_antisymm (partialSimilarity_le_one s t) ?_
  obtain ⟨hst, hts⟩ := (partialSimilarity_le_iff hne).mp le_rfl
  rcases le_total s.length t.length with hle | hle
  · exact (windowSimilarity_of_isInfix (h.isInfix hle) hs).symm.trans_le (hst hle)
  · exact (windowSimilarity_of_isInfix ((nested_comm.mp h).isInfix hle) ht).symm.trans_le (hts hle)

/-- **The rest of a similarity**: texts that are not nested, one of which has at most `n`
characters, differ by the share of a character. -/
theorem partialSimilarity_le_of_not_nested (h : ¬ Nested s t) (hn : min s.length t.length ≤ n)
    (hpos : 0 < n) : partialSimilarity s t ≤ 1 - 1 / (2 * n : Nat) := by
  have hne : ¬ (s = [] ∧ t = []) := by
    rintro ⟨rfl, rfl⟩
    exact h ⟨Iff.rfl, .inl List.infix_rfl⟩
  refine (partialSimilarity_le_iff hne).mpr ⟨fun hle => ?_, fun hle => ?_⟩
  · have hst : s <:+: t → s = [] := fun hst => by_contra fun hs => h (nested_of_isInfix hst hs)
    exact windowSimilarity_le hst (by omega) hpos
  · have hts : t <:+: s → t = [] := fun hts =>
      by_contra fun ht => h (nested_comm.mp (nested_of_isInfix hts ht))
    exact windowSimilarity_le hts (by omega) hpos

/-! ### Points -/

/-- **Fewer points for more dissimilar characters**. -/
theorem points_anti {a b : Rat} (h : a ≤ b) (hb : b ≤ 1) : points b ≤ points a := by
  have hrest : Binary64.nearest (1 - b) ≤ Binary64.nearest (1 - a) :=
    Binary64.nearest_mono (sub_nonneg.mpr hb) (sub_le_sub_left h 1)
  have hnonneg : 0 ≤ Binary64.nearest (1 - b) := Binary64.nearest_nonneg (sub_nonneg.mpr hb)
  exact Binary64.nearest_mono (by positivity) (mul_le_mul_of_nonneg_right hrest (by norm_num))

theorem points_zero : points 0 = 100 := by decide +kernel

/-- The share of dissimilar characters, rounded, is from zero to one. -/
theorem nearest_dissimilar_mem (s t : Text) :
    0 ≤ Binary64.nearest (1 - partialSimilarity s t) ∧
      Binary64.nearest (1 - partialSimilarity s t) ≤ 1 := by
  have hnonneg : 0 ≤ 1 - partialSimilarity s t := sub_nonneg.mpr (partialSimilarity_le_one s t)
  have hle : 1 - partialSimilarity s t ≤ 1 := sub_le_self 1 (partialSimilarity_nonneg s t)
  have hone : Binary64.nearest 1 = 1 := by decide +kernel
  exact ⟨Binary64.nearest_nonneg hnonneg, (Binary64.nearest_mono hnonneg hle).trans_eq hone⟩

/-- **No text** has more than all points. -/
theorem score_le_hundred (s t : Text) : score s t ≤ 100 := by
  obtain ⟨hnonneg, hle⟩ := nearest_dissimilar_mem s t
  exact (points_anti hnonneg hle).trans_eq points_zero

/-- **Nested texts** have all points. -/
theorem score_of_nested (h : Nested s t) : score s t = 100 := by
  rw [score, partialSimilarity_of_nested h, sub_self]
  exact points_zero

/-- **All points are for nested texts** only, unless both texts are long. -/
theorem score_eq_hundred_iff (hlength : min s.length t.length ≤ 2 ^ 52) :
    score s t = 100 ↔ Nested s t := by
  refine ⟨fun heq => by_contra fun h => ?_, score_of_nested⟩
  have hle : partialSimilarity s t ≤ 1 - 1 / (2 * 2 ^ 52 : Nat) :=
    partialSimilarity_le_of_not_nested h hlength (by norm_num)
  -- the share of a character is still seen after rounding
  have hshare : 1 / (2 * 2 ^ 52 : Nat) ≤ 1 - partialSimilarity s t := le_sub_comm.mp hle
  have hrounded : Binary64.nearest (1 / (2 * 2 ^ 52 : Nat)) ≤
      Binary64.nearest (1 - partialSimilarity s t) := Binary64.nearest_mono (by positivity) hshare
  have hlt : score s t < 100 :=
    calc score s t ≤ points (Binary64.nearest (1 / (2 * 2 ^ 52 : Nat))) :=
          points_anti hrounded (nearest_dissimilar_mem s t).2
      _ < 100 := by decide +kernel
  exact absurd heq hlt.ne

end Similarity

end NativeFinder
