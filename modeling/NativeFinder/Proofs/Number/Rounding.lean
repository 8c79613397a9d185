import NativeFinder.Number.Binary64
import Mathlib.Data.Int.Log
import Mathlib.Data.Rat.Floor
import Mathlib.Tactic.Ring

/-!
# Rounding keeps the order

Scores are rounded to double precision after every operation, so a law about scores needs that
rounding does not turn two of them around. `nearest_mono` says so for the rationals that are not
negative, which all scores are.

Between two powers of two the spacing of the format is the same, and rounding to it keeps the order
as rounding to integers does (`roundHalfEven_mono`). From one such range to the next the spacing
changes, but the power of two between them is on both grids, so that nothing is rounded across it
(`nearest_le_zpow`, `zpow_le_nearest`).

So the values of the format keep the order too (`atMost_ofRat`), and a score that is listed to a few
decimal places keeps its rank (`roundPlaces_mono`).
-/

namespace NativeFinder

/-! ### Rounding to integers -/

theorem floor_le_roundHalfEven (x : Rat) : x.floor ≤ roundHalfEven x := by
  simp only [roundHalfEven]
  split_ifs <;> omega

theorem roundHalfEven_le_floor_add_one (x : Rat) : roundHalfEven x ≤ x.floor + 1 := by
  simp only [roundHalfEven]
  split_ifs <;> omega

/-- **Rounding to integers keeps the order**. -/
theorem roundHalfEven_mono {x y : Rat} (h : x ≤ y) : roundHalfEven x ≤ roundHalfEven y := by
  have hfloor : x.floor ≤ y.floor := Rat.floor_monotone h
  rcases hfloor.lt_or_eq with hlt | heq
  · -- an integer lies between them
    calc roundHalfEven x ≤ x.floor + 1 := roundHalfEven_le_floor_add_one x
      _ ≤ y.floor := hlt
      _ ≤ roundHalfEven y := floor_le_roundHalfEven y
  · -- the one with the greater rest is rounded up if the other one is
    have hrest : x - x.floor ≤ y - x.floor := sub_le_sub_right h _
    simp only [roundHalfEven, ← heq]
    split_ifs <;> grind

theorem roundHalfEven_intCast (n : Int) : roundHalfEven n = n := by
  simp [roundHalfEven, Rat.floor_intCast]

/-! ### Powers of two -/

theorem power_eq_zpow (base : Nat) (n : Int) : power base n = (base : Rat) ^ n := by
  cases n with
  | ofNat n => simp [power]
  | negSucc n => simp [power, zpow_negSucc]

/-- The leading bit of a natural number. -/
theorem zpow_log2_le_and_lt {n : Nat} (hn : n ≠ 0) :
    (2 : Rat) ^ (n.log2 : Int) ≤ n ∧ (n : Rat) < 2 ^ (n.log2 + 1 : Int) := by
  constructor
  · exact_mod_cast Nat.log2_self_le hn
  · exact_mod_cast Nat.lt_log2_self (n := n)

namespace Binary64

variable {x y : Rat}

/-- The leading bit of a quotient is the difference of the leading bits of its parts, or one
below. -/
theorem log_mem_of_log2 (hx : 0 < x) :
    (x.num.natAbs.log2 : Int) - x.den.log2 - 1 ≤ Int.log 2 x ∧
      Int.log 2 x ≤ (x.num.natAbs.log2 : Int) - x.den.log2 := by
  have hnum : x.num.natAbs ≠ 0 := Int.natAbs_ne_zero.mpr (Rat.num_pos.mpr hx).ne'
  obtain ⟨hnum₁, hnum₂⟩ := zpow_log2_le_and_lt hnum
  obtain ⟨hden₁, hden₂⟩ := zpow_log2_le_and_lt x.den_nz
  have hmul : (x.num.natAbs : Rat) = x * x.den := by
    rw [Rat.mul_den_eq_num, Nat.cast_natAbs, abs_of_pos (Rat.num_pos.mpr hx)]
  rw [hmul] at hnum₁ hnum₂
  generalize x.num.natAbs.log2 = a, x.den.log2 = b at *
  constructor
  · rw [← Int.zpow_le_iff_le_log one_lt_two hx, Nat.cast_ofNat]
    refine le_of_mul_le_mul_right ?_ (zpow_pos two_pos (b + 1 : Int))
    calc (2 : Rat) ^ ((a : Int) - b - 1) * 2 ^ (b + 1 : Int)
        = 2 ^ (a : Int) := by rw [← zpow_add₀ two_ne_zero]; congr 1; ring
      _ ≤ x * x.den := hnum₁
      _ ≤ x * 2 ^ (b + 1 : Int) := mul_le_mul_of_nonneg_left hden₂.le hx.le
  · rw [← Int.lt_add_one_iff, ← Int.lt_zpow_iff_log_lt one_lt_two hx, Nat.cast_ofNat]
    refine lt_of_mul_lt_mul_right ?_ (zpow_pos (two_pos (α := Rat)) (b : Int)).le
    calc x * 2 ^ (b : Int) ≤ x * x.den := mul_le_mul_of_nonneg_left hden₁ hx.le
      _ < 2 ^ (a + 1 : Int) := hnum₂
      _ = (2 : Rat) ^ ((a : Int) - b + 1) * 2 ^ (b : Int) := by
        rw [← zpow_add₀ two_ne_zero]; congr 1; ring

/-- **The exponent of the leading bit** of a positive rational. -/
theorem binaryLog_eq_log (hx : 0 < x) : binaryLog x = Int.log 2 x := by
  obtain ⟨hlow, hhigh⟩ := log_mem_of_log2 hx
  simp only [binaryLog, power_eq_zpow, Int.zpow_le_iff_le_log one_lt_two hx]
  split_ifs <;> omega

/-- The exponent of the spacing of the format around a positive rational. -/
def spacingLog (x : Rat) : Int := max (Int.log 2 x - 52) (-1074)

theorem quantum_eq_zpow (hx : 0 < x) : quantum x = 2 ^ spacingLog x := by
  rw [quantum, power_eq_zpow, binaryLog_eq_log hx, Nat.cast_ofNat, spacingLog]

/-- A positive rational is rounded to a multiple of the spacing. -/
theorem nearest_of_pos (hx : 0 < x) :
    nearest x = (roundHalfEven (x / 2 ^ spacingLog x) : Rat) * 2 ^ spacingLog x := by
  simp only [nearest, if_neg hx.ne', Rat.abs_of_nonneg hx.le, quantum_eq_zpow hx]

/-- A power of two that is not below the spacing is a multiple of it. -/
theorem exists_zpow_eq_mul {k e : Int} (h : e ≤ k) : ∃ n : Int, (2 : Rat) ^ k = n * 2 ^ e := by
  obtain ⟨n, rfl⟩ := Int.le.dest h
  refine ⟨2 ^ n, ?_⟩
  rw [add_comm, zpow_add₀ two_ne_zero, zpow_natCast]
  push_cast
  rfl

/-- Nothing is rounded above a power of two that it does not exceed. -/
theorem nearest_le_zpow {k : Int} (hx : 0 < x) (hk : spacingLog x ≤ k) (h : x ≤ 2 ^ k) :
    nearest x ≤ 2 ^ k := by
  obtain ⟨n, hn⟩ := exists_zpow_eq_mul hk
  have hpos : (0 : Rat) < 2 ^ spacingLog x := zpow_pos two_pos _
  rw [nearest_of_pos hx, hn]
  refine mul_le_mul_of_nonneg_right ?_ hpos.le
  have hle : x / 2 ^ spacingLog x ≤ (n : Rat) := (div_le_iff₀ hpos).mpr (hn ▸ h)
  exact_mod_cast (roundHalfEven_mono hle).trans_eq (roundHalfEven_intCast n)

/-- Nothing is rounded below a power of two that it reaches. -/
theorem zpow_le_nearest {k : Int} (hx : 0 < x) (hk : spacingLog x ≤ k) (h : 2 ^ k ≤ x) :
    2 ^ k ≤ nearest x := by
  obtain ⟨n, hn⟩ := exists_zpow_eq_mul hk
  have hpos : (0 : Rat) < 2 ^ spacingLog x := zpow_pos two_pos _
  rw [nearest_of_pos hx, hn]
  refine mul_le_mul_of_nonneg_right ?_ hpos.le
  have hle : (n : Rat) ≤ x / 2 ^ spacingLog x := (le_div_iff₀ hpos).mpr (hn ▸ h)
  exact_mod_cast (roundHalfEven_intCast n).symm.trans_le (roundHalfEven_mono hle)

theorem nearest_nonneg (hx : 0 ≤ x) : 0 ≤ nearest x := by
  rcases hx.eq_or_lt with rfl | hx
  · exact le_of_eq rfl
  · have hpos : (0 : Rat) < 2 ^ spacingLog x := zpow_pos two_pos _
    rw [nearest_of_pos hx]
    refine mul_nonneg ?_ hpos.le
    have hround : roundHalfEven (0 : Int) ≤ roundHalfEven (x / 2 ^ spacingLog x) :=
      roundHalfEven_mono (by simpa using div_nonneg hx.le hpos.le)
    rw [roundHalfEven_intCast] at hround
    exact_mod_cast hround

/-- **Rounding keeps the order**. -/
theorem nearest_mono (hx : 0 ≤ x) (h : x ≤ y) : nearest x ≤ nearest y := by
  rcases hx.eq_or_lt with rfl | hx
  · exact nearest_nonneg h
  have hy : 0 < y := hx.trans_le h
  have hlog : Int.log 2 x ≤ Int.log 2 y := Int.log_mono_right hx h
  have hspacing : spacingLog x ≤ spacingLog y :=
    max_le_max (sub_le_sub_right hlog 52) le_rfl
  rcases hspacing.eq_or_lt with heq | hlt
  · -- both are rounded to the same grid
    have hpos : (0 : Rat) < 2 ^ spacingLog y := zpow_pos two_pos _
    rw [nearest_of_pos hx, nearest_of_pos hy, heq]
    refine mul_le_mul_of_nonneg_right ?_ hpos.le
    exact_mod_cast roundHalfEven_mono (div_le_div_of_nonneg_right h hpos.le)
  · -- the leading bit of the greater one stands for a power of two between them, on both grids
    obtain ⟨hlt, hle⟩ : Int.log 2 x + 1 ≤ Int.log 2 y ∧ spacingLog y ≤ Int.log 2 y := by
      simp only [spacingLog] at hlt ⊢
      omega
    have hbelow : x ≤ 2 ^ Int.log 2 y :=
      calc x ≤ 2 ^ (Int.log 2 x + 1) := (Int.lt_zpow_succ_log_self one_lt_two x).le
        _ ≤ 2 ^ Int.log 2 y := zpow_le_zpow_right₀ one_le_two hlt
    have habove : 2 ^ Int.log 2 y ≤ y := Int.zpow_log_le_self one_lt_two hy
    exact (nearest_le_zpow hx (hspacing.trans hle) hbelow).trans (zpow_le_nearest hy hle habove)

/-! ### Values -/

/-- Whether a value is **at most** another one, as numbers are compared: a value that is no number
is comparable with none. -/
def atMost : Binary64 → Binary64 → Bool
  | .nan, _ | _, .nan => false
  | .infinite true, _ | _, .infinite false => true
  | .infinite false, _ | _, .infinite true => false
  | .finite negative magnitude, .finite negative' magnitude' =>
    (if negative then -magnitude else magnitude) ≤ (if negative' then -magnitude' else magnitude')

theorem atMost_ofMagnitude (hx : 0 ≤ x) (h : x ≤ y) :
    (ofMagnitude false x).atMost (ofMagnitude false y) = true ∧
      (ofMagnitude true y).atMost (ofMagnitude true x) = true := by
  have hround : nearest x ≤ nearest y := nearest_mono hx h
  unfold ofMagnitude
  extract_lets rounded rounded'
  by_cases hsmall : overflow ≤ rounded
  · have hlarge : overflow ≤ rounded' := hsmall.trans hround
    simp [hsmall, hlarge, atMost]
  · by_cases hlarge : overflow ≤ rounded'
    · simp [hsmall, hlarge, atMost]
    · simpa [hsmall, hlarge, atMost] using hround

/-- What is negative is at most what is not. -/
theorem atMost_ofMagnitude_of_signs (hx : 0 ≤ x) (hy : 0 ≤ y) :
    (ofMagnitude true x).atMost (ofMagnitude false y) = true := by
  have hsigned : -nearest x ≤ nearest y :=
    (neg_nonpos.mpr (nearest_nonneg hx)).trans (nearest_nonneg hy)
  unfold ofMagnitude
  extract_lets rounded rounded'
  by_cases hlarge : overflow ≤ rounded
  · by_cases hlarge' : overflow ≤ rounded' <;> simp [hlarge, hlarge', atMost]
  · by_cases hlarge' : overflow ≤ rounded'
    · simp [hlarge, hlarge', atMost]
    · simpa [hlarge, hlarge', atMost] using hsigned

/-- **Rounding to the format keeps the order**. -/
theorem atMost_ofRat (h : x ≤ y) : (ofRat x).atMost (ofRat y) = true := by
  unfold ofRat
  rcases lt_or_ge x 0 with hx | hx
  · rw [decide_eq_true hx]
    rcases lt_or_ge y 0 with hy | hy
    · rw [decide_eq_true hy, Rat.abs_of_nonpos hx.le, Rat.abs_of_nonpos hy.le]
      exact (atMost_ofMagnitude (neg_nonneg.mpr hy.le) (neg_le_neg h)).2
    · rw [decide_eq_false hy.not_gt]
      exact atMost_ofMagnitude_of_signs Rat.abs_nonneg Rat.abs_nonneg
  · have hy := hx.trans h
    rw [decide_eq_false hx.not_gt, decide_eq_false hy.not_gt, Rat.abs_of_nonneg hx,
      Rat.abs_of_nonneg hy]
    exact (atMost_ofMagnitude hx h).1

end Binary64

/-- Rounding to decimal places keeps the order. -/
theorem roundPlaces_mono (places : Nat) {x y : Rat} (h : x ≤ y) :
    roundPlaces places x ≤ roundPlaces places y := by
  have hpos : (0 : Rat) < power 10 places := by
    rw [power_eq_zpow]
    exact zpow_pos (by decide) _
  refine div_le_div_of_nonneg_right ?_ hpos.le
  exact_mod_cast roundHalfEven_mono (mul_le_mul_of_nonneg_right h hpos.le)

end NativeFinder
