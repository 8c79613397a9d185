import NativeFinder.Number.Decimal
import NativeFinder.Proofs.Number.Rounding
import Mathlib.Tactic.Linarith
import Mathlib.Tactic.Positivity
import Mathlib.Tactic.NormNum

/-!
# Numbers of the format are found again

Around a number of the format lies a range of rationals that are all rounded to it: those whose
distance is less than the `2 ^ 54`th part of the number (`nearest_eq_of_abs_sub_lt`). So a number
survives being written with a few decimal digits and being read, if the digits are close enough, and
seventeen of them always are.

The numbers of the format are those that rounding leaves where they are, and what was rounded is one
of them (`nearest_nearest`). Both facts are about grids: near `x` the format is the grid of the
multiples of `2 ^ spacingLog x`, and that grid gets finer towards zero.
-/

namespace NativeFinder

/-! ### Rounding to integers -/

theorem abs_roundHalfEven_sub_le (x : Rat) : |(roundHalfEven x : Rat) - x| ≤ 1 / 2 := by
  have hfloor : (x.floor : Rat) ≤ x := Rat.floor_le x
  have hlt : x < x.floor + 1 := by exact_mod_cast Rat.lt_floor_add_one x
  simp only [roundHalfEven]
  rw [abs_le]
  split_ifs with hbelow habove
  · constructor <;> linarith
  · push_cast
    constructor <;> linarith
  · -- a half, which goes to one of the two neighbours
    have hhalf : x - x.floor = 1 / 2 := le_antisymm (not_lt.mp habove) (not_lt.mp hbelow)
    rcases Int.emod_two_eq_zero_or_one x.floor with heven | hodd
    · rw [heven]
      push_cast
      constructor <;> linarith
    · rw [hodd]
      push_cast
      constructor <;> linarith

/-- What is closer than a half to an integer is rounded to it. -/
theorem roundHalfEven_eq {x : Rat} {n : Int} (h : |x - n| < 1 / 2) : roundHalfEven x = n := by
  have hround := abs_roundHalfEven_sub_le x
  have hdist : |(roundHalfEven x : Rat) - n| < 1 := by
    calc |(roundHalfEven x : Rat) - n| ≤ |(roundHalfEven x : Rat) - x| + |x - n| := abs_sub_le _ _ _
      _ < 1 / 2 + 1 / 2 := add_lt_add_of_le_of_lt hround h
      _ = 1 := by norm_num
  have hint : |roundHalfEven x - n| < 1 := by exact_mod_cast hdist
  exact sub_eq_zero.mp (Int.abs_lt_one_iff.mp hint)

namespace Binary64

variable {x y : Rat} {e k : Int}

/-! ### Grids -/

/-- The **grid** of spacing `2 ^ e`. -/
def OnGrid (e : Int) (x : Rat) : Prop := ∃ n : Int, x = n * 2 ^ e

theorem onGrid_zpow (h : e ≤ k) : OnGrid e (2 ^ k) := exists_zpow_eq_mul h

/-- A grid contains the coarser ones. -/
theorem OnGrid.mono (hx : OnGrid k x) (h : e ≤ k) : OnGrid e x := by
  obtain ⟨n, rfl⟩ := hx
  obtain ⟨m, hm⟩ := onGrid_zpow h
  exact ⟨n * m, by rw [hm]; push_cast; ring⟩

/-- Different points of a grid are apart by its spacing. -/
theorem OnGrid.add_le (hx : OnGrid e x) (hy : OnGrid e y) (h : x < y) : x + 2 ^ e ≤ y := by
  obtain ⟨n, rfl⟩ := hx
  obtain ⟨m, rfl⟩ := hy
  have hpos : (0 : Rat) < 2 ^ e := zpow_pos two_pos e
  have hlt : n < m := by exact_mod_cast lt_of_mul_lt_mul_right h hpos.le
  have hle : (n : Rat) + 1 ≤ m := by exact_mod_cast hlt
  calc (n : Rat) * 2 ^ e + 2 ^ e = (n + 1) * 2 ^ e := by ring
    _ ≤ m * 2 ^ e := mul_le_mul_of_nonneg_right hle hpos.le

theorem onGrid_nearest (hx : 0 < x) : OnGrid (spacingLog x) (nearest x) := ⟨_, nearest_of_pos hx⟩

/-- **A point of the grid near `y`** to which `y` is closer than half of the spacing is what `y` is
rounded to. -/
theorem nearest_eq_of_onGrid (hy : 0 < y) (hx : OnGrid (spacingLog y) x)
    (h : |y - x| < 2 ^ (spacingLog y - 1)) : nearest y = x := by
  obtain ⟨n, rfl⟩ := hx
  have hpos : (0 : Rat) < 2 ^ spacingLog y := zpow_pos two_pos _
  have hhalf : (2 : Rat) ^ (spacingLog y - 1) = 1 / 2 * 2 ^ spacingLog y := by
    rw [zpow_sub_one₀ two_ne_zero]
    ring
  rw [nearest_of_pos hy, roundHalfEven_eq (n := n)]
  refine lt_of_mul_lt_mul_right ?_ hpos.le
  calc |y / 2 ^ spacingLog y - n| * 2 ^ spacingLog y
      = |(y / 2 ^ spacingLog y - n) * 2 ^ spacingLog y| := by rw [abs_mul, abs_of_pos hpos]
    _ = |y - n * 2 ^ spacingLog y| := by rw [sub_mul, div_mul_cancel₀ _ hpos.ne']
    _ < 1 / 2 * 2 ^ spacingLog y := hhalf ▸ h

/-- What lies on the grid around itself is a number of the format. -/
theorem nearest_eq_self (hx : 0 < x) (h : OnGrid (spacingLog x) x) : nearest x = x :=
  nearest_eq_of_onGrid hx h (by simpa using zpow_pos two_pos _)

/-- The grid gets finer towards zero. -/
theorem spacingLog_mono (hx : 0 < x) (h : x ≤ y) : spacingLog x ≤ spacingLog y :=
  max_le_max (sub_le_sub_right (Int.log_mono_right hx h) 52) le_rfl

theorem spacingLog_eq (h : Int.log 2 x = Int.log 2 y) : spacingLog x = spacingLog y := by
  rw [spacingLog, spacingLog, h]

/-- The leading bit is below every power of two that bounds the number. -/
theorem log_lt (hx : 0 < x) (h : x < 2 ^ k) : Int.log 2 x < k :=
  (Int.lt_zpow_iff_log_lt one_lt_two hx).mp (by simpa using h)

theorem le_log (hx : 0 < x) (h : 2 ^ k ≤ x) : k ≤ Int.log 2 x :=
  (Int.zpow_le_iff_le_log one_lt_two hx).mp (by simpa using h)

/-! ### Numbers of the format -/

/-- **What was rounded stays as it is** when it is rounded again. -/
theorem nearest_nearest (hx : 0 ≤ x) : nearest (nearest x) = nearest x := by
  rcases hx.eq_or_lt with rfl | hx
  · rfl
  rcases (nearest_nonneg hx.le).eq_or_lt with hzero | hpos
  · rw [← hzero]
    rfl
  -- the least power of two on the grid that bounds `x` bounds the rounded number
  set k := max (Int.log 2 x + 1) (spacingLog x) with hk
  have hle : nearest x ≤ 2 ^ k := by
    refine nearest_le_zpow hx (le_max_right _ _) ?_
    calc x ≤ 2 ^ (Int.log 2 x + 1) := (Int.lt_zpow_succ_log_self one_lt_two x).le
      _ ≤ 2 ^ k := zpow_le_zpow_right₀ one_le_two (le_max_left _ _)
  rcases hle.lt_or_eq with hlt | heq
  · refine nearest_eq_self hpos ((onGrid_nearest hx).mono ?_)
    have hlog := log_lt hpos hlt
    simp only [hk, spacingLog] at hlog ⊢
    omega
  · -- the power of two opens the next range, whose coarser grid it is on as well
    rw [heq] at hpos ⊢
    refine nearest_eq_self hpos (onGrid_zpow ?_)
    have hlog : Int.log 2 ((2 : Rat) ^ k) = k := by simpa using Int.log_zpow (R := Rat) one_lt_two k
    simp only [spacingLog, hlog]
    simp only [hk, spacingLog]
    omega

/-- The numbers of the format that are positive lie on the grid around them, which is not coarser
than their leading bit. -/
theorem onGrid_of_nearest_eq (hx : 0 < x) (h : nearest x = x) :
    OnGrid (spacingLog x) x ∧ spacingLog x ≤ Int.log 2 x := by
  have hgrid : OnGrid (spacingLog x) x := by simpa only [h] using onGrid_nearest hx
  have hzero : OnGrid (spacingLog x) 0 := ⟨0, by simp⟩
  exact ⟨hgrid, le_log hx (by simpa using hzero.add_le hgrid hx)⟩

/-- The `2 ^ 54`th part of a number is at most half of the spacing below the bit that bounds it. -/
theorem div_le_zpow (h : x ≤ 2 ^ (k + 1)) : x / 2 ^ 54 ≤ 2 ^ (k - 52 - 1) := by
  have hsplit : (2 : Rat) ^ (k + 1) = 2 ^ (k - 52 - 1) * 2 ^ 54 := by
    rw [← zpow_natCast, ← zpow_add₀ two_ne_zero]
    congr 1
    push_cast
    ring
  rwa [div_le_iff₀ (by positivity), ← hsplit]

theorem sub_one_le_spacingLog (x : Rat) : Int.log 2 x - 52 - 1 ≤ spacingLog x - 1 :=
  sub_le_sub_right (le_max_left _ _) 1

theorem div_le_half_spacing (x : Rat) : x / 2 ^ 54 ≤ 2 ^ (spacingLog x - 1) :=
  (div_le_zpow (Int.lt_zpow_succ_log_self one_lt_two x).le).trans
    (zpow_le_zpow_right₀ one_le_two (sub_one_le_spacingLog x))

theorem zpow_eq_two_mul (e : Int) : (2 : Rat) ^ e = 2 * 2 ^ (e - 1) := by
  rw [zpow_sub_one₀ two_ne_zero]
  ring

/-- Above a number of the format, the next one is too far away for what is close to have a greater
leading bit. -/
theorem nearest_eq_of_le (hx : 0 < x) (hself : nearest x = x) (hxy : x ≤ y)
    (h : |y - x| < x / 2 ^ 54) : nearest y = x := by
  obtain ⟨hgrid, hle⟩ := onGrid_of_nearest_eq hx hself
  have hy : 0 < y := hx.trans_le hxy
  have hpos : (0 : Rat) < 2 ^ (spacingLog x - 1) := zpow_pos two_pos _
  have hbit : x < 2 ^ (Int.log 2 x + 1) := Int.lt_zpow_succ_log_self one_lt_two x
  have hclose : |y - x| < 2 ^ (spacingLog x - 1) := h.trans_le (div_le_half_spacing x)
  have hnext : x + 2 ^ spacingLog x ≤ 2 ^ (Int.log 2 x + 1) :=
    hgrid.add_le (onGrid_zpow (hle.trans (Int.le_add_one le_rfl))) hbit
  have hlog : Int.log 2 x = Int.log 2 y := by
    refine le_antisymm (Int.log_mono_right hx hxy) (Int.lt_add_one_iff.mp (log_lt hy ?_))
    rw [zpow_eq_two_mul (spacingLog x)] at hnext
    linarith [(abs_lt.mp hclose).2]
  have hspacing : spacingLog x = spacingLog y := spacingLog_eq hlog
  exact nearest_eq_of_onGrid hy (hspacing ▸ hgrid) (hspacing ▸ hclose)

/-- A number of the format does not exceed the power of two above what is close below it. -/
theorem le_zpow_of_abs_sub_lt (hx : 0 < x) (hself : nearest x = x)
    (h : |y - x| < x / 2 ^ 54) : x ≤ 2 ^ (Int.log 2 y + 1) := by
  obtain ⟨hgrid, hle⟩ := onGrid_of_nearest_eq hx hself
  have hpos : (0 : Rat) < 2 ^ (spacingLog x - 1) := zpow_pos two_pos _
  have hdist := (abs_lt.mp (h.trans_le (div_le_half_spacing x))).1
  have hdouble := zpow_eq_two_mul (spacingLog x)
  have hybit : y < 2 ^ (Int.log 2 y + 1) := Int.lt_zpow_succ_log_self one_lt_two y
  by_contra hnot
  rcases le_or_gt (spacingLog x) (Int.log 2 y + 1) with hks | hks
  · -- the power of two is on the grid, so that a whole spacing lies between
    have hgap := (onGrid_zpow hks).add_le hgrid (not_le.mp hnot)
    linarith
  · have hhalf : (2 : Rat) ^ (Int.log 2 y + 1) ≤ 2 ^ (spacingLog x - 1) :=
      zpow_le_zpow_right₀ one_le_two (by omega)
    have hleast : (2 : Rat) ^ spacingLog x ≤ x :=
      (zpow_le_zpow_right₀ one_le_two hle).trans (Int.zpow_log_le_self one_lt_two hx)
    linarith

/-- Below a number of the format, the grid around what is close has the number on it. -/
theorem nearest_eq_of_lt (hx : 0 < x) (hself : nearest x = x) (hy : 0 < y) (hyx : y < x)
    (h : |y - x| < x / 2 ^ 54) : nearest y = x := by
  obtain ⟨hgrid, -⟩ := onGrid_of_nearest_eq hx hself
  refine nearest_eq_of_onGrid hy (hgrid.mono (spacingLog_mono hy hyx.le)) ?_
  calc |y - x| < x / 2 ^ 54 := h
    _ ≤ 2 ^ (Int.log 2 y - 52 - 1) := div_le_zpow (le_zpow_of_abs_sub_lt hx hself h)
    _ ≤ 2 ^ (spacingLog y - 1) := zpow_le_zpow_right₀ one_le_two (sub_one_le_spacingLog y)

/-- **A number of the format is found again** from every rational that is close to it. -/
theorem nearest_eq_of_abs_sub_lt (hx : 0 < x) (hself : nearest x = x) (hy : 0 < y)
    (h : |y - x| < x / 2 ^ 54) : nearest y = x := by
  rcases le_or_gt x y with hxy | hyx
  · exact nearest_eq_of_le hx hself hxy h
  · exact nearest_eq_of_lt hx hself hy hyx h

/-! ### The range of the format -/

theorem overflow_eq : overflow = 2 ^ (1024 : Int) := power_eq_zpow 2 1024

/-- What reaches the range above the format is rounded to something in it. -/
theorem overflow_le_nearest (h : overflow ≤ x) : overflow ≤ nearest x := by
  have hpos : (0 : Rat) < 2 ^ (1024 : Int) := zpow_pos two_pos _
  have hlog : Int.log 2 ((2 : Rat) ^ (1024 : Int)) = 1024 := by
    simpa using Int.log_zpow (R := Rat) one_lt_two 1024
  have hself : nearest (2 ^ (1024 : Int)) = 2 ^ (1024 : Int) :=
    nearest_eq_self hpos (onGrid_zpow (by rw [spacingLog, hlog]; decide))
  rw [overflow_eq] at h ⊢
  exact hself.symm.le.trans (nearest_mono hpos.le h)

/-- What is below half of the finest spacing is rounded to zero. -/
theorem nearest_eq_zero (hx : 0 < x) (h : x < 2 ^ (-1075 : Int)) : nearest x = 0 := by
  have hlog := log_lt hx h
  have hspacing : spacingLog x = -1074 := max_eq_right (by omega)
  refine nearest_eq_of_onGrid hx ⟨0, by simp⟩ ?_
  rwa [sub_zero, abs_of_pos hx, hspacing]

/-- The values **of the format**: the magnitude of a finite one is left where it is by rounding, and
is not too large. -/
def InFormat : Binary64 → Prop
  | .finite _ magnitude => 0 ≤ magnitude ∧ nearest magnitude = magnitude ∧ magnitude < overflow
  | .infinite _ | .nan => True

theorem inFormat_ofMagnitude (negative : Bool) (hx : 0 ≤ x) :
    (ofMagnitude negative x).InFormat := by
  unfold ofMagnitude
  extract_lets rounded
  split_ifs with hoverflow
  · trivial
  · exact ⟨nearest_nonneg hx, nearest_nearest hx, not_le.mp hoverflow⟩

/-- **Every value that is rounded to is of the format**. -/
theorem inFormat_ofRat (x : Rat) : (ofRat x).InFormat := inFormat_ofMagnitude _ (Rat.abs_nonneg)

end Binary64

end NativeFinder
