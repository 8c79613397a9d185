import NativeFinder.Number.Numeral
import NativeFinder.Proofs.Number.ReadBack
import NativeFinder.Proofs.Text.Cuts

/-!
# The fewest digits read back

`shortest` gives digits that are rounded to the number they were made from (`shortest_writes`): the
search tries digits until they are, and with seventeen of them it ends (`isSome_candidate?`), since
the unit of the last digit is then at most the `10 ^ 16`th part of the number.

What the digits stand for is said by `Scientific.Writes`. Zeros at the end are dropped with an
exponent that makes up for them, and the first digit is no zero.
-/

namespace NativeFinder

namespace Numeral

/-! ### The number that digits write -/

theorem ofDigits_eq (s : Text) : ofDigits s = Nat.ofDigitChars 10 s 0 :=
  Nat.ofDigitChars_eq_foldl.symm

theorem ofDigits_ofNat (n : Nat) : ofDigits (Text.ofNat n) = n := by
  rw [ofDigits_eq]
  exact Nat.ofDigitChars_ten_toDigits

/-- A zero at the end multiplies by ten. -/
theorem ofDigits_append_zeros (s : Text) (k : Nat) :
    ofDigits (s ++ List.replicate k '0') = ofDigits s * 10 ^ k := by
  rw [ofDigits_eq, ofDigits_eq, Nat.ofDigitChars_append, Nat.ofDigitChars_replicate_zero,
    Nat.mul_comm]

/-- Zeros at the start do not count. -/
theorem ofDigits_zeros_append (k : Nat) (s : Text) :
    ofDigits (List.replicate k '0' ++ s) = ofDigits s := by
  rw [ofDigits_eq, ofDigits_eq, Nat.ofDigitChars_append, Nat.ofDigitChars_replicate_zero,
    Nat.mul_zero]

end Numeral

namespace Text

theorem isRun_ofNat (n : Nat) : IsRun Char.isDigit (ofNat n) :=
  ⟨Nat.toDigits_ne_nil, fun _ hc => Nat.isDigit_of_mem_toDigits (by decide) (by decide) hc⟩

/-- The numeral of a number starts with no zero, unless the number is zero. -/
theorem head?_ofNat_ne {n : Nat} (h : n ≠ 0) : (ofNat n).head? ≠ some '0' := by
  induction n using Nat.strongRecOn with
  | ind n ih =>
    rw [ofNat, Nat.toDigits_eq_if (by decide)]
    split
    · rename_i hlt
      simpa [Nat.digitChar_eq_zero] using h
    · rename_i hge
      rw [List.head?_append_of_ne_nil _ Nat.toDigits_ne_nil]
      exact ih (n / 10) (Nat.div_lt_self (by omega) (by decide)) (by omega)

/-- What is dropped from the end of a text are characters of the class. -/
theorem exists_append_dropEndWhile (s : Text) (d : Char) :
    ∃ k, s = dropEndWhile (· == d) s ++ List.replicate k d := by
  refine ⟨(s.reverse.takeWhile (· == d)).length, ?_⟩
  have htake : s.reverse.takeWhile (· == d) =
      List.replicate (s.reverse.takeWhile (· == d)).length d :=
    List.eq_replicate_of_mem fun c hc => by simpa using List.mem_takeWhile_imp hc
  have hsplit := List.takeWhile_append_dropWhile (p := (· == d)) (l := s.reverse)
  rw [← List.reverse_inj, List.reverse_append, dropEndWhile, List.reverse_reverse,
    List.reverse_replicate, ← htake, hsplit]

end Text

namespace Decimal

variable {x : Rat} {log : Int} {n k fuel : Nat}

/-! ### The search -/

theorem power_ten (e : Int) : power 10 e = (10 : Rat) ^ e := power_eq_zpow 10 e

theorem lt_ten_pow_length (n : Nat) : (n : Rat) < 10 ^ (Nat.toDigits 10 n).length := by
  exact_mod_cast (Nat.length_toDigits_le_iff (by decide) Nat.length_toDigits_pos).mp (Nat.le_refl _)

theorem ten_pow_length_le (h : n ≠ 0) : (10 : Rat) ^ ((Nat.toDigits 10 n).length - 1) ≤ n := by
  have hpos : 0 < (Nat.toDigits 10 n).length := Nat.length_toDigits_pos
  have hnat : 10 ^ ((Nat.toDigits 10 n).length - 1) ≤ n := by
    rcases Nat.eq_zero_or_pos ((Nat.toDigits 10 n).length - 1) with hzero | hlast
    · rw [hzero]
      exact Nat.pos_of_ne_zero h
    · by_contra hnot
      have hle := (Nat.length_toDigits_le_iff (b := 10) (by decide) hlast).mpr (not_le.mp hnot)
      omega
  exact_mod_cast hnat

/-- The power of ten of the first digit does not exceed the number. -/
theorem zpow_decimalLog_le (hx : 0 < x) : (10 : Rat) ^ decimalLog x ≤ x := by
  have hnum : x.num.natAbs ≠ 0 := Int.natAbs_ne_zero.mpr (Rat.num_pos.mpr hx).ne'
  have hmul : (x.num.natAbs : Rat) = x * x.den := by
    rw [Rat.mul_den_eq_num, Nat.cast_natAbs, abs_of_pos (Rat.num_pos.mpr hx)]
  have hlow := ten_pow_length_le hnum
  have hden := lt_ten_pow_length x.den
  have hpos : 0 < (Nat.toDigits 10 x.num.natAbs).length := Nat.length_toDigits_pos
  unfold decimalLog
  extract_lets digits guess
  split_ifs with hguess
  · rwa [power_ten] at hguess
  · have hten : (0 : Rat) < 10 ^ (Nat.toDigits 10 x.den).length := pow_pos (by norm_num) _
    refine le_of_mul_le_mul_right ?_ hten
    calc (10 : Rat) ^ (guess - 1) * 10 ^ (Nat.toDigits 10 x.den).length
        = 10 ^ ((Nat.toDigits 10 x.num.natAbs).length - 1) := by
          rw [← zpow_natCast, ← zpow_natCast, ← zpow_add₀ (by norm_num)]
          congr 1
          simp only [guess, digits]
          omega
      _ ≤ x.num.natAbs := hlow
      _ = x * x.den := hmul
      _ ≤ x * 10 ^ (Nat.toDigits 10 x.den).length := mul_le_mul_of_nonneg_left hden.le hx.le

/-- What the search tries is a test for being rounded to the number. -/
theorem nearest_of_candidate? (h : candidate? x log n = some k) :
    Binary64.nearest (k * 10 ^ (log - n + 1)) = x := by
  unfold candidate? at h
  extract_lets unit scaled low near far readsBack at h
  have htest (m : Nat) (hm : readsBack m = true) :
      Binary64.nearest (m * 10 ^ (log - n + 1)) = x := by
    simpa [readsBack, unit, power_ten] using hm
  split_ifs at h with hnear hfar
  · exact Option.some.inj h ▸ htest near hnear
  · exact Option.some.inj h ▸ htest far hfar

/-- The point of a decimal grid that is nearest to a number of the format is rounded to the number,
if the grid is fine enough. -/
theorem nearest_roundHalfEven_mul {unit : Rat} (hx : 0 < x) (hself : Binary64.nearest x = x)
    (hunit : 0 < unit) (hfine : unit * 10 ^ 16 ≤ x) :
    (0 : Rat) < roundHalfEven (x / unit) * unit ∧
      Binary64.nearest (roundHalfEven (x / unit) * unit) = x := by
  have hround : |(roundHalfEven (x / unit) : Rat) * unit - x| ≤ 1 / 2 * unit := by
    calc |(roundHalfEven (x / unit) : Rat) * unit - x|
        = |(roundHalfEven (x / unit) - x / unit) * unit| := by
          rw [sub_mul, div_mul_cancel₀ _ hunit.ne']
      _ = |(roundHalfEven (x / unit) : Rat) - x / unit| * unit := by
          rw [abs_mul, abs_of_pos hunit]
      _ ≤ 1 / 2 * unit :=
          mul_le_mul_of_nonneg_right (abs_roundHalfEven_sub_le (x / unit)) hunit.le
  have hclose : |(roundHalfEven (x / unit) : Rat) * unit - x| < x / 2 ^ 54 := by
    refine hround.trans_lt ?_
    rw [lt_div_iff₀ (by norm_num)]
    linarith
  have hpos : (0 : Rat) < roundHalfEven (x / unit) * unit := by
    linarith [(abs_le.mp hround).1]
  exact ⟨hpos, Binary64.nearest_eq_of_abs_sub_lt hx hself hpos hclose⟩

/-- **Seventeen digits are enough**. -/
theorem isSome_candidate? (hx : 0 < x) (hself : Binary64.nearest x = x) :
    (candidate? x (decimalLog x) 17).isSome = true := by
  have hunit : (0 : Rat) < 10 ^ (decimalLog x - 16) := zpow_pos (by norm_num) _
  have hfine : 10 ^ (decimalLog x - 16) * 10 ^ 16 ≤ x := by
    rw [← zpow_natCast, ← zpow_add₀ (by norm_num)]
    simpa using zpow_decimalLog_le hx
  obtain ⟨hpos, hnearest⟩ := nearest_roundHalfEven_mul hx hself hunit hfine
  have hexponent : decimalLog x - (17 : Nat) + 1 = decimalLog x - 16 := by omega
  unfold candidate?
  rw [power_ten, hexponent]
  extract_lets unit scaled low near far readsBack
  have hnat : ((near : Nat) : Rat) = roundHalfEven scaled := by
    have hnonneg : 0 ≤ roundHalfEven scaled := by
      exact_mod_cast (pos_of_mul_pos_left hpos hunit.le).le
    exact_mod_cast Int.toNat_of_nonneg hnonneg
  have hback : readsBack near = true := by
    simpa [readsBack, hnat] using hnearest
  rw [if_pos hback]
  rfl

theorem nearest_of_shortestFrom (h : shortestFrom x log fuel n = some (k, m)) :
    Binary64.nearest (k * 10 ^ (log - m + 1)) = x := by
  induction fuel generalizing n with
  | zero => cases h
  | succ fuel ih =>
    rw [shortestFrom] at h
    split at h
    · rename_i hcandidate
      cases h
      exact nearest_of_candidate? hcandidate
    · exact ih h

theorem isSome_shortestFrom {m : Nat} (hn : n ≤ m) (hm : m < n + fuel)
    (h : (candidate? x log m).isSome = true) : (shortestFrom x log fuel n).isSome = true := by
  induction fuel generalizing n with
  | zero => omega
  | succ fuel ih =>
    rw [shortestFrom]
    split
    · rfl
    · rename_i hcandidate
      have hne : n ≠ m := by
        rintro rfl
        simp [hcandidate] at h
      exact ih (by omega) (by omega)

/-! ### Digits in scientific form -/

/-- The digits **write** a number: it is what they are rounded to. The first one is no zero. -/
structure Scientific.Writes (s : Scientific) (x : Rat) : Prop where
  isRun : Text.IsRun Char.isDigit s.digits
  head : s.digits.head? ≠ some '0'
  nearest : Binary64.nearest
    (Numeral.ofDigits s.digits * 10 ^ (s.exponent + 1 - s.digits.length)) = x

/-- A number that is not zero keeps digits when the zeros at its end are dropped. -/
theorem dropEndWhile_ofNat_ne_nil (hk : k ≠ 0) :
    Text.dropEndWhile (· == '0') (Text.ofNat k) ≠ [] := by
  intro hnil
  obtain ⟨zeros, hzeros⟩ := Text.exists_append_dropEndWhile (Text.ofNat k) '0'
  have hvalue := Numeral.ofDigits_ofNat k
  rw [hzeros, hnil, Numeral.ofDigits_append_zeros] at hvalue
  exact hk (by simpa [Numeral.ofDigits] using hvalue.symm)

/-- **The fewest digits write the number** that they were made from. -/
theorem shortest_writes (hx : 0 < x) (hself : Binary64.nearest x = x) : (shortest x).Writes x := by
  obtain ⟨⟨k, n⟩, hfound⟩ := Option.isSome_iff_exists.mp
    (isSome_shortestFrom (by omega) (by omega) (isSome_candidate? hx hself) :
      (shortestFrom x (decimalLog x) 17 1).isSome = true)
  have hnearest := nearest_of_shortestFrom hfound
  have hk : k ≠ 0 := by
    rintro rfl
    rw [Nat.cast_zero, zero_mul] at hnearest
    exact hx.ne hnearest
  have hne := dropEndWhile_ofNat_ne_nil hk
  obtain ⟨zeros, hzeros⟩ := Text.exists_append_dropEndWhile (Text.ofNat k) '0'
  set digits := Text.dropEndWhile (· == '0') (Text.ofNat k) with hdigits
  have hshortest : shortest x =
      { digits := digits, exponent := decimalLog x - n + (Text.ofNat k).length } := by
    simp only [shortest, hfound, Option.getD_some, ← hdigits]
  have hvalue : (Numeral.ofDigits digits : Rat) * 10 ^ zeros = k := by
    have hnat := Numeral.ofDigits_append_zeros digits zeros
    rw [← hzeros, Numeral.ofDigits_ofNat] at hnat
    exact_mod_cast hnat.symm
  -- the exponent counts the zeros that were dropped
  have hlength : (Text.ofNat k).length = digits.length + zeros := by
    rw [hzeros, List.length_append, List.length_replicate]
  have hscaled : (Numeral.ofDigits digits : Rat) *
      10 ^ (decimalLog x - n + (Text.ofNat k).length + 1 - digits.length) =
        k * 10 ^ (decimalLog x - n + 1) := by
    rw [← hvalue, mul_assoc, ← zpow_natCast, ← zpow_add₀ (by norm_num), hlength]
    congr 2
    push_cast
    ring
  rw [hshortest]
  refine ⟨⟨hne, fun c hc => (Text.isRun_ofNat k).all c ?_⟩, ?_, ?_⟩
  · rw [hzeros]
    exact List.mem_append_left _ hc
  · have hhead := Text.head?_ofNat_ne hk
    rwa [hzeros, List.head?_append_of_ne_nil _ hne] at hhead
  · rw [hscaled, hnearest]

/-! ### Digits with an exponent -/

/-- Powers of ten grow faster than every third power of two. -/
theorem two_zpow_le_ten_pow (n : Nat) : (2 : Rat) ^ ((3 * n : Nat) : Int) ≤ 10 ^ (n : Int) := by
  rw [zpow_natCast, zpow_natCast, pow_mul]
  exact pow_le_pow_left₀ (by norm_num) (by norm_num) n

end Decimal

namespace Numeral

open Decimal

variable {x : Rat} {n : Nat} {e : Int}

/-- The number of digits and the exponent bound the value from both sides. -/
theorem zpow_le_scaled_and_lt (h : n ≠ 0) (e : Int) :
    (10 : Rat) ^ ((Nat.toDigits 10 n).length + e - 1) ≤ n * 10 ^ e ∧
      (n : Rat) * 10 ^ e < 10 ^ ((Nat.toDigits 10 n).length + e) := by
  have hpos : (0 : Rat) < 10 ^ e := zpow_pos (by norm_num) e
  have hlength : 0 < (Nat.toDigits 10 n).length := Nat.length_toDigits_pos
  constructor
  · calc (10 : Rat) ^ ((Nat.toDigits 10 n).length + e - 1)
        = 10 ^ ((Nat.toDigits 10 n).length - 1) * 10 ^ e := by
          rw [← zpow_natCast, ← zpow_add₀ (by norm_num)]
          congr 1
          omega
      _ ≤ n * 10 ^ e := mul_le_mul_of_nonneg_right (ten_pow_length_le h) hpos.le
  · calc (n : Rat) * 10 ^ e < 10 ^ (Nat.toDigits 10 n).length * 10 ^ e :=
          mul_lt_mul_of_pos_right (lt_ten_pow_length n) hpos
      _ = 10 ^ ((Nat.toDigits 10 n).length + e) := by
          rw [← zpow_natCast, ← zpow_add₀ (by norm_num)]

/-- **Digits that are rounded to a number of the format are read as it**: no exponent is out of
range then. -/
theorem scaled_eq (negative : Bool) (h : Binary64.nearest (n * 10 ^ e) = x) (hx : 0 < x)
    (hoverflow : x < Binary64.overflow) : scaled negative n e = .finite negative x := by
  have hn : n ≠ 0 := by
    rintro rfl
    rw [Nat.cast_zero, zero_mul] at h
    exact hx.ne h
  obtain ⟨hlow, hhigh⟩ := zpow_le_scaled_and_lt hn e
  have hpos : (0 : Rat) < n * 10 ^ e :=
    mul_pos (Nat.cast_pos.mpr (Nat.pos_of_ne_zero hn)) (zpow_pos (by norm_num) e)
  -- beyond the bounds on the exponent, the digits would be rounded to infinity or to zero
  have hnotLarge : ¬ 400 < ((Nat.toDigits 10 n).length : Int) + e := by
    intro hlarge
    have hle : Binary64.overflow ≤ n * 10 ^ e := by
      rw [Binary64.overflow_eq]
      calc (2 : Rat) ^ (1024 : Int) ≤ 2 ^ ((3 * 400 : Nat) : Int) :=
            zpow_le_zpow_right₀ one_le_two (by norm_num)
        _ ≤ 10 ^ ((400 : Nat) : Int) := two_zpow_le_ten_pow 400
        _ ≤ 10 ^ (((Nat.toDigits 10 n).length : Int) + e - 1) :=
            zpow_le_zpow_right₀ (by norm_num) (by push_cast; omega)
        _ ≤ n * 10 ^ e := hlow
    exact hoverflow.not_ge (h ▸ Binary64.overflow_le_nearest hle)
  have hnotSmall : ¬ ((Nat.toDigits 10 n).length : Int) + e < -400 := by
    intro hsmall
    have hlt : (n : Rat) * 10 ^ e < 2 ^ (-1075 : Int) := by
      calc (n : Rat) * 10 ^ e < 10 ^ (((Nat.toDigits 10 n).length : Int) + e) := hhigh
        _ ≤ 10 ^ (-((400 : Nat) : Int)) := zpow_le_zpow_right₀ (by norm_num) (by push_cast; omega)
        _ ≤ 2 ^ (-((3 * 400 : Nat) : Int)) := by
            rw [zpow_neg, zpow_neg]
            exact inv_anti₀ (zpow_pos two_pos _) (two_zpow_le_ten_pow 400)
        _ ≤ 2 ^ (-1075 : Int) := zpow_le_zpow_right₀ one_le_two (by norm_num)
    exact hx.ne (h ▸ (Binary64.nearest_eq_zero hpos hlt).symm)
  unfold scaled
  extract_lets size
  rw [if_neg hn, if_neg hnotLarge, if_neg hnotSmall, power_ten, Binary64.ofMagnitude, h]
  exact if_neg hoverflow.not_ge

end Numeral

end NativeFinder
