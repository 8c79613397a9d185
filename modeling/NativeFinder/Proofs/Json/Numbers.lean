import NativeFinder.Json.Reader
import NativeFinder.Json.Writer
import NativeFinder.Proofs.Number.Shortest
import Mathlib.Tactic.SplitIfs

/-!
# Numbers in JSON

A number that is written is read back as the value that it was, an integer as an integer and a value
of double precision as one (`isNumber_ofInt`, `isNumber_ofBinary64`). Behind the number nothing may
stand that could be a part of it (`Stops isNumberPart`).

The two layouts of digits are read in the same way: the digits before and behind the point are put
together, and the exponent makes up for the point. Since the digits write the number, this is what
is read (`readNumber_positional`, `readNumber_exponential`).
-/

namespace NativeFinder

open Text

/-! ### Layouts of digits -/

namespace Decimal

variable {s : Scientific} {x : Rat} {k : Nat} {c : Char}

theorem ofDigits_padded (width n : Nat) : Numeral.ofDigits (padded width n) = n := by
  rw [padded, Numeral.ofDigits_zeros_append, Numeral.ofDigits_ofNat]

theorem isDigit_of_mem_zeros (h : c ∈ List.replicate k '0') : c.isDigit = true := by
  rw [List.eq_of_mem_replicate h]
  rfl

theorem isRun_zeros_append {digits : Text} (h : IsRun Char.isDigit digits) (k : Nat) :
    IsRun Char.isDigit (List.replicate k '0' ++ digits) := by
  refine ⟨List.append_ne_nil_of_right_ne_nil _ h.ne_nil, fun c hc => ?_⟩
  exact (List.mem_append.mp hc).elim isDigit_of_mem_zeros (h.all c)

theorem isRun_padded (width n : Nat) : IsRun Char.isDigit (padded width n) :=
  isRun_zeros_append (isRun_ofNat n) _

/-- The digits before the point **open** a number: a zero among them stands alone. -/
structure IsWhole (whole : Text) : Prop where
  isRun : IsRun Char.isDigit whole
  zero : whole.head? = some '0' → whole = ['0']

/-- A text **is pointed** and writes a number if it is digits around a point, which are rounded to
the number together. -/
def IsPointed (text : Text) (x : Rat) : Prop :=
  ∃ whole fraction, text = whole ++ '.' :: fraction ∧ IsWhole whole ∧ IsRun Char.isDigit fraction ∧
    Binary64.nearest
      (Numeral.ofDigits (whole ++ fraction) * 10 ^ (-(fraction.length : Int))) = x

/-- Below one, zeros stand between the point and the digits. -/
theorem Scientific.Writes.isPointed_of_neg (h : s.Writes x) (hsign : s.exponent < 0) :
    IsPointed (positional s) x := by
  refine ⟨['0'], List.replicate (-s.exponent - 1).toNat '0' ++ s.digits, ?_, ?_,
    isRun_zeros_append h.isRun _, ?_⟩
  · rw [positional, if_pos hsign]
    simp
  · exact ⟨⟨by simp, by simp⟩, fun _ => rfl⟩
  · have hzeros : ['0'] ++ (List.replicate (-s.exponent - 1).toNat '0' ++ s.digits) =
        List.replicate ((-s.exponent - 1).toNat + 1) '0' ++ s.digits := by
      rw [List.replicate_succ]
      rfl
    have hexponent : -((List.replicate (-s.exponent - 1).toNat '0' ++ s.digits).length : Int) =
        s.exponent + 1 - s.digits.length := by
      rw [List.length_append, List.length_replicate]
      omega
    rw [hzeros, Numeral.ofDigits_zeros_append, hexponent]
    exact h.nearest

/-- From one on, the point stands between two digits, or behind them all. -/
theorem Scientific.Writes.isPointed_of_nonneg (h : s.Writes x) (hsign : ¬ s.exponent < 0) :
    IsPointed (positional s) x := by
  set width := s.exponent.toNat + 1 with hwidth
  have hexponent : (width : Int) = s.exponent + 1 := by omega
  have hpositional : positional s =
      s.digits.take width ++ List.replicate (width - s.digits.length) '0' ++ "." ++
        (if (s.digits.drop width).isEmpty then ['0'] else s.digits.drop width) := by
    rw [positional, if_neg hsign]
  have htake : s.digits.take width ≠ [] := by
    simp [hwidth, h.isRun.ne_nil]
  have hwhole : IsWhole (s.digits.take width ++ List.replicate (width - s.digits.length) '0') := by
    refine ⟨⟨List.append_ne_nil_of_left_ne_nil htake _, fun c hc => ?_⟩, fun hzero => ?_⟩
    · rcases List.mem_append.mp hc with hdigit | hfill
      · exact h.isRun.all c (List.mem_of_mem_take hdigit)
      · exact isDigit_of_mem_zeros hfill
    · rw [List.head?_append_of_ne_nil _ htake, List.head?_take, if_neg (by omega)] at hzero
      exact absurd hzero h.head
  by_cases hlength : s.digits.length ≤ width
  · -- all digits stand before the point, with zeros that fill up to it
    have hzeros : s.digits ++ List.replicate (width - s.digits.length) '0' ++ ['0'] =
        s.digits ++ List.replicate (width - s.digits.length + 1) '0' := by
      rw [List.replicate_succ', List.append_assoc]
    refine ⟨_, ['0'], ?_, hwhole, ⟨by simp, by simp⟩, ?_⟩
    · rw [hpositional, List.drop_of_length_le hlength]
      simp
    · rw [List.take_of_length_le hlength, hzeros, Numeral.ofDigits_append_zeros]
      push_cast
      rw [mul_assoc, ← zpow_natCast, ← zpow_add₀ (by norm_num)]
      convert h.nearest using 4
      simp only [List.length_singleton]
      omega
  · -- the point stands between two digits, and no zeros are filled in
    have hdrop : s.digits.drop width ≠ [] := by
      simpa [List.drop_eq_nil_iff] using hlength
    have hfill : width - s.digits.length = 0 := by omega
    refine ⟨_, s.digits.drop width, ?_, hwhole,
      ⟨hdrop, fun c hc => h.isRun.all c (List.mem_of_mem_drop hc)⟩, ?_⟩
    · rw [hpositional, if_neg (by simpa using hdrop)]
      simp
    · rw [hfill, List.replicate_zero, List.append_nil, List.take_append_drop, List.length_drop]
      convert h.nearest using 4
      omega

/-- **The positional layout** is digits around a point, which write the number together. -/
theorem Scientific.Writes.isPointed_positional (h : s.Writes x) : IsPointed (positional s) x := by
  by_cases hsign : s.exponent < 0
  · exact h.isPointed_of_neg hsign
  · exact h.isPointed_of_nonneg hsign

end Decimal

namespace Json

open Decimal

variable {rest whole fraction : Text} {x : Rat} {n : Nat} {e : Int}

/-! ### The parts of a number -/

/-- The characters that a number can go on with. -/
def isNumberPart (c : Char) : Bool := c.isDigit || c == '.' || c == 'e' || c == 'E'

theorem ne_of_isDigit {c d : Char} (hc : c.isDigit = true) (hd : d.isDigit = false) : c ≠ d := by
  rintro rfl
  simp [hc] at hd

theorem stops_isDigit (h : Stops isNumberPart rest) : Stops Char.isDigit rest := by
  intro c hc
  have hpart := h c hc
  simp only [isNumberPart, Bool.or_eq_false_iff] at hpart
  exact hpart.1.1.1

theorem readWhole?_append (h : IsWhole whole) (hrest : Stops Char.isDigit rest) :
    readWhole? (whole ++ rest) = some (whole, rest) := by
  by_cases hzero : whole.head? = some '0'
  · rw [h.zero hzero]
    rfl
  · rw [readWhole?, takeRun?_append h.isRun hrest]
    intro s hs
    rw [← List.head?_append_of_ne_nil whole h.isRun.ne_nil, hs] at hzero
    exact hzero rfl

theorem readFraction?_append (h : IsRun Char.isDigit fraction) (hrest : Stops Char.isDigit rest) :
    readFraction? ('.' :: (fraction ++ rest)) = some (fraction, rest) :=
  takeRun?_append h hrest

theorem readFraction?_eq_none (h : rest.head? ≠ some '.') : readFraction? rest = none := by
  unfold readFraction?
  split
  · exact absurd rfl h
  · rfl

theorem readExponent?_eq_none (h : Stops isNumberPart rest) : readExponent? rest = none := by
  cases rest with
  | nil => rfl
  | cons c s =>
    have hc := stops_cons.mp h
    simp only [isNumberPart, Bool.or_eq_false_iff] at hc
    simp [readExponent?, hc.1.2, hc.2]

/-- An exponent with its sign is read as the number that it is. -/
theorem readExponent?_append (e : Int) (hrest : Stops Char.isDigit rest) :
    readExponent? ('e' :: ((if e < 0 then "-" else "+" : Text) ++
      (padded 2 e.natAbs ++ rest))) = some (e, rest) := by
  have hrun := takeRun?_append (isRun_padded 2 e.natAbs) hrest
  split_ifs with hsign
  · have hvalue : -(e.natAbs : Int) = e := by omega
    simp [readExponent?, Numeral.splitSign, hrun, ofDigits_padded, hvalue, -Nat.cast_natAbs]
  · have hvalue : (e.natAbs : Int) = e := by omega
    simp [readExponent?, Numeral.splitSign, hrun, ofDigits_padded, hvalue, -Nat.cast_natAbs]

/-! ### Numbers -/

variable {s : Scientific} {negative : Bool}

/-- Digits that are not too many, with nothing behind them, are an integer. -/
theorem readNumber_whole (negative : Bool) (h : IsWhole whole)
    (hlimit : whole.length ≤ Numeral.digitLimit) (hrest : Stops isNumberPart rest) :
    readNumber negative (whole ++ rest) =
      let n : Int := Numeral.ofDigits whole
      .ok (.int (if negative then -n else n), rest) := by
  have hpoint : rest.head? ≠ some '.' := fun hhead => by
    have hpart := hrest '.' hhead
    cases hpart
  rw [readNumber, readWhole?_append h (stops_isDigit hrest)]
  simp only [readFraction?_eq_none hpoint, readExponent?_eq_none hrest, hlimit.not_gt, if_false]

/-- Digits around a point, and an exponent if there is one, are a number of double precision. -/
theorem readNumber_fraction (negative : Bool) (h : IsWhole whole)
    (hfraction : IsRun Char.isDigit fraction) (hrest : Stops Char.isDigit rest) :
    readNumber negative (whole ++ '.' :: (fraction ++ rest)) =
      let found := (readExponent? rest).getD (0, rest)
      .ok (.float (Numeral.scaled negative (Numeral.ofDigits (whole ++ fraction))
        (found.1 - fraction.length)), found.2) := by
  rw [readNumber, readWhole?_append h (stops_cons.mpr rfl)]
  simp only [readFraction?_append hfraction hrest]

/-- Digits with an exponent are a number of double precision. -/
theorem readNumber_exponent (negative : Bool) {tail : Text} (h : IsWhole whole)
    (hdigit : Stops Char.isDigit tail) (hpoint : tail.head? ≠ some '.')
    (he : readExponent? tail = some (e, rest)) :
    readNumber negative (whole ++ tail) =
      .ok (.float (Numeral.scaled negative (Numeral.ofDigits whole) e), rest) := by
  rw [readNumber, readWhole?_append h hdigit]
  simp only [readFraction?_eq_none hpoint, he]

/-- **The positional layout is read** as the number that the digits write. -/
theorem readNumber_positional (negative : Bool) (h : s.Writes x) (hx : 0 < x)
    (hoverflow : x < Binary64.overflow) (hrest : Stops isNumberPart rest) :
    readNumber negative (positional s ++ rest) = .ok (.float (.finite negative x), rest) := by
  obtain ⟨whole, fraction, hlayout, hwhole, hfraction, hnearest⟩ := h.isPointed_positional
  rw [hlayout, List.append_assoc, List.cons_append,
    readNumber_fraction negative hwhole hfraction (stops_isDigit hrest),
    readExponent?_eq_none hrest]
  simp only [Option.getD_none, zero_sub, Numeral.scaled_eq negative hnearest hx hoverflow]

/-- **The layout with an exponent is read** as the number that the digits write. -/
theorem readNumber_exponential (negative : Bool) (h : s.Writes x) (hx : 0 < x)
    (hoverflow : x < Binary64.overflow) (hrest : Stops isNumberPart rest) :
    readNumber negative (exponential s ++ rest) = .ok (.float (.finite negative x), rest) := by
  obtain ⟨d, fraction, hdigits⟩ := List.exists_cons_of_ne_nil h.isRun.ne_nil
  have hwhole : IsWhole [d] :=
    ⟨⟨by simp, fun c hc => h.isRun.all c (by simp_all)⟩, fun hzero => by simpa using hzero⟩
  have hexponent := readExponent?_append s.exponent (stops_isDigit hrest)
  have hnearest := h.nearest
  rw [hdigits] at hnearest
  set tail := 'e' :: ((if s.exponent < 0 then "-" else "+" : Text) ++
    (padded 2 s.exponent.natAbs ++ rest)) with htail
  have hdigit : Stops Char.isDigit tail := stops_cons.mpr rfl
  -- behind a lone digit there is no point
  cases fraction with
  | nil =>
    have hlayout : exponential s ++ rest = [d] ++ tail := by simp [exponential, hdigits, htail]
    have hscaled : Binary64.nearest (Numeral.ofDigits [d] * 10 ^ s.exponent) = x := by
      simpa using hnearest
    rw [hlayout, readNumber_exponent negative hwhole hdigit (by simp [htail]) hexponent,
      Numeral.scaled_eq negative hscaled hx hoverflow]
  | cons c fraction =>
    have hlayout : exponential s ++ rest = [d] ++ '.' :: (c :: fraction ++ tail) := by
      simp [exponential, hdigits, htail]
    have hfraction : IsRun Char.isDigit (c :: fraction) :=
      ⟨by simp, fun b hb => h.isRun.all b (hdigits ▸ List.mem_cons_of_mem d hb)⟩
    have hpoint : s.exponent + 1 - ((d :: c :: fraction).length : Int) =
        s.exponent - (c :: fraction).length := by
      simp only [List.length_cons]
      omega
    rw [hpoint] at hnearest
    rw [hlayout, readNumber_fraction negative hwhole hfraction hdigit, hexponent]
    exact congrArg (fun value => Except.ok (Value.float value, rest))
      (Numeral.scaled_eq negative hnearest hx hoverflow)

/-! ### Values that are numbers -/

/-- A text **is a number** if it is digits, behind a sign or not, from which the number is read. -/
def IsNumber (text : Text) (value : Value) : Prop :=
  ∃ negative c t, text = (if negative then "-" else "" : Text) ++ c :: t ∧ c.isDigit = true ∧
    ∀ rest, Stops isNumberPart rest → readNumber negative (c :: t ++ rest) = .ok (value, rest)

/-- A digit begins no word. -/
theorem readWord?_eq_none {c : Char} (hc : c.isDigit = true) (t : Text) :
    readWord? (c :: t) = none ∧ readWord? ('-' :: c :: t) = none := by
  have hne (d : Char) (hd : d.isDigit = false) : d ≠ c := (ne_of_isDigit hc hd).symm
  constructor <;>
    simp [readWord?, words, dropPrefix?, hne 'n' rfl, hne 't' rfl, hne 'f' rfl, hne 'N' rfl,
      hne 'I' rfl, hne '-' rfl]

/-- A number is read as a value. -/
theorem IsNumber.readValue {text : Text} {value : Value} (h : IsNumber text value)
    (hrest : Stops isNumberPart rest) (fuel : Nat) :
    readValue (fuel + 1) (text ++ rest) = .ok (value, rest) := by
  obtain ⟨negative, c, t, rfl, hc, hread⟩ := h
  have hnumber := hread rest hrest
  obtain ⟨hplain, hsigned⟩ := readWord?_eq_none hc (t ++ rest)
  cases negative with
  | true => simpa [Json.readValue, hsigned] using hnumber
  | false =>
    have hne (d : Char) (hd : d.isDigit = false) : c ≠ d := ne_of_isDigit hc hd
    simpa [Json.readValue, hplain, hne '"' rfl, hne '[' rfl, hne '\x7b' rfl, hne '-' rfl]
      using hnumber

/-- **An integer is a number**, if it is not too long. -/
theorem isNumber_ofInt {n : Int} (h : (ofNat n.natAbs).length ≤ Numeral.digitLimit) :
    IsNumber (ofInt n) (.int n) := by
  have hwhole (k : Nat) : IsWhole (ofNat k) := by
    refine ⟨isRun_ofNat k, fun hzero => ?_⟩
    by_cases hk : k = 0
    · rw [hk]
      rfl
    · exact absurd hzero (head?_ofNat_ne hk)
  obtain ⟨c, t, heq⟩ := List.exists_cons_of_ne_nil (isRun_ofNat n.natAbs).ne_nil
  have hc : c.isDigit = true := (isRun_ofNat n.natAbs).all c (by simp [heq])
  have hread (negative : Bool) {rest : Text} (hrest : Stops isNumberPart rest) :
      readNumber negative (c :: t ++ rest) =
        .ok (.int (if negative then -n.natAbs else n.natAbs), rest) := by
    rw [← heq, readNumber_whole negative (hwhole n.natAbs) h hrest, Numeral.ofDigits_ofNat]
  cases n with
  | ofNat k => exact ⟨false, c, t, heq, hc, fun rest hrest => hread false hrest⟩
  | negSucc k => exact ⟨true, c, t, congrArg ('-' :: ·) heq, hc, fun rest hrest => hread true hrest⟩

theorem exists_positional_eq_cons (h : s.Writes x) :
    ∃ c t, positional s = c :: t ∧ c.isDigit = true := by
  obtain ⟨whole, fraction, hlayout, hwhole, -, -⟩ := h.isPointed_positional
  obtain ⟨c, t, rfl⟩ := List.exists_cons_of_ne_nil hwhole.isRun.ne_nil
  exact ⟨c, t ++ '.' :: fraction, hlayout, hwhole.isRun.all c (by simp)⟩

theorem exists_exponential_eq_cons (h : s.Writes x) :
    ∃ c t, exponential s = c :: t ∧ c.isDigit = true := by
  obtain ⟨d, fraction, hdigits⟩ := List.exists_cons_of_ne_nil h.isRun.ne_nil
  have hd : d.isDigit = true := h.isRun.all d (by simp [hdigits])
  exact ⟨d, _, by rw [exponential, hdigits]; rfl, hd⟩

/-- **A finite value is a number**. -/
theorem isNumber_ofBinary64 (h : (Binary64.finite negative x).InFormat) :
    IsNumber (ofBinary64 (.finite negative x)) (.float (.finite negative x)) := by
  obtain ⟨hnonneg, hself, hoverflow⟩ := h
  have htext : ofBinary64 (.finite negative x) = Binary64.toText (.finite negative x) := rfl
  rw [htext, Binary64.toText]
  by_cases hzero : x = 0
  · -- zero has no shortest digits and is written by itself
    subst hzero
    refine ⟨negative, '0', ".0", by rw [if_pos rfl]; rfl, rfl, fun rest hrest => ?_⟩
    have hone : IsRun Char.isDigit ['0'] := ⟨by simp, by simp⟩
    have hread := readNumber_fraction negative ⟨hone, fun _ => rfl⟩ hone
      (stops_isDigit hrest)
    rw [readExponent?_eq_none hrest] at hread
    exact hread
  · have hx : 0 < x := lt_of_le_of_ne hnonneg (Ne.symm hzero)
    have hwrites := shortest_writes hx hself
    rw [if_neg hzero]
    by_cases hlayout :
        ((shortest x).exponent < -4 || 16 ≤ (shortest x).exponent : Bool) = true
    · obtain ⟨c, t, heq, hc⟩ := exists_exponential_eq_cons hwrites
      refine ⟨negative, c, t, by rw [← heq]; simp [hlayout], hc, fun rest hrest => ?_⟩
      rw [← heq]
      exact readNumber_exponential negative hwrites hx hoverflow hrest
    · obtain ⟨c, t, heq, hc⟩ := exists_positional_eq_cons hwrites
      refine ⟨negative, c, t, by rw [← heq]; simp [hlayout], hc, fun rest hrest => ?_⟩
      rw [← heq]
      exact readNumber_positional negative hwrites hx hoverflow hrest

/-- **A value of double precision is read back**. -/
theorem readValue_ofBinary64 {value : Binary64} (h : value.InFormat)
    (hrest : Stops isNumberPart rest) (fuel : Nat) :
    readValue (fuel + 1) (ofBinary64 value ++ rest) = .ok (.float value, rest) := by
  cases value with
  | nan => rfl
  | infinite negative => cases negative <;> rfl
  | finite negative x => exact (isNumber_ofBinary64 h).readValue hrest fuel

end Json

end NativeFinder
