import CheckBinding.Number.Decimal
import CheckBinding.Proofs.Number.Rounding
import Mathlib.Algebra.Order.Field.Power
import Mathlib.Tactic.LinearCombination

/-!
Scaling by a power of ten in double precision.

Two roundings are made, one of the power and one of the product or quotient. Together they are off
by little more than one part in `2 ^ 52`, and by nothing where the result has few bits.
-/

namespace CheckBinding.Number

/-! ### Relative errors -/

/-- A result that is off by at most a part of the value. -/
def Within (error value result : ℚ) : Prop :=
  |result - value| ≤ value * error

def roundingError : ℚ := 1 / 2 ^ 53

def inverseError : ℚ := 1 / 2 ^ 53 + 1 / 2 ^ 100

def scalingError : ℚ := (1 + 1 / 2 ^ 10) / 2 ^ 52

variable {error value result : ℚ}

theorem Within.bounds (within : Within error value result) :
    value * (1 - error) ≤ result ∧ result ≤ value * (1 + error) := by
  obtain ⟨low, high⟩ := abs_le.mp within
  constructor <;> linarith

theorem Within.of_bounds (low : value * (1 - error) ≤ result)
    (high : result ≤ value * (1 + error)) : Within error value result :=
  abs_le.mpr ⟨by linarith, by linarith⟩

theorem Within.mono {larger : ℚ} (nonnegative : 0 ≤ value) (most : error ≤ larger)
    (within : Within error value result) : Within larger value result :=
  within.trans (mul_le_mul_of_nonneg_left most nonnegative)

theorem Within.unscaled {unit : ℚ} (positive : 0 < unit)
    (within : Within error (value * unit) result) : Within error value (result / unit) := by
  obtain ⟨low, high⟩ := within.bounds
  apply Within.of_bounds
  · rw [le_div_iff₀ positive]
    linarith
  · rw [div_le_iff₀ positive]
    linarith

/-- An inverse is off by hardly more than what is inverted. -/
theorem Within.inverse {unit : ℚ} (positive : 0 < value) (unitPositive : 0 < unit)
    (within : Within roundingError (value * unit) result) :
    Within inverseError (unit / value) (unit * unit / result) := by
  obtain ⟨low, high⟩ := within.bounds
  have scaled : 0 < value * unit := mul_pos positive unitPositive
  have some : 0 < result := by
    refine lt_of_lt_of_le (mul_pos scaled ?_) low
    norm_num [roundingError]
  have square : 0 ≤ unit * unit := mul_self_nonneg unit
  have less : 0 ≤ unit / value * (1 - inverseError) := by
    refine mul_nonneg (div_nonneg unitPositive.le positive.le) ?_
    norm_num [inverseError]
  have more : 0 ≤ unit / value * (1 + inverseError) := by
    refine mul_nonneg (div_nonneg unitPositive.le positive.le) ?_
    norm_num [inverseError]
  apply Within.of_bounds
  · rw [le_div_iff₀ some]
    calc
      unit / value * (1 - inverseError) * result ≤
          unit / value * (1 - inverseError) * (value * unit * (1 + roundingError)) :=
        mul_le_mul_of_nonneg_left high less
      _ = unit * unit * ((1 - inverseError) * (1 + roundingError)) := by field_simp
      _ ≤ unit * unit := by
        refine mul_le_of_le_one_right square ?_
        norm_num [inverseError, roundingError]
  · rw [div_le_iff₀ some]
    calc
      unit * unit ≤ unit * unit * ((1 + inverseError) * (1 - roundingError)) := by
        refine le_mul_of_one_le_right square ?_
        norm_num [inverseError, roundingError]
      _ = unit / value * (1 + inverseError) * (value * unit * (1 - roundingError)) := by field_simp
      _ ≤ unit / value * (1 + inverseError) * result := mul_le_mul_of_nonneg_left low more

/-- Two roundings in a row are off by little more than the sum of what each is off by. -/
theorem Within.scale {whole power scaled units : ℚ} (positive : 0 < whole)
    (powerWithin : Within inverseError power scaled)
    (unitsWithin : Within roundingError (whole * scaled) units) :
    Within scalingError (whole * power) units := by
  obtain ⟨powerLow, powerHigh⟩ := powerWithin.bounds
  obtain ⟨unitsLow, unitsHigh⟩ := unitsWithin.bounds
  have low := mul_le_mul_of_nonneg_left powerLow positive.le
  have high := mul_le_mul_of_nonneg_left powerHigh positive.le
  unfold roundingError at *
  unfold inverseError at *
  apply Within.of_bounds
  · unfold scalingError
    linarith
  · unfold scalingError
    linarith

/-! ### Whole numbers and powers -/

theorem round_whole {whole : Nat} (fits : whole < 2 ^ 53) :
    double.round whole 1 = whole * 2 ^ double.unit :=
  Format.round_exact Nat.one_pos (by decide) fits (Nat.one_mul _).symm

theorem round_within {numerator denominator : Nat} (positive : 0 < denominator)
    (normal : 2 ^ (double.precision - 1) * denominator ≤ numerator * 2 ^ double.unit) :
    Within roundingError (numerator * 2 ^ double.unit / denominator)
      (double.round numerator denominator) := by
  have relative := Format.round_relative positive normal (by decide)
  rw [div_eq_mul_one_div (_ / _)] at relative
  exact relative

theorem powerOfTen_within (exponent : Nat) :
    Within roundingError (10 ^ exponent * 2 ^ double.unit) (powerOfTen exponent) := by
  have normal : 2 ^ (double.precision - 1) * 1 ≤ 10 ^ exponent * 2 ^ double.unit :=
    calc
      2 ^ (double.precision - 1) * 1 ≤ 2 ^ double.unit := by
        rw [Nat.mul_one]
        exact Nat.pow_le_pow_right (by decide) (by decide)
      _ ≤ 10 ^ exponent * 2 ^ double.unit :=
        Nat.le_mul_of_pos_left _ (Nat.pow_pos (by decide))
  have within := round_within Nat.one_pos normal
  rw [Nat.cast_one, div_one] at within
  exact_mod_cast within

theorem powerOfTen_exact {exponent : Nat} (small : exponent ≤ 22) :
    powerOfTen exponent = 10 ^ exponent * 2 ^ double.unit := by
  have fits : 5 ^ exponent < 2 ^ double.precision :=
    (Nat.pow_le_pow_right (by decide) small).trans_lt (by decide)
  have split : 10 ^ exponent * 2 ^ double.unit = 5 ^ exponent * 2 ^ (exponent + double.unit) := by
    rw [pow_add, ← mul_assoc, ← mul_pow]
    norm_num
  have exact : 10 ^ exponent * 2 ^ double.unit =
      1 * (5 ^ exponent * 2 ^ (exponent + double.unit)) := by
    rw [Nat.one_mul, split]
  rw [powerOfTen, split]
  exact Format.round_exact Nat.one_pos (by decide) fits exact

theorem two_pow_le_powerOfTen (exponent : Nat) :
    2 ^ (double.precision - 1) ≤ powerOfTen exponent := by
  have low := (powerOfTen_within exponent).bounds.1
  have unit : (2 : ℚ) ^ double.precision ≤ 2 ^ double.unit :=
    pow_le_pow_right₀ (by norm_num) (by decide)
  have bits : (2 : ℚ) ^ double.precision = 2 ^ (double.precision - 1) * 2 :=
    (pow_sub_one_mul (by decide) 2).symm
  have power : (1 : ℚ) ≤ 10 ^ exponent := one_le_pow₀ (by norm_num)
  have product : (2 : ℚ) ^ double.unit ≤ 10 ^ exponent * 2 ^ double.unit :=
    le_mul_of_one_le_left (by positivity) power
  unfold roundingError at low
  have least : (2 ^ (double.precision - 1) : ℚ) ≤ powerOfTen exponent := by linarith
  exact_mod_cast least

theorem powerOfTen_pos (exponent : Nat) : 0 < powerOfTen exponent :=
  (Nat.two_pow_pos _).trans_le (two_pow_le_powerOfTen exponent)

theorem powerOfTen_le {exponent : Nat} (small : exponent ≤ 60) :
    2 ^ (double.precision - 1) * powerOfTen exponent ≤ 2 ^ double.unit * 2 ^ double.unit := by
  have high := (powerOfTen_within exponent).bounds.2
  have power : (10 : ℚ) ^ exponent ≤ 10 ^ 60 := pow_le_pow_right₀ (by norm_num) small
  have unit : (2 : ℚ) ^ 255 ≤ 2 ^ double.unit := pow_le_pow_right₀ (by norm_num) (by decide)
  have bits : (2 : ℚ) ^ (double.precision - 1) = 2 ^ 52 := rfl
  have enough : (2 ^ (double.precision - 1) * powerOfTen exponent : ℚ) ≤
      2 ^ double.unit * 2 ^ double.unit :=
    calc
      (2 ^ (double.precision - 1) * powerOfTen exponent : ℚ) ≤
          2 ^ 52 * (10 ^ 60 * 2 ^ double.unit * (1 + 1 / 2 ^ 53)) := by
        rw [bits]
        gcongr
        exact high.trans (by unfold roundingError; gcongr)
      _ = 2 ^ 52 * 10 ^ 60 * (1 + 1 / 2 ^ 53) * 2 ^ double.unit := by ring
      _ ≤ 2 ^ double.unit * 2 ^ double.unit := by
        gcongr
        refine le_trans ?_ unit
        norm_num
  exact_mod_cast enough

/-- A factor of a number with few bits is small if it is odd. -/
theorem five_pow_le {exponent whole bits rest : Nat} (positive : 0 < whole)
    (factor : whole * 2 ^ bits = 5 ^ exponent * rest) : 5 ^ exponent ≤ whole := by
  have divides : 5 ^ exponent ∣ whole * 2 ^ bits := Dvd.intro _ factor.symm
  have odd : Nat.Coprime (5 ^ exponent) (2 ^ bits) := Nat.Coprime.pow _ _ (by decide)
  exact Nat.le_of_dvd positive (odd.dvd_of_dvd_mul_right divides)

theorem le_22_of_five_pow {exponent : Nat} (least : 5 ^ exponent < 2 ^ 53) : exponent ≤ 22 := by
  by_contra large
  have power : 5 ^ 23 ≤ 5 ^ exponent := Nat.pow_le_pow_right (by decide) (by omega)
  exact absurd (power.trans_lt least) (by decide)

/-! ### Scaled numbers -/

/-- Units of double precision that approximate a value, exactly so where the value has few bits. -/
structure Approximates (units : Nat) (value : ℚ) : Prop where
  near : Within scalingError value (units / 2 ^ double.unit)
  exact : ∀ few bits : Nat, few < 2 ^ 25 → value * 2 ^ 150 = few * 2 ^ bits →
    units / 2 ^ double.unit = value

theorem le_double_unit : 150 ≤ double.unit := by
  decide

theorem units_exact {units few bits : Nat} (exact : value * 2 ^ 150 = few * 2 ^ bits)
    (counted : units = few * 2 ^ (bits + (double.unit - 150))) :
    units / 2 ^ double.unit = value := by
  rw [counted, div_eq_iff (by positivity), ← pow_sub_mul_pow 2 le_double_unit]
  push_cast
  rw [pow_add]
  linear_combination -(2 : ℚ) ^ (double.unit - 150) * exact

theorem multiply_within {whole : Nat} (positive : 0 < whole) (exponent : Nat) :
    Within scalingError (whole * 10 ^ exponent * 2 ^ double.unit)
      (double.round (whole * 2 ^ double.unit * powerOfTen exponent) (2 ^ (2 * double.unit))) := by
  have square : 2 ^ (2 * double.unit) = 2 ^ double.unit * 2 ^ double.unit := by
    rw [two_mul, pow_add]
  have normal : 2 ^ (double.precision - 1) * 2 ^ (2 * double.unit) ≤
      whole * 2 ^ double.unit * powerOfTen exponent * 2 ^ double.unit :=
    calc
      2 ^ (double.precision - 1) * 2 ^ (2 * double.unit) ≤
          powerOfTen exponent * 2 ^ (2 * double.unit) :=
        Nat.mul_le_mul_right _ (two_pow_le_powerOfTen exponent)
      _ ≤ whole * (powerOfTen exponent * 2 ^ (2 * double.unit)) :=
        Nat.le_mul_of_pos_left _ positive
      _ = whole * 2 ^ double.unit * powerOfTen exponent * 2 ^ double.unit := by
        rw [square]
        ring
  have divisor : 0 < 2 ^ (2 * double.unit) := by positivity
  have within := round_within divisor normal
  have product : ((whole * 2 ^ double.unit * powerOfTen exponent : Nat) : ℚ) * 2 ^ double.unit /
      (2 ^ (2 * double.unit) : Nat) = whole * powerOfTen exponent := by
    rw [square]
    push_cast
    field_simp
  rw [product] at within
  have power : Within inverseError (10 ^ exponent * 2 ^ double.unit) (powerOfTen exponent) :=
    (powerOfTen_within exponent).mono (by positivity) (by norm_num [roundingError, inverseError])
  rw [mul_assoc]
  exact Within.scale (by exact_mod_cast positive) power within

theorem multiply_exact {whole exponent few bits : Nat} (positive : 0 < whole)
    (limit : few < 2 ^ 25) (exact : whole * 10 ^ exponent * 2 ^ 150 = few * 2 ^ bits) :
    double.round (whole * 2 ^ double.unit * powerOfTen exponent) (2 ^ (2 * double.unit)) =
      few * 2 ^ (bits + (double.unit - 150)) := by
  have some : 0 < few := by
    refine Nat.pos_of_ne_zero ?_
    rintro rfl
    have product : 0 < whole * 10 ^ exponent * 2 ^ 150 := by positivity
    omega
  -- The fives of the power are in the few bits of the product, so there are not many of them.
  have split : few * 2 ^ bits = 5 ^ exponent * (whole * 2 ^ exponent * 2 ^ 150) := by
    rw [← exact, show 10 = 5 * 2 from rfl, mul_pow]
    ring
  have small : exponent ≤ 22 :=
    le_22_of_five_pow ((five_pow_le some split).trans_lt (limit.trans (by decide)))
  have divisor : 0 < 2 ^ (2 * double.unit) := by positivity
  refine Format.round_exact divisor (by decide) (limit.trans (by decide)) ?_
  rw [powerOfTen_exact small, two_mul, pow_add 2 double.unit, pow_add 2 bits,
    ← pow_sub_mul_pow 2 le_double_unit]
  linear_combination
    2 ^ (double.unit - 150) * (2 ^ (double.unit - 150) * 2 ^ 150) ^ 2 * exact

theorem le_double_limit : 2 ^ 255 * 2 ^ double.unit ≤ double.limit := by
  decide +kernel

theorem multiply_inRange {whole exponent : Nat} (positive : 0 < whole) (fits : whole < 2 ^ 53)
    (small : exponent ≤ 60) :
    double.round (whole * 2 ^ double.unit * powerOfTen exponent) (2 ^ (2 * double.unit)) <
      double.limit := by
  have high := (multiply_within positive exponent).bounds.2
  have few : (whole : ℚ) ≤ 2 ^ 53 := by exact_mod_cast fits.le
  have power : (10 : ℚ) ^ exponent ≤ 10 ^ 60 := pow_le_pow_right₀ (by norm_num) small
  have most : (whole * 10 ^ exponent : ℚ) ≤ 2 ^ 53 * 10 ^ 60 := by gcongr
  have unit : (0 : ℚ) < 2 ^ double.unit := by positivity
  have bound : (whole * 10 ^ exponent * 2 ^ double.unit * (1 + scalingError) : ℚ) <
      2 ^ 255 * 2 ^ double.unit :=
    calc
      (whole * 10 ^ exponent * 2 ^ double.unit * (1 + scalingError) : ℚ) =
          whole * 10 ^ exponent * ((1 + scalingError) * 2 ^ double.unit) := by ring
      _ ≤ 2 ^ 53 * 10 ^ 60 * ((1 + scalingError) * 2 ^ double.unit) := by
        refine mul_le_mul_of_nonneg_right most ?_
        unfold scalingError
        positivity
      _ < 2 ^ 255 * 2 ^ double.unit := by
        rw [← mul_assoc]
        refine mul_lt_mul_of_pos_right ?_ unit
        unfold scalingError
        norm_num
  refine lt_of_lt_of_le ?_ le_double_limit
  exact_mod_cast high.trans_lt bound

theorem exists_multiplied {whole exponent : Nat} (positive : 0 < whole) (fits : whole < 2 ^ 53)
    (small : exponent ≤ 60) :
    ∃ units, multiplyByPower? (double.round whole 1) exponent = some units ∧
      Approximates units (whole * 10 ^ exponent) := by
  have unit : (0 : ℚ) < 2 ^ double.unit := by positivity
  have product : multiplyByPower? (double.round whole 1) exponent =
      some (double.round (whole * 2 ^ double.unit * powerOfTen exponent)
        (2 ^ (2 * double.unit))) := by
    unfold multiplyByPower?
    simp only [Nat.pow_eq]
    rw [if_neg (by unfold largestPower; omega), round_whole fits,
      if_pos (multiply_inRange positive fits small)]
  refine ⟨_, product, (multiply_within positive exponent).unscaled unit, ?_⟩
  intro few bits limit exact
  exact units_exact exact (multiply_exact positive limit (by exact_mod_cast exact))

theorem divide_within {whole exponent : Nat} (positive : 0 < whole) (small : exponent ≤ 60) :
    Within scalingError (whole / 10 ^ exponent * 2 ^ double.unit)
      (double.round (whole * 2 ^ double.unit) (powerOfTen exponent)) := by
  have normal : 2 ^ (double.precision - 1) * powerOfTen exponent ≤
      whole * 2 ^ double.unit * 2 ^ double.unit := by
    rw [Nat.mul_assoc]
    exact (powerOfTen_le small).trans (Nat.le_mul_of_pos_left _ positive)
  have within := round_within (powerOfTen_pos exponent) normal
  have quotient : ((whole * 2 ^ double.unit : Nat) : ℚ) * 2 ^ double.unit / powerOfTen exponent =
      whole * (2 ^ double.unit * 2 ^ double.unit / powerOfTen exponent) := by
    push_cast
    ring
  rw [quotient] at within
  have inverse := Within.inverse (by positivity) (by positivity) (powerOfTen_within exponent)
  rw [div_mul_eq_mul_div, mul_div_assoc]
  exact Within.scale (by exact_mod_cast positive) inverse within

theorem divide_exact {whole exponent few bits : Nat} (positive : 0 < whole) (fits : whole < 2 ^ 53)
    (limit : few < 2 ^ 25) (exact : whole * 2 ^ 150 = few * 2 ^ bits * 10 ^ exponent) :
    double.round (whole * 2 ^ double.unit) (powerOfTen exponent) =
      few * 2 ^ (bits + (double.unit - 150)) := by
  have split : whole * 2 ^ 150 = 5 ^ exponent * (few * 2 ^ bits * 2 ^ exponent) := by
    rw [exact, show 10 = 5 * 2 from rfl, mul_pow]
    ring
  have small : exponent ≤ 22 := le_22_of_five_pow ((five_pow_le positive split).trans_lt fits)
  refine Format.round_exact (powerOfTen_pos exponent) (by decide) (limit.trans (by decide)) ?_
  rw [powerOfTen_exact small, pow_add 2 bits, ← pow_sub_mul_pow 2 le_double_unit]
  linear_combination
    2 ^ (double.unit - 150) * (2 ^ (double.unit - 150) * 2 ^ 150) * exact

theorem divide_approximates {whole exponent : Nat} (positive : 0 < whole) (fits : whole < 2 ^ 53)
    (small : exponent ≤ 60) :
    Approximates (divideByPower (double.round whole 1) exponent) (whole / 10 ^ exponent) := by
  have unit : (0 : ℚ) < 2 ^ double.unit := by positivity
  have quotient : divideByPower (double.round whole 1) exponent =
      double.round (whole * 2 ^ double.unit) (powerOfTen exponent) := by
    rw [divideByPower, if_pos (by unfold largestPower; omega), round_whole fits]
  rw [quotient]
  refine ⟨(divide_within positive small).unscaled unit, ?_⟩
  intro few bits limit exact
  refine units_exact exact (divide_exact positive fits limit ?_)
  rw [div_mul_eq_mul_div, div_eq_iff (by positivity)] at exact
  exact_mod_cast exact

end CheckBinding.Number
