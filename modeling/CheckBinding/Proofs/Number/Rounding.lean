import CheckBinding.Number.Binary
import Mathlib.Algebra.Order.Field.Rat
import Mathlib.Data.Nat.Log
import Mathlib.Tactic.FieldSimp
import Mathlib.Tactic.Linarith
import Mathlib.Tactic.Positivity
import Mathlib.Tactic.Ring

/-!
Rounding to a binary format.

A quotient rounds to the whole number that is nearest to it. So rounding to a format is off by half
a unit of the last kept bit, which is little against a quotient with as many bits as are kept, and
it is not off at all when the quotient has no more bits.
-/

namespace CheckBinding.Number

/-! ### Quotients -/

theorem roundQuotient_near {numerator denominator : Nat} (positive : 0 < denominator) :
    2 * roundQuotient numerator denominator * denominator ≤ 2 * numerator + denominator ∧
      2 * numerator ≤ (2 * roundQuotient numerator denominator + 1) * denominator := by
  have split := Nat.div_add_mod numerator denominator
  have small := Nat.mod_lt numerator positive
  unfold roundQuotient
  dsimp only
  generalize numerator / denominator = quotient at *
  generalize numerator % denominator = remainder at *
  have up : (quotient + 1) * denominator = denominator * quotient + denominator := by ring
  split
  · constructor <;> linarith
  · split
    · constructor <;> linarith
    · split
      · constructor <;> linarith
      · constructor <;> linarith

/-- What a quotient is nearest to, of two equally near ones the even. -/
theorem roundQuotient_eq {numerator denominator quotient : Nat} (positive : 0 < denominator)
    (low : 2 * quotient * denominator ≤ 2 * numerator + denominator)
    (high : 2 * numerator ≤ (2 * quotient + 1) * denominator)
    (tie : 2 * quotient * denominator = 2 * numerator + denominator ∨
      2 * numerator = (2 * quotient + 1) * denominator → quotient % 2 = 0) :
    roundQuotient numerator denominator = quotient := by
  have split := Nat.div_add_mod numerator denominator
  have small := Nat.mod_lt numerator positive
  unfold roundQuotient
  dsimp only
  generalize numerator / denominator = whole at *
  generalize numerator % denominator = remainder at *
  have least : whole ≤ quotient := by
    by_contra above
    have apart := Nat.mul_le_mul_right denominator (Nat.succ_le_of_lt (Nat.lt_of_not_le above))
    linarith
  have most : quotient ≤ whole + 1 := by
    by_contra below
    have apart := Nat.mul_le_mul_right denominator (Nat.succ_le_of_lt (Nat.lt_of_not_le below))
    linarith
  rcases Nat.eq_or_lt_of_le least with rfl | above
  · have half : 2 * remainder ≤ denominator := by linarith
    rcases Nat.eq_or_lt_of_le half with middle | under
    · have even := tie (Or.inr (by linarith))
      rw [if_neg (by omega), if_neg (by omega), if_pos even]
    · rw [if_pos under]
  · obtain rfl : quotient = whole + 1 := by omega
    have half : denominator ≤ 2 * remainder := by linarith
    rcases Nat.eq_or_lt_of_le half with middle | beyond
    · have even := tie (Or.inl (by linarith))
      rw [if_neg (by omega), if_neg (by omega), if_neg (by omega)]
    · rw [if_neg (by omega), if_pos beyond]

/-! ### Formats -/

namespace Format

variable {format : Format} {numerator denominator : Nat}

def dropped (format : Format) (numerator denominator : Nat) : Nat :=
  (numerator * 2 ^ format.unit / denominator).log2 + 1 - format.precision

theorem round_eq (format : Format) (numerator denominator : Nat) :
    format.round numerator denominator =
      roundQuotient (numerator * 2 ^ format.unit)
        (denominator * 2 ^ format.dropped numerator denominator) *
          2 ^ format.dropped numerator denominator :=
  rfl

theorem round_near (positive : 0 < denominator) :
    |(format.round numerator denominator : ℚ) - numerator * 2 ^ format.unit / denominator| ≤
      2 ^ format.dropped numerator denominator / 2 := by
  rw [round_eq]
  generalize format.dropped numerator denominator = bits
  have scaled : 0 < denominator * 2 ^ bits := Nat.mul_pos positive (Nat.two_pow_pos bits)
  obtain ⟨low, high⟩ := @roundQuotient_near (numerator * 2 ^ format.unit) _ scaled
  generalize roundQuotient _ _ = quotient at *
  have below : (2 * quotient * (denominator * 2 ^ bits) : ℚ) ≤
      2 * (numerator * 2 ^ format.unit) + denominator * 2 ^ bits := by
    exact_mod_cast low
  have above : (2 * (numerator * 2 ^ format.unit) : ℚ) ≤
      (2 * quotient + 1) * (denominator * 2 ^ bits) := by
    exact_mod_cast high
  have whole : (0 : ℚ) < denominator := by exact_mod_cast positive
  rw [abs_le]
  push_cast
  constructor
  · rw [neg_le_sub_iff_le_add, div_le_iff₀ whole]
    linarith
  · rw [sub_le_iff_le_add, ← sub_le_iff_le_add', le_div_iff₀ whole]
    linarith

theorem two_pow_dropped_le (positive : 0 < denominator)
    (normal : 2 ^ (format.precision - 1) * denominator ≤ numerator * 2 ^ format.unit)
    (keeps : 0 < format.precision) :
    (2 : ℚ) ^ format.dropped numerator denominator * 2 ^ (format.precision - 1) ≤
      numerator * 2 ^ format.unit / denominator := by
  have least : 2 ^ (format.precision - 1) ≤ numerator * 2 ^ format.unit / denominator :=
    (Nat.le_div_iff_mul_le positive).mpr normal
  have some : numerator * 2 ^ format.unit / denominator ≠ 0 := by
    have power := Nat.two_pow_pos (format.precision - 1)
    omega
  have bits : format.precision - 1 ≤ (numerator * 2 ^ format.unit / denominator).log2 :=
    (Nat.le_log2 some).mpr least
  have exact : format.dropped numerator denominator + (format.precision - 1) =
      (numerator * 2 ^ format.unit / denominator).log2 := by
    unfold dropped
    omega
  rw [← pow_add, exact]
  have floor : 2 ^ (numerator * 2 ^ format.unit / denominator).log2 * denominator ≤
      numerator * 2 ^ format.unit :=
    (Nat.le_div_iff_mul_le positive).mp (Nat.log2_self_le some)
  have whole : (0 : ℚ) < denominator := by exact_mod_cast positive
  rw [le_div_iff₀ whole]
  exact_mod_cast floor

/-- A quotient with enough bits is rounded with a small relative error. -/
theorem round_relative (positive : 0 < denominator)
    (normal : 2 ^ (format.precision - 1) * denominator ≤ numerator * 2 ^ format.unit)
    (keeps : 0 < format.precision) :
    |(format.round numerator denominator : ℚ) - numerator * 2 ^ format.unit / denominator| ≤
      numerator * 2 ^ format.unit / denominator / 2 ^ format.precision := by
  refine (round_near positive).trans ?_
  have least := two_pow_dropped_le positive normal keeps
  have bits : (2 : ℚ) ^ format.precision = 2 ^ (format.precision - 1) * 2 := by
    rw [← pow_succ, Nat.sub_add_cancel keeps]
  rw [bits, div_le_div_iff₀ (by norm_num) (by positivity)]
  linarith

theorem dropped_eq {bits : Nat} (positive : 0 < denominator) (keeps : 0 < format.precision)
    (most : numerator * 2 ^ format.unit < 2 ^ format.precision * (denominator * 2 ^ bits))
    (least : bits = 0 ∨
      2 ^ (format.precision - 1) * (denominator * 2 ^ bits) ≤ numerator * 2 ^ format.unit) :
    format.dropped numerator denominator = bits := by
  have under : numerator * 2 ^ format.unit / denominator < 2 ^ (format.precision + bits) := by
    rw [Nat.div_lt_iff_lt_mul positive, pow_add]
    linarith
  unfold dropped
  rcases least with rfl | least
  · rcases Nat.eq_zero_or_pos (numerator * 2 ^ format.unit / denominator) with none | some
    · rw [none, Nat.log2_zero]
      omega
    · have bound := (Nat.log2_lt some.ne').mpr under
      omega
  · have floor : 2 ^ (format.precision - 1 + bits) ≤
        numerator * 2 ^ format.unit / denominator := by
      rw [Nat.le_div_iff_mul_le positive, pow_add]
      linarith
    have power := Nat.two_pow_pos (format.precision - 1 + bits)
    have exact : (numerator * 2 ^ format.unit / denominator).log2 =
        format.precision - 1 + bits := by
      rw [Nat.log2_eq_iff (by omega)]
      refine ⟨floor, ?_⟩
      rw [show format.precision - 1 + bits + 1 = format.precision + bits by omega]
      exact under
    omega

/-- What is a multiple of a unit in the last place, from half a unit below to half a unit above it,
rounds to it, the ends only if it is an even multiple. -/
theorem round_eq_of_near {units bits : Nat} (positive : 0 < denominator)
    (dropped : format.dropped numerator denominator = bits)
    (low : 2 * units * (denominator * 2 ^ bits) ≤
      2 * (numerator * 2 ^ format.unit) + denominator * 2 ^ bits)
    (high : 2 * (numerator * 2 ^ format.unit) ≤ (2 * units + 1) * (denominator * 2 ^ bits))
    (tie : 2 * units * (denominator * 2 ^ bits) =
        2 * (numerator * 2 ^ format.unit) + denominator * 2 ^ bits ∨
      2 * (numerator * 2 ^ format.unit) = (2 * units + 1) * (denominator * 2 ^ bits) →
        units % 2 = 0) :
    format.round numerator denominator = units * 2 ^ bits := by
  have scaled : 0 < denominator * 2 ^ bits := Nat.mul_pos positive (Nat.two_pow_pos bits)
  rw [round_eq, dropped, roundQuotient_eq scaled low high tie]

/-- A multiple of a power of two that has no more bits than are kept is not rounded. -/
theorem round_exact {units bits : Nat} (positive : 0 < denominator)
    (keeps : 0 < format.precision) (fits : units < 2 ^ format.precision)
    (exact : numerator * 2 ^ format.unit = denominator * (units * 2 ^ bits)) :
    format.round numerator denominator = units * 2 ^ bits := by
  have whole : numerator * 2 ^ format.unit / denominator = units * 2 ^ bits := by
    rw [exact, Nat.mul_div_cancel_left _ positive]
  have few : format.dropped numerator denominator ≤ bits := by
    unfold dropped
    rw [whole]
    rcases Nat.eq_zero_or_pos (units * 2 ^ bits) with none | some
    · rw [none, Nat.log2_zero]
      omega
    · have bound : units * 2 ^ bits < 2 ^ (format.precision + bits) := by
        rw [pow_add]
        exact Nat.mul_lt_mul_of_pos_right fits (Nat.two_pow_pos bits)
      have small := (Nat.log2_lt some.ne').mpr bound
      omega
  have split : 2 ^ bits =
      2 ^ (bits - format.dropped numerator denominator) *
        2 ^ format.dropped numerator denominator := by
    rw [← pow_add, Nat.sub_add_cancel few]
  rw [round_eq, exact]
  generalize format.dropped numerator denominator = low at *
  have scaled : 0 < denominator * 2 ^ low := Nat.mul_pos positive (Nat.two_pow_pos low)
  have spread : denominator * (units * 2 ^ bits) =
      units * 2 ^ (bits - low) * (denominator * 2 ^ low) := by
    rw [split]
    ring
  have quotient : roundQuotient (units * 2 ^ (bits - low) * (denominator * 2 ^ low))
      (denominator * 2 ^ low) = units * 2 ^ (bits - low) := by
    refine roundQuotient_eq scaled (by linarith) (by linarith) ?_
    rintro (tie | tie) <;> linarith
  rw [spread, quotient, split]
  ring

end Format

/-! ### Single precision -/

/-- A value that rounds to so many units, a unit being worth so many bits. -/
structure RoundsTo (units bits : Nat) (value : ℚ) : Prop where
  low : (2 * units - 1 : ℚ) * 2 ^ bits ≤ value * 2 ^ 150
  high : value * 2 ^ 150 ≤ (2 * units + 1 : ℚ) * 2 ^ bits
  tie : value * 2 ^ 150 = (2 * units - 1 : ℚ) * 2 ^ bits ∨
    value * 2 ^ 150 = (2 * units + 1 : ℚ) * 2 ^ bits → units % 2 = 0

structure Regular (units bits : Nat) : Prop where
  positive : 0 < units
  fits : units < 2 ^ 24
  normal : bits = 0 ∨ 2 ^ 23 < units

structure InBinade (bits : Nat) (value : ℚ) : Prop where
  below : value * 2 ^ 150 < 2 ^ 25 * 2 ^ bits
  above : bits = 0 ∨ 2 ^ 24 * 2 ^ bits ≤ value * 2 ^ 150

theorem Regular.inBinade {units bits : Nat} {value : ℚ} (regular : Regular units bits)
    (rounds : RoundsTo units bits value) : InBinade bits value := by
  have bit : (0 : ℚ) < 2 ^ bits := by positivity
  constructor
  · have fits : (units + 1 : ℚ) ≤ 2 ^ 24 := by exact_mod_cast regular.fits
    have wide := mul_le_mul_of_nonneg_right fits bit.le
    linarith [rounds.high]
  · refine regular.normal.imp id (fun large => ?_)
    have least : (2 ^ 23 + 1 : ℚ) ≤ units := by exact_mod_cast large
    have wide := mul_le_mul_of_nonneg_right least bit.le
    linarith [rounds.low]

theorem InBinade.dropped_eq {bits numerator denominator : Nat} (positive : 0 < denominator)
    (inBinade : InBinade bits (numerator / denominator)) :
    single.dropped numerator denominator = bits := by
  have whole : (0 : ℚ) < denominator := by exact_mod_cast positive
  have scaled : (numerator / denominator : ℚ) * 2 ^ 150 * denominator =
      2 * (numerator * 2 ^ 149) := by
    field_simp
  apply Format.dropped_eq positive (by decide)
  · have most := mul_lt_mul_of_pos_right inBinade.below whole
    rw [scaled] at most
    have total : (numerator * 2 ^ 149 : ℚ) < 2 ^ 24 * (denominator * 2 ^ bits) := by linarith
    exact_mod_cast total
  · refine inBinade.above.imp id (fun above => ?_)
    have least := mul_le_mul_of_nonneg_right above whole.le
    rw [scaled] at least
    have total : (2 ^ 23 * (denominator * 2 ^ bits) : ℚ) ≤ numerator * 2 ^ 149 := by linarith
    exact_mod_cast total

/-- What rounds to units is rounded to them. -/
theorem RoundsTo.round_eq {units bits numerator denominator : Nat} (positive : 0 < denominator)
    (rounds : RoundsTo units bits (numerator / denominator))
    (inBinade : InBinade bits (numerator / denominator)) :
    single.round numerator denominator = units * 2 ^ bits := by
  have whole : (0 : ℚ) < denominator := by exact_mod_cast positive
  obtain ⟨low, high, tie⟩ := rounds
  have scaled : (numerator / denominator : ℚ) * 2 ^ 150 * denominator =
      2 * (numerator * 2 ^ 149) := by
    field_simp
  apply Format.round_eq_of_near positive (inBinade.dropped_eq positive)
  · have least := mul_le_mul_of_nonneg_right low whole.le
    rw [scaled] at least
    have total : (2 * units * (denominator * 2 ^ bits) : ℚ) ≤
        2 * (numerator * 2 ^ 149) + denominator * 2 ^ bits := by
      linarith
    exact_mod_cast total
  · have most := mul_le_mul_of_nonneg_right high whole.le
    rw [scaled] at most
    have total : (2 * (numerator * 2 ^ 149) : ℚ) ≤
        (2 * units + 1) * (denominator * 2 ^ bits) := by
      linarith
    exact_mod_cast total
  · rintro (same | same)
    · have total : (2 * units * (denominator * 2 ^ bits) : ℚ) =
          2 * (numerator * 2 ^ 149) + denominator * 2 ^ bits := by
        exact_mod_cast same
      refine tie (Or.inl (mul_right_cancel₀ whole.ne' ?_))
      rw [scaled]
      linarith
    · have total : (2 * (numerator * 2 ^ 149) : ℚ) =
          (2 * units + 1) * (denominator * 2 ^ bits) := by
        exact_mod_cast same
      refine tie (Or.inr (mul_right_cancel₀ whole.ne' ?_))
      rw [scaled]
      linarith

/-- A value whose distance to the middles is beyond doubt. -/
theorem roundsTo_of_lt {units bits : Nat} {value : ℚ}
    (low : (2 * units - 1 : ℚ) * 2 ^ bits < value * 2 ^ 150)
    (high : value * 2 ^ 150 < (2 * units + 1 : ℚ) * 2 ^ bits) : RoundsTo units bits value := by
  refine ⟨low.le, high.le, ?_⟩
  rintro (same | same)
  · exact absurd same low.ne'
  · exact absurd same high.ne

/-- Below a power of two the spacing is half of what it is above. -/
theorem round_power {bits numerator denominator : Nat} (some : 0 < bits)
    (positive : 0 < denominator)
    (low : ((2 ^ 25 - 1) * 2 ^ bits : ℚ) < numerator / denominator * 2 ^ 151)
    (high : (numerator / denominator * 2 ^ 150 : ℚ) < (2 ^ 24 + 1) * 2 ^ bits) :
    single.round numerator denominator = 2 ^ 23 * 2 ^ bits := by
  obtain ⟨rest, rfl⟩ := Nat.exists_eq_succ_of_ne_zero some.ne'
  have bit : (0 : ℚ) < 2 ^ rest := by positivity
  have next : (2 : ℚ) ^ rest.succ = 2 ^ rest * 2 := pow_succ 2 rest
  -- Below the power it is one more than the most units of the finer spacing, above it the fewest of
  -- the coarser one.
  rcases lt_or_ge (numerator / denominator * 2 ^ 150 : ℚ) (2 ^ 25 * 2 ^ rest) with below | above
  · have rounds : RoundsTo (2 ^ 24) rest (numerator / denominator) := by
      apply roundsTo_of_lt
      · push_cast
        linarith
      · push_cast
        linarith
    have inBinade : InBinade rest (numerator / denominator) :=
      ⟨below, Or.inr (by linarith)⟩
    rw [rounds.round_eq positive inBinade, Nat.succ_eq_add_one, pow_succ 2 rest]
    ring
  · have rounds : RoundsTo (2 ^ 23) rest.succ (numerator / denominator) := by
      apply roundsTo_of_lt
      · push_cast
        linarith
      · push_cast
        linarith
    have inBinade : InBinade rest.succ (numerator / denominator) :=
      ⟨by linarith, Or.inr (by linarith)⟩
    exact rounds.round_eq positive inBinade

end CheckBinding.Number
