import CheckBinding.Proofs.Json.Numerals
import CheckBinding.Proofs.Number.Bracketing
import CheckBinding.Proofs.Number.Reading

/-!
Every number of single precision reads back.

A number is written with few digits, and on a coarse grid its distance from the middles to its
neighbours was surveyed; on a fine grid it is well inside of them. So what double precision is off
by, when the numeral is read, does not take it past a middle.
-/

namespace CheckBinding.Number

variable {units bits number : Nat} {value : ℚ} {decimal : Decimal}

/-! ### Distances from the middles -/

theorem cast_lower_middle (positive : 0 < units) : ((2 * units - 1 : Nat) : ℚ) = 2 * units - 1 := by
  rw [Nat.cast_sub (by omega)]
  push_cast
  ring

theorem cast_upper_middle (units : Nat) : ((2 * units + 1 : Nat) : ℚ) = 2 * units + 1 := by
  push_cast
  rfl

structure Clear (units bits : Nat) (value : ℚ) : Prop where
  low : (2 * units - 1 : ℚ) * 2 ^ bits < value * 2 ^ 150 →
    (2 * units - 1 : ℚ) * 2 ^ bits < value * 2 ^ 150 * (1 - scalingError)
  high : value * 2 ^ 150 < (2 * units + 1 : ℚ) * 2 ^ bits →
    value * 2 ^ 150 * (1 + scalingError) < (2 * units + 1 : ℚ) * 2 ^ bits

/-- What approximates a value that is clear of the middles rounds as the value does. -/
theorem RoundsTo.approximated (rounds : RoundsTo units bits value) (regular : Regular units bits)
    (clear : Clear units bits value) (approximates : Approximates number value) :
    RoundsTo units bits (number / 2 ^ double.unit) := by
  obtain ⟨near, exact⟩ := approximates
  obtain ⟨least, most⟩ := near.bounds
  have positive := regular.positive
  have fits := regular.fits
  -- A middle itself has few bits and is approximated exactly.
  rcases rounds.low.eq_or_lt with tie | low
  · rw [exact (2 * units - 1) bits (by omega) (by rw [cast_lower_middle positive, tie])]
    exact rounds
  · rcases rounds.high.eq_or_lt with tie | high
    · rw [exact (2 * units + 1) bits (by omega) (by rw [cast_upper_middle, tie])]
      exact rounds
    · have below := clear.low low
      have above := clear.high high
      apply roundsTo_of_lt
      · linarith
      · linarith

theorem above_apart {middle scale : ℚ} (positive : 0 < scale) (nonnegative : 0 ≤ middle)
    (wide : middle * scale * Bracket.tolerance + middle * scale <
      value * scale * Bracket.tolerance) :
    middle < value * (1 - scalingError) := by
  have tolerance : (Bracket.tolerance : ℚ) = 2 ^ 52 - 2 ^ 48 := by norm_num [Bracket.tolerance]
  rw [tolerance] at wide
  have apart : middle * (2 ^ 52 - 2 ^ 48) + middle < value * (2 ^ 52 - 2 ^ 48) := by
    refine lt_of_mul_lt_mul_right ?_ positive.le
    linarith
  unfold scalingError
  linarith

theorem below_apart {middle scale : ℚ} (positive : 0 < scale) (nonnegative : 0 ≤ middle)
    (wide : value * scale * Bracket.tolerance + middle * scale <
      middle * scale * Bracket.tolerance) :
    value * (1 + scalingError) < middle := by
  have tolerance : (Bracket.tolerance : ℚ) = 2 ^ 52 - 2 ^ 48 := by norm_num [Bracket.tolerance]
  rw [tolerance] at wide
  have apart : value * (2 ^ 52 - 2 ^ 48) + middle < middle * (2 ^ 52 - 2 ^ 48) := by
    refine lt_of_mul_lt_mul_right ?_ positive.le
    linarith
  unfold scalingError
  linarith

theorem grid_value (decimal : Decimal) (bits : Nat) (above : gridPower bits ≤ decimal.power) :
    decimal.value * 2 ^ 150 * 10 ^ (-gridPower bits).toNat =
      (decimal.digits * 10 ^ (decimal.power - gridPower bits).toNat * gridNumerator bits :
        Nat) := by
  have power : (10 : ℚ) ^ decimal.power =
      10 ^ (decimal.power - gridPower bits).toNat * 10 ^ gridPower bits := by
    rw [← zpow_natCast, Int.toNat_of_nonneg (by omega), ← zpow_add₀ (by norm_num), sub_add_cancel]
  rw [Decimal.value, power, ten_zpow (gridPower bits), gridNumerator]
  push_cast
  field_simp
  norm_num

theorem clear_of_coarse (regular : Regular units bits) (range : bits < 254)
    (rounds : RoundsTo units bits decimal.value) (positive : 0 < decimal.digits)
    (coarse : gridPower bits ≤ decimal.power)
    (easy : ¬ (bits = hardBits ∧ 2 * units + 1 = hardMiddle)) : Clear units bits decimal.value := by
  -- The value is a multiple of the power of ten that was surveyed.
  have scale : (0 : ℚ) < 10 ^ (-gridPower bits).toNat := by positivity
  have value := grid_value decimal bits coarse
  have some : 0 < decimal.digits * 10 ^ (decimal.power - gridPower bits).toNat :=
    Nat.mul_pos positive (Nat.pow_pos (by decide))
  generalize decimal.digits * 10 ^ (decimal.power - gridPower bits).toNat = multiple at *
  have unitsPositive := regular.positive
  have fits := regular.fits
  have denominator : 0 < gridDenominator bits :=
    Nat.mul_pos (Nat.pow_pos (by decide)) (Nat.two_pow_pos bits)
  have scaled : ∀ middle : Nat, ((middle * gridDenominator bits : Nat) : ℚ) =
      middle * 2 ^ bits * 10 ^ (-gridPower bits).toNat := by
    intro middle
    unfold gridDenominator
    push_cast
    ring
  have lowMiddle := cast_lower_middle unitsPositive
  have highMiddle := cast_upper_middle units
  constructor
  · intro low
    have above : (2 * units - 1) * gridDenominator bits < multiple * gridNumerator bits := by
      have total := mul_lt_mul_of_pos_right low scale
      rw [value, ← lowMiddle, ← scaled] at total
      exact_mod_cast total
    have limit : multiple * gridNumerator bits < Bracket.wholeLimit * gridDenominator bits := by
      have most := mul_le_mul_of_nonneg_right rounds.high scale.le
      rw [value, ← highMiddle, ← scaled] at most
      have whole : multiple * gridNumerator bits ≤ (2 * units + 1) * gridDenominator bits := by
        exact_mod_cast most
      refine whole.trans_lt (Nat.mul_lt_mul_of_pos_right ?_ denominator)
      unfold Bracket.wholeLimit
      omega
    have wide := above_middle range some limit above
    rw [← lowMiddle]
    refine above_apart scale (by positivity) ?_
    rw [value, ← scaled]
    exact_mod_cast wide
  · intro high
    have below : multiple * gridNumerator bits < (2 * units + 1) * gridDenominator bits := by
      have total := mul_lt_mul_of_pos_right high scale
      rw [value, ← highMiddle, ← scaled] at total
      exact_mod_cast total
    have limit : 2 * units + 1 < Bracket.wholeLimit := by
      unfold Bracket.wholeLimit
      omega
    have wide := (below_middle range some limit below).resolve_right easy
    rw [← highMiddle]
    refine below_apart scale (by positivity) ?_
    rw [value, ← scaled]
    exact_mod_cast wide

/-- One power of ten less makes the grid finer than the spacing. -/
theorem grid_fine (range : bits < 254) :
    (10 : ℚ) ^ gridPower bits * 2 ^ 150 * 2 ^ 20 < 20 * (2 ^ 20 - 1) * 2 ^ bits := by
  have fine := (surveyed bits range).fine
  unfold gridNumerator gridDenominator at fine
  rw [show 20 * (2 ^ 20 - 1) = 20971500 from rfl] at fine
  have total : (10 ^ (gridPower bits).toNat * 2 ^ 150 * 2 ^ 20 : ℚ) <
      20971500 * (10 ^ (-gridPower bits).toNat * 2 ^ bits) := by
    exact_mod_cast fine
  rw [ten_zpow, div_mul_eq_mul_div, div_mul_eq_mul_div, div_lt_iff₀ (by positivity)]
  linarith

theorem clear_of_fine (regular : Regular units bits) (range : bits < 254)
    (written : Written units bits decimal) (fine : decimal.power < gridPower bits) :
    Clear units bits decimal.value := by
  have bit : (0 : ℚ) < 2 ^ bits := by positivity
  have spacing : (10 : ℚ) ^ decimal.power * 2 ^ 149 * 2 ^ 20 ≤ (2 ^ 20 - 1) * 2 ^ bits := by
    have next : (10 : ℚ) ^ decimal.power * 10 ≤ 10 ^ gridPower bits := by
      rw [← zpow_add_one₀ (by norm_num)]
      exact zpow_le_zpow_right₀ (by norm_num) (by omega)
    linarith [grid_fine range]
  obtain ⟨low, high⟩ := written.chosen.inside regular spacing
  have fits : (units : ℚ) ≤ 2 ^ 24 := by exact_mod_cast regular.fits.le
  have total := mul_le_mul_of_nonneg_right fits bit.le
  constructor
  · intro _
    unfold scalingError
    linarith
  · intro _
    unfold scalingError
    linarith

/-! ### Numbers that are not a power of two -/

theorem ofQuotient_eq {total denominator : Nat} (negative : Bool)
    (rounded : single.round number denominator = total) (holds : single.Holds total) :
    Binary32.ofQuotient negative number denominator = .finite negative total holds := by
  subst rounded
  exact dif_pos holds.2

theorem shortest_digits (positive : 0 < units) : 0 < (shortest units).digits :=
  digits_searchGrids positive 39 100

theorem cast_unit : (number / (2 ^ double.unit : Nat) : ℚ) = number / 2 ^ double.unit := by
  rw [Nat.cast_pow, Nat.cast_ofNat]

/-- The hard middle is above one number, which is read back all the same. -/
theorem reread_hard (holds : single.Holds (hardMiddle / 2 * 2 ^ hardBits)) :
    ∀ negative : Bool,
      binary32? ((shortest (hardMiddle / 2 * 2 ^ hardBits)).toNumeral negative) =
        some (.finite negative (hardMiddle / 2 * 2 ^ hardBits) holds) := by
  decide +kernel +revert

theorem reread_regular (regular : Regular units bits) (range : bits < 254)
    (holds : single.Holds (units * 2 ^ bits)) (negative : Bool) :
    binary32? ((shortest (units * 2 ^ bits)).toNumeral negative) =
      some (.finite negative (units * 2 ^ bits) holds) := by
  by_cases hard : bits = hardBits ∧ 2 * units + 1 = hardMiddle
  · obtain ⟨rfl, middle⟩ := hard
    obtain rfl : units = hardMiddle / 2 := by omega
    exact reread_hard holds negative
  · have positive := shortest_digits (Nat.mul_pos regular.positive (Nat.two_pow_pos bits))
    have written := written_shortest regular range
    generalize shortest (units * 2 ^ bits) = decimal at *
    have clear : Clear units bits decimal.value := by
      rcases lt_or_ge decimal.power (gridPower bits) with fine | coarse
      · exact clear_of_fine regular range written fine
      · exact clear_of_coarse regular range written.rounds positive coarse hard
    obtain ⟨number, approximates, read⟩ :=
      exists_read positive written.few written.least written.most negative
    have rounds := written.rounds.approximated regular clear approximates
    have rounded : single.round number (2 ^ double.unit) = units * 2 ^ bits := by
      rw [← cast_unit] at rounds
      exact rounds.round_eq (by positivity) (regular.inBinade rounds)
    rw [read, ofQuotient_eq negative rounded holds]

/-! ### Powers of two -/

/-- Half a power of ten is beyond what reads back as less than it. -/
theorem onGrid?_eq_none {power : Int} (positive : 0 < units)
    (far : (2 * units : ℚ) < 10 ^ power * 2 ^ 149) : onGrid? units power = none := by
  rw [ten_zpow, div_mul_eq_mul_div, lt_div_iff₀ (by positivity)] at far
  have apart : 2 * units * 10 ^ (-power).toNat < 10 ^ power.toNat * 2 ^ 149 := by
    exact_mod_cast far
  have least : 0 ≤ units * 10 ^ (-power).toNat := Nat.zero_le _
  have point : gridPoint units power = 0 := by
    refine Nat.div_eq_of_lt ?_
    linarith
  have spacing : 2 ^ (units.log2 + 1 - single.precision) ≤ units :=
    (Nat.pow_le_pow_right (by decide) (by simp only [single]; omega)).trans
      (Nat.log2_self_le positive.ne')
  have upper : (⟨0 + 1, power⟩ : Decimal).readsBack units = false := by
    have beyond : (4 * units + 2 * 2 ^ (units.log2 + 1 - single.precision)) *
        10 ^ (-power).toNat < 4 * (0 + 1) * 10 ^ power.toNat * 2 ^ single.unit := by
      have wide := Nat.mul_le_mul_right (10 ^ (-power).toNat) spacing
      have unit : single.unit = 149 := rfl
      rw [unit]
      linarith
    unfold Decimal.readsBack
    simp only [Nat.pow_eq]
    split
    · rw [Bool.and_eq_false_iff]
      exact Or.inr (decide_eq_false (Nat.not_le_of_gt beyond))
    · rw [Bool.and_eq_false_iff]
      exact Or.inr (decide_eq_false (Nat.not_lt_of_gt beyond))
  rw [onGrid?_eq, point, upper, readsBack_zero positive]

theorem searchGrids_skip {count steps : Nat} {start : Int}
    (nothing : ∀ power, start - count < power → power ≤ start → onGrid? units power = none) :
    searchGrids units start (count + steps) = searchGrids units (start - count) steps := by
  induction count generalizing start with
  | zero =>
      rw [Nat.zero_add, Nat.cast_zero, sub_zero]
  | succ count ih =>
      rw [Nat.succ_add, searchGrids, nothing start (by omega) le_rfl]
      dsimp only
      rw [ih (fun power low high => nothing power (by omega) (by omega))]
      congr 1
      omega

def powerStart (bits : Nat) : Int :=
  (bits - 126 : Int) * 30103 / 100000 + 1

theorem powerStart_far : ∀ bits < 254,
    2 * (2 ^ 23 * 2 ^ bits) * 10 ^ (-(powerStart bits + 1)).toNat <
      10 ^ (powerStart bits + 1).toNat * 2 ^ 149 := by
  decide +kernel

theorem shortest_power (range : bits < 254) :
    shortest (2 ^ 23 * 2 ^ bits) =
      searchGrids (2 ^ 23 * 2 ^ bits) (powerStart bits) (powerStart bits + 61).toNat := by
  have start : -38 ≤ powerStart bits ∧ powerStart bits ≤ 39 := by
    unfold powerStart
    omega
  have far : (2 * (2 ^ 23 * 2 ^ bits : Nat) : ℚ) < 10 ^ (powerStart bits + 1) * 2 ^ 149 := by
    rw [ten_zpow, div_mul_eq_mul_div, lt_div_iff₀ (by positivity)]
    exact_mod_cast powerStart_far bits range
  have skipped := @searchGrids_skip (2 ^ 23 * 2 ^ bits) (39 - powerStart bits).toNat
    (powerStart bits + 61).toNat 39 (fun power low high => by
      refine onGrid?_eq_none (by positivity) ?_
      refine far.trans_le (mul_le_mul_of_nonneg_right ?_ (by positivity))
      exact zpow_le_zpow_right₀ (by norm_num) (by omega))
  have steps : (39 - powerStart bits).toNat + (powerStart bits + 61).toNat = 100 := by omega
  have reached : (39 : Int) - (39 - powerStart bits).toNat = powerStart bits := by omega
  rw [steps, reached] at skipped
  exact skipped

structure WellInside (bits : Nat) (decimal : Decimal) : Prop where
  few : decimal.digits < 2 ^ 28
  least : -45 ≤ decimal.power
  most : decimal.power ≤ 39
  low : (2 ^ 25 - 1) * 2 ^ bits * 10 ^ (-decimal.power).toNat * 2 ^ 51 <
    decimal.digits * 10 ^ decimal.power.toNat * 2 ^ 151 * (2 ^ 51 - 1)
  high : decimal.digits * 10 ^ decimal.power.toNat * 2 ^ 150 * (2 ^ 51 + 1) <
    (2 ^ 24 + 1) * 2 ^ bits * 10 ^ (-decimal.power).toNat * 2 ^ 51

instance (bits : Nat) (decimal : Decimal) : Decidable (WellInside bits decimal) :=
  decidable_of_iff (decimal.digits < 2 ^ 28 ∧ -45 ≤ decimal.power ∧ decimal.power ≤ 39 ∧
    (2 ^ 25 - 1) * 2 ^ bits * 10 ^ (-decimal.power).toNat * 2 ^ 51 <
      decimal.digits * 10 ^ decimal.power.toNat * 2 ^ 151 * (2 ^ 51 - 1) ∧
    decimal.digits * 10 ^ decimal.power.toNat * 2 ^ 150 * (2 ^ 51 + 1) <
      (2 ^ 24 + 1) * 2 ^ bits * 10 ^ (-decimal.power).toNat * 2 ^ 51)
    ⟨fun ⟨few, least, most, low, high⟩ => ⟨few, least, most, low, high⟩,
      fun ⟨few, least, most, low, high⟩ => ⟨few, least, most, low, high⟩⟩

theorem powers_wellInside : ∀ bits < 254, WellInside bits
    (searchGrids (2 ^ 23 * 2 ^ bits) (powerStart bits) (powerStart bits + 61).toNat) := by
  decide +kernel

theorem WellInside.bounds (inside : WellInside bits decimal) :
    ((2 ^ 25 - 1) * 2 ^ bits : ℚ) < decimal.value * (1 - scalingError) * 2 ^ 151 ∧
      decimal.value * (1 + scalingError) * 2 ^ 150 < ((2 ^ 24 + 1) * 2 ^ bits : ℚ) := by
  have scale : (0 : ℚ) < 10 ^ (-decimal.power).toNat := by positivity
  have value : decimal.value * 10 ^ (-decimal.power).toNat =
      decimal.digits * 10 ^ decimal.power.toNat := by
    rw [decimal.value_eq]
    field_simp
  have bit : (0 : ℚ) < 2 ^ bits := by positivity
  have low : ((2 ^ 25 - 1 : Nat) * 2 ^ bits * 10 ^ (-decimal.power).toNat * 2 ^ 51 : ℚ) <
      decimal.digits * 10 ^ decimal.power.toNat * 2 ^ 151 * (2 ^ 51 - 1 : Nat) := by
    exact_mod_cast inside.low
  have high : (decimal.digits * 10 ^ decimal.power.toNat * 2 ^ 150 * (2 ^ 51 + 1) : ℚ) <
      (2 ^ 24 + 1) * 2 ^ bits * 10 ^ (-decimal.power).toNat * 2 ^ 51 := by
    exact_mod_cast inside.high
  rw [← value] at low high
  norm_num at low
  unfold scalingError
  constructor
  · refine lt_of_mul_lt_mul_right ?_ scale.le
    linarith
  · refine lt_of_mul_lt_mul_right ?_ scale.le
    linarith

theorem reread_power (some : 0 < bits) (range : bits < 254)
    (holds : single.Holds (2 ^ 23 * 2 ^ bits)) (negative : Bool) :
    binary32? ((shortest (2 ^ 23 * 2 ^ bits)).toNumeral negative) =
      Option.some (.finite negative (2 ^ 23 * 2 ^ bits) holds) := by
  have positive := shortest_digits (Nat.mul_pos (Nat.two_pow_pos 23) (Nat.two_pow_pos bits))
  have inside := powers_wellInside bits range
  rw [← shortest_power range] at inside
  generalize shortest (2 ^ 23 * 2 ^ bits) = decimal at *
  obtain ⟨number, approximates, read⟩ :=
    exists_read positive inside.few inside.least inside.most negative
  obtain ⟨low, high⟩ := inside.bounds
  obtain ⟨least, most⟩ := approximates.near.bounds
  have rounded : single.round number (2 ^ double.unit) = 2 ^ 23 * 2 ^ bits := by
    apply round_power some (by positivity)
    · rw [cast_unit]
      linarith
    · rw [cast_unit]
      linarith
  rw [read, ofQuotient_eq negative rounded holds]

/-! ### Numbers of single precision -/

theorem reread_zero (holds : single.Holds 0) : ∀ negative : Bool,
    binary32? ⟨negative, ['0'], ['0'], none⟩ = some (.finite negative 0 holds) := by
  decide +kernel +revert

/-- A positive count of units is a significand at some place. -/
theorem Format.Holds.parts {total : Nat} (some : 0 < total) (holds : single.Holds total) :
    ∃ units bits, total = units * 2 ^ bits ∧ bits < 254 ∧
      (Regular units bits ∨ (units = 2 ^ 23 ∧ 0 < bits)) := by
  obtain ⟨⟨units, whole⟩, inRange⟩ := holds
  have precision : single.precision = 24 := rfl
  have limit : single.limit ≤ 2 ^ (24 + 253) := by decide +kernel
  have range := (Nat.log2_lt some.ne').mpr (inRange.trans_le limit)
  have floor := Nat.log2_self_le some.ne'
  have ceiling := @Nat.lt_log2_self total
  rw [precision] at whole
  generalize total.log2 = log at *
  generalize bitsEq : log + 1 - 24 = bits at *
  subst whole
  have fits : units < 2 ^ 24 := by
    have most : 2 ^ bits * units < 2 ^ bits * 2 ^ 24 := by
      rw [← pow_add]
      exact ceiling.trans_le (Nat.pow_le_pow_right (by decide) (by omega))
    exact Nat.lt_of_mul_lt_mul_left most
  have positive : 0 < units := Nat.pos_of_mul_pos_left some
  refine ⟨units, bits, Nat.mul_comm _ _, by omega, ?_⟩
  rcases Nat.eq_zero_or_pos bits with none | above
  · exact Or.inl ⟨positive, fits, Or.inl none⟩
  · have least : 2 ^ bits * 2 ^ 23 ≤ 2 ^ bits * units := by
      rw [← pow_add, show bits + 23 = log by omega]
      exact floor
    rcases (Nat.le_of_mul_le_mul_left least (Nat.two_pow_pos bits)).eq_or_lt with same | large
    · exact Or.inr ⟨same.symm, above⟩
    · exact Or.inl ⟨positive, fits, Or.inr large⟩

/-- Every number of single precision that can be written reads back. -/
theorem Binary32.rereads {number : Binary32} {numeral : Numeral}
    (written : number.toNumeral? = some numeral) :
    binary32? numeral = some number := by
  unfold Binary32.toNumeral? at written
  split at written
  · cases written
  · next negative holds =>
    cases written
    exact reread_zero holds negative
  · next negative units holds nonzero =>
    cases written
    have some : 0 < units := Nat.pos_of_ne_zero (by simpa using nonzero)
    obtain ⟨units, bits, rfl, range, regular | ⟨rfl, above⟩⟩ := holds.parts some
    · exact reread_regular regular range holds negative
    · exact reread_power above range holds negative

end CheckBinding.Number
