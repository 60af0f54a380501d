import CheckBinding.Number.Decimal
import CheckBinding.Proofs.Number.Rounding
import Mathlib.Algebra.Order.Field.Power

/-!
The decimal numbers that are written.

The search goes from coarse grids to fine ones, so what it finds reads back, has few digits, and is
next to the number: on a grid finer than the spacing of the numbers it is well inside of what reads
back.
-/

namespace CheckBinding.Number

def Decimal.value (decimal : Decimal) : ℚ :=
  decimal.digits * 10 ^ decimal.power

theorem ten_zpow (power : Int) :
    (10 : ℚ) ^ power = 10 ^ power.toNat / 10 ^ (-power).toNat := by
  obtain ⟨count, rfl | rfl⟩ := power.eq_nat_or_neg
  · simp
  · simp

variable {units bits : Nat}

theorem Regular.dropped (regular : Regular units bits) :
    (units * 2 ^ bits).log2 + 1 - 24 = bits := by
  obtain ⟨positive, fits, normal⟩ := regular
  have some : units * 2 ^ bits ≠ 0 :=
    (Nat.mul_pos positive (Nat.two_pow_pos bits)).ne'
  have most : units * 2 ^ bits < 2 ^ (24 + bits) := by
    rw [pow_add]
    exact Nat.mul_lt_mul_of_pos_right fits (Nat.two_pow_pos bits)
  have above := (Nat.log2_lt some).mpr most
  rcases normal with rfl | large
  · omega
  · have least : 2 ^ (23 + bits) ≤ units * 2 ^ bits := by
      rw [pow_add]
      exact Nat.mul_le_mul_right _ large.le
    have below := (Nat.le_log2 some).mpr least
    omega

theorem Regular.ne_power (regular : Regular units bits) :
    ¬ (units * 2 ^ bits = 2 ^ (23 + bits) ∧ 0 < bits) := by
  rintro ⟨power, some⟩
  rw [pow_add] at power
  have same := Nat.eq_of_mul_eq_mul_right (Nat.two_pow_pos bits) power
  rcases regular.normal with none | large <;> omega

theorem Decimal.value_eq (decimal : Decimal) :
    decimal.value =
      decimal.digits * 10 ^ decimal.power.toNat / 10 ^ (-decimal.power).toNat := by
  rw [Decimal.value, ten_zpow, mul_div_assoc]

/-- A decimal number reads back just when it rounds to the units. -/
theorem readsBack_iff (regular : Regular units bits) {decimal : Decimal} :
    decimal.readsBack (units * 2 ^ bits) = true ↔ RoundsTo units bits decimal.value := by
  have dropped : (units * 2 ^ bits).log2 + 1 - single.precision = bits := regular.dropped
  have power : ¬ (units * 2 ^ bits = 2 ^ (single.precision - 1 + bits) ∧ 0 < bits) :=
    regular.ne_power
  have whole : units * 2 ^ bits / 2 ^ bits = units := Nat.mul_div_cancel _ (Nat.two_pow_pos bits)
  have denominator : (0 : ℚ) < 10 ^ (-decimal.power).toNat := by positivity
  have scaled : decimal.value * 2 ^ 150 * 10 ^ (-decimal.power).toNat * 2 =
      (4 * decimal.digits * 10 ^ decimal.power.toNat * 2 ^ 149 : Nat) := by
    rw [decimal.value_eq]
    push_cast
    field_simp
    ring
  have lowEq : ((4 * (units * 2 ^ bits) - 2 * 2 ^ bits : Nat) : ℚ) =
      2 * ((2 * units - 1 : ℚ) * 2 ^ bits) := by
    have least := Nat.mul_le_mul_right (2 ^ bits) regular.positive
    rw [Nat.cast_sub (by omega)]
    push_cast
    ring
  have highEq : ((4 * (units * 2 ^ bits) + 2 * 2 ^ bits : Nat) : ℚ) =
      2 * ((2 * units + 1 : ℚ) * 2 ^ bits) := by
    push_cast
    ring
  have unit : single.unit = 149 := rfl
  unfold Decimal.readsBack
  simp only [Nat.pow_eq, dropped, if_neg power, whole, unit]
  generalize 4 * decimal.digits * 10 ^ decimal.power.toNat * 2 ^ 149 = numerator at *
  generalize 4 * (units * 2 ^ bits) - 2 * 2 ^ bits = low at *
  generalize 4 * (units * 2 ^ bits) + 2 * 2 ^ bits = high at *
  have compare : ∀ {bound : Nat} {middle : ℚ}, (bound : ℚ) = 2 * middle →
      ((bound * 10 ^ (-decimal.power).toNat ≤ numerator ↔ middle ≤ decimal.value * 2 ^ 150) ∧
        (numerator ≤ bound * 10 ^ (-decimal.power).toNat ↔ decimal.value * 2 ^ 150 ≤ middle)) := by
    intro bound middle same
    rw [← Nat.cast_le (α := ℚ), ← Nat.cast_le (α := ℚ), ← scaled, Nat.cast_mul, same]
    push_cast
    generalize (10 : ℚ) ^ (-decimal.power).toNat = factor at *
    constructor
    · constructor
      · intro least
        by_contra above
        nlinarith
      · intro least
        nlinarith
    · constructor
      · intro most
        by_contra below
        nlinarith
      · intro most
        nlinarith
  obtain ⟨lowLe, lowGe⟩ := compare lowEq
  obtain ⟨highGe, highLe⟩ := compare highEq
  split
  · next even =>
    rw [Bool.and_eq_true, decide_eq_true_eq, decide_eq_true_eq, lowLe, highLe]
    exact ⟨fun ⟨above, below⟩ => ⟨above, below, fun _ => even⟩,
      fun rounds => ⟨rounds.low, rounds.high⟩⟩
  · next odd =>
    rw [Bool.and_eq_true, decide_eq_true_eq, decide_eq_true_eq, ← not_le, ← not_le, lowGe, highGe,
      not_le, not_le]
    constructor
    · rintro ⟨above, below⟩
      refine ⟨above.le, below.le, ?_⟩
      rintro (same | same)
      · exact absurd same above.ne'
      · exact absurd same below.ne
    · intro rounds
      exact ⟨rounds.low.lt_of_ne (fun same => odd (rounds.tie (Or.inl same.symm))),
        rounds.high.lt_of_ne (fun same => odd (rounds.tie (Or.inr same)))⟩

/-! ### One grid -/

/-- The last point of a grid that is not above the units. -/
def gridPoint (units : Nat) (power : Int) : Nat :=
  units * 10 ^ (-power).toNat / (2 ^ 149 * 10 ^ power.toNat)

theorem grid_scaled (units : Nat) (power : Int) :
    (units : ℚ) / (10 ^ power * 2 ^ 149) =
      ((units * 10 ^ (-power).toNat : Nat) : ℚ) / (2 ^ 149 * 10 ^ power.toNat : Nat) := by
  rw [ten_zpow]
  push_cast
  field_simp
  norm_num

theorem gridPoint_le (units : Nat) (power : Int) :
    gridPoint units power * (10 ^ power * 2 ^ 149) ≤ (units : ℚ) := by
  have step : (0 : ℚ) < 10 ^ power * 2 ^ 149 := by positivity
  have divisor : 0 < 2 ^ 149 * 10 ^ power.toNat := by positivity
  have least : gridPoint units power * (2 ^ 149 * 10 ^ power.toNat) ≤
      units * 10 ^ (-power).toNat :=
    Nat.div_mul_le_self _ _
  have total : (gridPoint units power : ℚ) ≤ ((units * 10 ^ (-power).toNat : Nat) : ℚ) /
      (2 ^ 149 * 10 ^ power.toNat : Nat) := by
    rw [le_div_iff₀ (by exact_mod_cast divisor)]
    exact_mod_cast least
  rwa [← grid_scaled, le_div_iff₀ step] at total

theorem lt_gridPoint_succ (units : Nat) (power : Int) :
    (units : ℚ) < (gridPoint units power + 1) * (10 ^ power * 2 ^ 149) := by
  have step : (0 : ℚ) < 10 ^ power * 2 ^ 149 := by positivity
  have divisor : 0 < 2 ^ 149 * 10 ^ power.toNat := by positivity
  have most : units * 10 ^ (-power).toNat <
      (gridPoint units power + 1) * (2 ^ 149 * 10 ^ power.toNat) :=
    Nat.lt_mul_of_div_lt (Nat.lt_succ_self _) divisor
  have total : ((units * 10 ^ (-power).toNat : Nat) : ℚ) /
      (2 ^ 149 * 10 ^ power.toNat : Nat) < gridPoint units power + 1 := by
    rw [div_lt_iff₀ (by exact_mod_cast divisor)]
    exact_mod_cast most
  rwa [← grid_scaled, div_lt_iff₀ step] at total

/-- Whether units are nearer to a point of a grid than to the next one can be seen in whole
numbers. -/
theorem half_scaled (units odd : Nat) (power : Int) :
    (2 * (units * 10 ^ (-power).toNat) ≤ odd * (2 ^ 149 * 10 ^ power.toNat) ↔
      2 * (units : ℚ) ≤ odd * (10 ^ power * 2 ^ 149)) ∧
    (odd * (2 ^ 149 * 10 ^ power.toNat) ≤ 2 * (units * 10 ^ (-power).toNat) ↔
      odd * (10 ^ power * 2 ^ 149) ≤ 2 * (units : ℚ)) := by
  have step : (0 : ℚ) < 10 ^ power * 2 ^ 149 := by positivity
  have divisor : (0 : ℚ) < (2 ^ 149 * 10 ^ power.toNat : Nat) := by positivity
  have cross := grid_scaled units power
  rw [div_eq_div_iff step.ne' divisor.ne'] at cross
  have ratio : (2 * (units * 10 ^ (-power).toNat) : Nat) * (10 ^ power * 2 ^ 149 : ℚ) =
      2 * units * (2 ^ 149 * 10 ^ power.toNat : Nat) := by
    rw [Nat.cast_mul 2]
    push_cast at *
    linarith
  rw [← Nat.cast_le (α := ℚ), ← Nat.cast_le (α := ℚ), Nat.cast_mul odd]
  generalize ((2 ^ 149 * 10 ^ power.toNat : Nat) : ℚ) = whole at *
  generalize (10 : ℚ) ^ power * 2 ^ 149 = spacing at *
  generalize ((2 * (units * 10 ^ (-power).toNat) : Nat) : ℚ) = twice at *
  constructor <;> constructor <;> intro least
  · refine le_of_mul_le_mul_right ?_ divisor
    have scaled := mul_le_mul_of_nonneg_right least step.le
    linarith
  · refine le_of_mul_le_mul_right ?_ step
    have scaled := mul_le_mul_of_nonneg_right least divisor.le
    linarith
  · refine le_of_mul_le_mul_right ?_ divisor
    have scaled := mul_le_mul_of_nonneg_right least step.le
    linarith
  · refine le_of_mul_le_mul_right ?_ step
    have scaled := mul_le_mul_of_nonneg_right least divisor.le
    linarith

/-- The two points of a grid around the units, as far as they read back, and the nearer of them if
both do. -/
inductive Chosen (units : Nat) (power : Int) : Decimal → Prop
  | lower (reads : (⟨gridPoint units power, power⟩ : Decimal).readsBack units = true)
      (nearer : (⟨gridPoint units power + 1, power⟩ : Decimal).readsBack units = false ∨
        2 * (units : ℚ) ≤ (2 * gridPoint units power + 1) * (10 ^ power * 2 ^ 149)) :
      Chosen units power ⟨gridPoint units power, power⟩
  | upper (reads : (⟨gridPoint units power + 1, power⟩ : Decimal).readsBack units = true)
      (nearer : (⟨gridPoint units power, power⟩ : Decimal).readsBack units = false ∨
        (2 * gridPoint units power + 1) * (10 ^ power * 2 ^ 149) ≤ 2 * (units : ℚ)) :
      Chosen units power ⟨gridPoint units power + 1, power⟩

theorem onGrid?_eq (units : Nat) (power : Int) :
    onGrid? units power =
      match (⟨gridPoint units power, power⟩ : Decimal).readsBack units,
        (⟨gridPoint units power + 1, power⟩ : Decimal).readsBack units with
      | false, false => none
      | true, false => some ⟨gridPoint units power, power⟩
      | false, true => some ⟨gridPoint units power + 1, power⟩
      | true, true =>
          if roundQuotient (units * 10 ^ (-power).toNat) (2 ^ 149 * 10 ^ power.toNat) =
              gridPoint units power then some ⟨gridPoint units power, power⟩
          else some ⟨gridPoint units power + 1, power⟩ :=
  rfl

theorem chosen_of_onGrid? {power : Int} {decimal : Decimal} {units : Nat}
    (found : onGrid? units power = some decimal) : Chosen units power decimal := by
  have divisor : 0 < 2 ^ 149 * 10 ^ power.toNat := by positivity
  rw [onGrid?_eq] at found
  split at found
  · cases found
  · next reads alone =>
    cases found
    exact .lower reads (Or.inl alone)
  · next alone reads =>
    cases found
    exact .upper reads (Or.inl alone)
  · next lower upper =>
    split at found
    · next same =>
      cases found
      refine .lower lower (Or.inr ?_)
      have nearer := (@roundQuotient_near (units * 10 ^ (-power).toNat) _ divisor).2
      rw [same] at nearer
      exact_mod_cast (half_scaled units _ power).1.mp nearer
    · next other =>
      cases found
      refine .upper upper (Or.inr (le_of_not_gt (fun nearer => other ?_)))
      have down : gridPoint units power * (2 ^ 149 * 10 ^ power.toNat) ≤
          units * 10 ^ (-power).toNat :=
        Nat.div_mul_le_self _ _
      obtain ⟨under, beyond⟩ := half_scaled units (2 * gridPoint units power + 1) power
      push_cast at under beyond
      apply roundQuotient_eq divisor
      · linarith
      · exact under.mpr nearer.le
      · rintro (same | same)
        · linarith
        · exact absurd (beyond.mp same.ge) (not_le_of_gt nearer)

theorem value_point (point : Nat) (power : Int) :
    (⟨point, power⟩ : Decimal).value * 2 ^ 150 = 2 * (point * (10 ^ power * 2 ^ 149)) := by
  unfold Decimal.value
  ring

theorem upper_beyond (regular : Regular units bits) {power : Int}
    (unread : (⟨gridPoint (units * 2 ^ bits) power + 1, power⟩ : Decimal).readsBack
      (units * 2 ^ bits) = false) :
    (2 * units + 1 : ℚ) * 2 ^ bits ≤
      2 * ((gridPoint (units * 2 ^ bits) power + 1) * (10 ^ power * 2 ^ 149)) := by
  rw [Bool.eq_false_iff, Ne, readsBack_iff regular] at unread
  by_contra inside
  have above := lt_gridPoint_succ (units * 2 ^ bits) power
  have bit : (0 : ℚ) < 2 ^ bits := by positivity
  push_cast at above
  refine unread (roundsTo_of_lt ?_ ?_)
  · rw [value_point]
    push_cast
    linarith
  · rw [value_point]
    push_cast
    linarith

theorem lower_beyond (regular : Regular units bits) {power : Int}
    (unread : (⟨gridPoint (units * 2 ^ bits) power, power⟩ : Decimal).readsBack
      (units * 2 ^ bits) = false) :
    2 * (gridPoint (units * 2 ^ bits) power * (10 ^ power * 2 ^ 149)) ≤
      (2 * units - 1 : ℚ) * 2 ^ bits := by
  rw [Bool.eq_false_iff, Ne, readsBack_iff regular] at unread
  by_contra inside
  have below := gridPoint_le (units * 2 ^ bits) power
  have bit : (0 : ℚ) < 2 ^ bits := by positivity
  push_cast at below
  refine unread (roundsTo_of_lt ?_ ?_)
  · rw [value_point]
    linarith
  · rw [value_point]
    linarith

/-- On a grid that is finer than the spacing of the numbers a point reads back. -/
theorem onGrid?_isSome (regular : Regular units bits) {power : Int}
    (fine : (10 : ℚ) ^ power * 2 ^ 149 < 2 ^ bits) :
    (onGrid? (units * 2 ^ bits) power).isSome = true := by
  rw [onGrid?_eq]
  split
  · next lower upper =>
    have below := lower_beyond regular lower
    have above := upper_beyond regular upper
    linarith
  · rfl
  · rfl
  · split <;> rfl

/-- On a grid that is finer than the spacing of the numbers, the point that is chosen is well inside
of what reads back. -/
theorem Chosen.inside (regular : Regular units bits) {power : Int} {decimal : Decimal}
    (chosen : Chosen (units * 2 ^ bits) power decimal)
    (fine : (10 : ℚ) ^ power * 2 ^ 149 * 2 ^ 20 ≤ (2 ^ 20 - 1) * 2 ^ bits) :
    (2 * units - 1 : ℚ) * 2 ^ bits + 2 ^ bits / 2 ^ 20 ≤ decimal.value * 2 ^ 150 ∧
      decimal.value * 2 ^ 150 ≤ (2 * units + 1 : ℚ) * 2 ^ bits - 2 ^ bits / 2 ^ 20 := by
  have below := gridPoint_le (units * 2 ^ bits) power
  have above := lt_gridPoint_succ (units * 2 ^ bits) power
  have bit : (0 : ℚ) < 2 ^ bits := by positivity
  push_cast at below above
  cases chosen with
  | lower reads nearer =>
      rw [value_point]
      rcases nearer with unread | nearer
      · have beyond := upper_beyond regular unread
        constructor <;> linarith
      · push_cast at nearer
        constructor <;> linarith
  | upper reads nearer =>
      rw [value_point]
      push_cast
      rcases nearer with unread | nearer
      · have beyond := lower_beyond regular unread
        constructor <;> linarith
      · push_cast at nearer
        constructor <;> linarith

/-! ### The search -/

/-- A search that reaches a grid with a point finds one on the first such grid. -/
theorem searchGrids_spec {units steps : Nat} {start finest : Int} (reaches : finest ≤ start)
    (ends : start - steps < finest) (some : (onGrid? units finest).isSome = true) :
    ∃ power, finest ≤ power ∧ power ≤ start ∧
      onGrid? units power = Option.some (searchGrids units start steps) ∧
      (power = start ∨ onGrid? units (power + 1) = none) := by
  induction steps generalizing start with
  | zero => omega
  | succ steps ih =>
      rw [searchGrids]
      cases found : onGrid? units start with
      | some decimal => exact ⟨start, reaches, le_rfl, found, Or.inl rfl⟩
      | none =>
          have further : finest ≠ start := by
            rintro rfl
            rw [found] at some
            cases some
          obtain ⟨power, low, high, here, coarser⟩ :=
            @ih (start - 1) (by omega) (by omega)
          refine ⟨power, low, by omega, here, Or.inr ?_⟩
          rcases coarser with rfl | nothing
          · rw [sub_add_cancel]
            exact found
          · exact nothing

structure Written (units bits : Nat) (decimal : Decimal) : Prop where
  chosen : Chosen (units * 2 ^ bits) decimal.power decimal
  rounds : RoundsTo units bits decimal.value
  few : decimal.digits < 2 ^ 28
  least : -45 ≤ decimal.power
  most : decimal.power ≤ 39

theorem written_shortest (regular : Regular units bits) (range : bits < 254) :
    Written units bits (shortest (units * 2 ^ bits)) := by
  have bit : (1 : ℚ) ≤ 2 ^ bits := one_le_pow₀ (by norm_num)
  have finest : (10 : ℚ) ^ (-45 : Int) * 2 ^ 149 < 2 ^ bits := by
    refine lt_of_lt_of_le ?_ bit
    norm_num
  obtain ⟨power, least, most, found, coarser⟩ :=
    @searchGrids_spec (units * 2 ^ bits) 100 39 (-45) (by norm_num) (by norm_num)
      (onGrid?_isSome regular finest)
  change onGrid? _ power = some (shortest (units * 2 ^ bits)) at found
  have chosen := chosen_of_onGrid? found
  generalize shortest (units * 2 ^ bits) = decimal at *
  have same : decimal.power = power := by
    cases chosen <;> rfl
  have rounds : RoundsTo units bits decimal.value := by
    rw [← readsBack_iff regular]
    cases chosen with
    | lower reads nearer => exact reads
    | upper reads nearer => exact reads
  have coarse : (2 : ℚ) ^ bits ≤ 10 ^ (power + 1) * 2 ^ 149 := by
    by_contra fine
    rcases coarser with rfl | nothing
    · have large : (2 : ℚ) ^ bits ≤ 2 ^ 254 := pow_le_pow_right₀ (by norm_num) range.le
      have enough : (2 : ℚ) ^ 254 ≤ 10 ^ (39 + 1 : Int) * 2 ^ 149 := by norm_num
      linarith
    · have some := onGrid?_isSome regular (lt_of_not_ge fine)
      rw [nothing] at some
      cases some
  have few : decimal.digits < 2 ^ 28 := by
    have high := rounds.high
    have point : decimal.value * 2 ^ 150 = 2 * (decimal.digits * (10 ^ power * 2 ^ 149)) := by
      rw [← same]
      exact value_point decimal.digits decimal.power
    rw [point] at high
    have fits : (units : ℚ) ≤ 2 ^ 24 := by exact_mod_cast regular.fits.le
    rw [zpow_add₀ (by norm_num)] at coarse
    have step : (0 : ℚ) < 10 ^ power * 2 ^ 149 := by positivity
    have wide := mul_le_mul_of_nonneg_left coarse (by positivity : (0 : ℚ) ≤ 2 * units + 1)
    have counted : (2 * decimal.digits : ℚ) ≤ (2 * units + 1) * 10 := by
      refine le_of_mul_le_mul_right ?_ step
      linarith
    have bound : (decimal.digits : ℚ) < 2 ^ 28 := by linarith
    exact_mod_cast bound
  rw [← same] at chosen least most
  exact ⟨chosen, rounds, few, least, most⟩

end CheckBinding.Number
