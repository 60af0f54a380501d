/-!
Binary floating point numbers of single precision.

A finite number is a whole multiple of the smallest positive one, so a sign and a count say it
exactly. `Format.round` counts the units of the nearest number of a format, a tie going to the
even neighbour; what it counts has no more bits than the format keeps.
-/

namespace CheckBinding.Number

/-- A binary format: how many significant bits it keeps, the exponent of its smallest positive
number `2 ^ -unit`, and the number of units at which its range ends. -/
structure Format where
  precision : Nat
  unit : Nat
  limit : Nat

def single : Format :=
  ⟨24, 149, Nat.pow 2 277⟩

def double : Format :=
  ⟨53, 1074, Nat.pow 2 2098⟩

/-- A quotient rounded to the nearest whole number, a tie to the even one. -/
def roundQuotient (numerator denominator : Nat) : Nat :=
  let quotient := numerator / denominator
  let remainder := numerator % denominator
  if 2 * remainder < denominator then quotient
  else if denominator < 2 * remainder then quotient + 1
  else if quotient % 2 = 0 then quotient
  else quotient + 1

/-- The units of the number nearest to a quotient, before the range is looked at. -/
def Format.round (format : Format) (numerator denominator : Nat) : Nat :=
  let scaled := numerator * Nat.pow 2 format.unit
  let whole := scaled / denominator
  let dropped := whole.log2 + 1 - format.precision
  roundQuotient scaled (denominator * Nat.pow 2 dropped) * Nat.pow 2 dropped

/-- The units of the numbers of a format: no more significant bits than are kept, in its range. -/
def Format.Holds (format : Format) (units : Nat) : Prop :=
  Nat.pow 2 (units.log2 + 1 - format.precision) ∣ units ∧ units < format.limit

instance (format : Format) (units : Nat) : Decidable (format.Holds units) :=
  inferInstanceAs (Decidable (_ ∧ _))

/-! ### Rounding keeps few bits -/

theorem roundQuotient_le (numerator denominator : Nat) :
    roundQuotient numerator denominator ≤ numerator / denominator + 1 := by
  unfold roundQuotient
  dsimp only
  split
  · omega
  · split
    · omega
    · split <;> omega

theorem pow_mul_pow (left right : Nat) :
    Nat.pow 2 left * Nat.pow 2 right = Nat.pow 2 (left + right) :=
  (Nat.pow_add 2 left right).symm

/-- A count of no more bits than are kept keeps its bits at any place. -/
theorem few_bits {count : Nat} (few : count ≤ Nat.pow 2 single.precision) (dropped : Nat) :
    Nat.pow 2 ((count * Nat.pow 2 dropped).log2 + 1 - single.precision) ∣
      count * Nat.pow 2 dropped := by
  have precision : single.precision = 24 := rfl
  rw [precision] at few ⊢
  rcases Nat.eq_or_lt_of_le few with rfl | less
  · have log : (Nat.pow 2 (24 + dropped)).log2 = 24 + dropped := Nat.log2_two_pow
    rw [pow_mul_pow, log]
    exact Nat.pow_dvd_pow 2 (by omega)
  · rcases Nat.eq_zero_or_pos (count * Nat.pow 2 dropped) with none | some
    · rw [none]
      exact Nat.dvd_zero _
    · have bound : count * Nat.pow 2 dropped < Nat.pow 2 24 * Nat.pow 2 dropped :=
        Nat.mul_lt_mul_of_pos_right less (Nat.two_pow_pos dropped)
      rw [pow_mul_pow] at bound
      have small : (count * Nat.pow 2 dropped).log2 < 24 + dropped :=
        (Nat.log2_lt (Nat.ne_of_gt some)).mpr bound
      exact Nat.dvd_trans (Nat.pow_dvd_pow 2 (by omega)) (Nat.dvd_mul_left _ count)

theorem holds_round {numerator denominator : Nat}
    (inRange : single.round numerator denominator < single.limit) :
    single.Holds (single.round numerator denominator) := by
  refine ⟨few_bits ?_ _, inRange⟩
  -- The quotient that is rounded has a bit less than the bound allows.
  generalize numerator * Nat.pow 2 single.unit = scaled
  refine Nat.le_trans (roundQuotient_le _ _) (Nat.succ_le_of_lt ?_)
  rw [← Nat.div_div_eq_div_mul]
  refine Nat.div_lt_of_lt_mul (Nat.lt_of_lt_of_le Nat.lt_log2_self ?_)
  rw [pow_mul_pow]
  exact Nat.pow_le_pow_right (by decide) (by omega)

/-! ### Numbers -/

inductive Binary32 where
  | finite (negative : Bool) (units : Nat) (holds : single.Holds units)
  | infinite (negative : Bool)
deriving DecidableEq

namespace Binary32

/-- The number nearest to a quotient; beyond the range of the format it is infinite. -/
def ofQuotient (negative : Bool) (numerator denominator : Nat) : Binary32 :=
  if inRange : single.round numerator denominator < single.limit then
    .finite negative (single.round numerator denominator) (holds_round inRange)
  else .infinite negative

def ofNat (value : Nat) : Binary32 :=
  ofQuotient false value 1

def isFinite : Binary32 → Bool
  | .finite _ _ _ => true
  | .infinite _ => false

instance : OfNat Binary32 0 := ⟨.finite false 0 (by decide +kernel)⟩

end Binary32
end CheckBinding.Number
