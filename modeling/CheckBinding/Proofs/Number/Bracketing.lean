import CheckBinding.Number.Binary
import Mathlib.Tactic.Linarith
import Mathlib.Tactic.LinearCombination
import Mathlib.Tactic.Ring
import Mathlib.Tactic.Zify

/-!
Multiples of a power of ten, and the middles between numbers of single precision.

Take the multiples of a ratio, and the whole numbers. How close the two come can be read off two
neighbouring fractions, one on each side of the ratio: below the sum of their denominators only the
multiples of the two fractions come closer than the fractions together. For each exponent of single
precision such fractions are computed and checked, and there is one multiple that comes too close.
-/

namespace CheckBinding.Number

structure Bracket where
  lowNumerator : Nat
  lowDenominator : Nat
  highNumerator : Nat
  highDenominator : Nat

namespace Bracket

/-! ### Neighbouring fractions -/

structure Encloses (bracket : Bracket) (numerator denominator : Nat) : Prop where
  neighbours : bracket.highNumerator * bracket.lowDenominator =
    bracket.lowNumerator * bracket.highDenominator + 1
  lowPositive : 0 < bracket.lowDenominator
  highPositive : 0 < bracket.highDenominator
  low : bracket.lowNumerator * denominator ≤ bracket.lowDenominator * numerator
  high : bracket.highDenominator * numerator < bracket.highNumerator * denominator

variable {bracket : Bracket} {numerator denominator : Nat}

def lowGap (bracket : Bracket) (numerator denominator : Nat) : Nat :=
  bracket.lowDenominator * numerator - bracket.lowNumerator * denominator

def highGap (bracket : Bracket) (numerator denominator : Nat) : Nat :=
  bracket.highNumerator * denominator - bracket.highDenominator * numerator

/-- A pair of numbers is made of the two fractions, and what one side of the ratio exceeds the other
by is made of their gaps in the same way. -/
theorem Encloses.exists_parts (encloses : bracket.Encloses numerator denominator)
    (multiple whole : Nat) :
    ∃ low high : Int,
      (whole : Int) = low * bracket.lowNumerator + high * bracket.highNumerator ∧
      (multiple : Int) = low * bracket.lowDenominator + high * bracket.highDenominator ∧
      (whole : Int) * denominator - multiple * numerator =
        high * bracket.highGap numerator denominator -
          low * bracket.lowGap numerator denominator := by
  -- The determinant of the two fractions is one, so the parts are whole numbers.
  have neighbours : (bracket.highNumerator : Int) * bracket.lowDenominator =
      bracket.lowNumerator * bracket.highDenominator + 1 := by
    exact_mod_cast encloses.neighbours
  refine ⟨bracket.highNumerator * multiple - bracket.highDenominator * whole,
    bracket.lowDenominator * whole - bracket.lowNumerator * multiple, ?_, ?_, ?_⟩
  · linear_combination -(whole : Int) * neighbours
  · linear_combination -(multiple : Int) * neighbours
  · unfold highGap lowGap
    rw [Int.ofNat_sub encloses.high.le, Int.ofNat_sub encloses.low]
    push_cast
    linear_combination
      ((multiple : Int) * numerator - (whole : Int) * denominator) * neighbours

theorem Encloses.highGap_pos (encloses : bracket.Encloses numerator denominator) :
    0 < bracket.highGap numerator denominator :=
  Nat.sub_pos_of_lt encloses.high

/-- A small sum of two parts, of which one gets further than the other: it is the only one that
counts. -/
theorem part_ahead {ahead behind aheadSize behindSize aheadGap behindGap : Int}
    (aheadSized : 0 < aheadSize) (behindSized : 0 < behindSize) (aheadGapped : 0 ≤ aheadGap)
    (behindGapped : 0 ≤ behindGap) (positive : 0 < ahead * aheadSize + behind * behindSize)
    (small : ahead * aheadSize + behind * behindSize < aheadSize + behindSize)
    (further : behind * behindGap < ahead * aheadGap) : 0 < ahead ∧ behind ≤ 0 := by
  have none : behind ≤ 0 := by
    by_contra some
    have up : 0 < ahead := by
      by_contra down
      nlinarith
    nlinarith
  refine ⟨?_, none⟩
  by_contra down
  nlinarith

/-- A multiple below a whole number is one of the second fraction, or both gaps below it. -/
theorem Encloses.below (encloses : bracket.Encloses numerator denominator) {multiple whole : Nat}
    (positive : 0 < multiple)
    (small : multiple < bracket.lowDenominator + bracket.highDenominator)
    (below : multiple * numerator < whole * denominator) :
    (∃ times, whole = times * bracket.highNumerator ∧
        multiple = times * bracket.highDenominator) ∨
      multiple * numerator + bracket.lowGap numerator denominator +
        bracket.highGap numerator denominator ≤ whole * denominator := by
  obtain ⟨low, high, wholeEq, multipleEq, difference⟩ := encloses.exists_parts multiple whole
  have lowSized := encloses.lowPositive
  have highSized := encloses.highPositive
  have highGapped := encloses.highGap_pos
  zify at positive small below lowSized highSized highGapped
  have lowGapped : (0 : Int) ≤ bracket.lowGap numerator denominator := Int.natCast_nonneg _
  obtain ⟨up, down⟩ : 0 < high ∧ low ≤ 0 :=
    part_ahead highSized lowSized highGapped.le lowGapped (by linarith) (by linarith) (by linarith)
  rcases Int.lt_or_eq_of_le down with negative | rfl
  · right
    zify
    nlinarith
  · left
    refine ⟨high.toNat, ?_, ?_⟩
    · zify
      rw [Int.toNat_of_nonneg up.le]
      linarith
    · zify
      rw [Int.toNat_of_nonneg up.le]
      linarith

theorem Encloses.above (encloses : bracket.Encloses numerator denominator) {multiple whole : Nat}
    (positive : 0 < multiple)
    (small : multiple < bracket.lowDenominator + bracket.highDenominator)
    (above : whole * denominator < multiple * numerator) :
    (∃ times, whole = times * bracket.lowNumerator ∧
        multiple = times * bracket.lowDenominator) ∨
      whole * denominator + bracket.lowGap numerator denominator +
        bracket.highGap numerator denominator ≤ multiple * numerator := by
  obtain ⟨low, high, wholeEq, multipleEq, difference⟩ := encloses.exists_parts multiple whole
  have lowSized := encloses.lowPositive
  have highSized := encloses.highPositive
  have highGapped := encloses.highGap_pos
  zify at positive small above lowSized highSized highGapped
  have lowGapped : (0 : Int) ≤ bracket.lowGap numerator denominator := Int.natCast_nonneg _
  obtain ⟨up, down⟩ : 0 < low ∧ high ≤ 0 :=
    part_ahead lowSized highSized lowGapped highGapped.le (by linarith) (by linarith) (by linarith)
  rcases Int.lt_or_eq_of_le down with negative | rfl
  · right
    zify
    nlinarith
  · left
    refine ⟨low.toNat, ?_, ?_⟩
    · zify
      rw [Int.toNat_of_nonneg up.le]
      linarith
    · zify
      rw [Int.toNat_of_nonneg up.le]
      linarith

/-! ### Wide brackets -/

def tolerance : Nat := 2 ^ 52 - 2 ^ 48

def wholeLimit : Nat := 2 ^ 25

/-- The gaps of a bracket are wide against every whole number in question. -/
structure Guards (bracket : Bracket) (numerator denominator : Nat) : Prop
    extends bracket.Encloses numerator denominator where
  covers : wholeLimit * denominator ≤
    (bracket.lowDenominator + bracket.highDenominator) * numerator
  both : wholeLimit * denominator < (bracket.lowGap numerator denominator +
    bracket.highGap numerator denominator) * tolerance
  lowWide : bracket.lowGap numerator denominator = 0 ∨
    bracket.lowNumerator * denominator < bracket.lowGap numerator denominator * tolerance

theorem Guards.small (guards : bracket.Guards numerator denominator) {multiple : Nat}
    (below : multiple * numerator < wholeLimit * denominator) :
    multiple < bracket.lowDenominator + bracket.highDenominator :=
  Nat.lt_of_mul_lt_mul_right (below.trans_le guards.covers)

theorem Guards.below (guards : bracket.Guards numerator denominator) {multiple whole : Nat}
    (positive : 0 < multiple) (limit : whole < wholeLimit)
    (below : multiple * numerator < whole * denominator) :
    (∃ times, whole = times * bracket.highNumerator ∧
        multiple = times * bracket.highDenominator) ∨
      multiple * numerator * tolerance + whole * denominator <
        whole * denominator * tolerance := by
  have limited : whole * denominator ≤ wholeLimit * denominator :=
    Nat.mul_le_mul_right denominator limit.le
  have small := guards.small (below.trans_le limited)
  refine (guards.toEncloses.below positive small below).imp id (fun apart => ?_)
  have scaled := Nat.mul_le_mul_right tolerance apart
  have both := guards.both
  linarith

theorem Guards.above (guards : bracket.Guards numerator denominator) {multiple whole : Nat}
    (positive : 0 < multiple) (limit : multiple * numerator < wholeLimit * denominator)
    (above : whole * denominator < multiple * numerator) :
    whole * denominator * tolerance + whole * denominator <
      multiple * numerator * tolerance := by
  have limited := above.trans limit
  rcases guards.toEncloses.above positive (guards.small limit) above with
    ⟨times, rfl, rfl⟩ | apart
  · have gap : bracket.lowNumerator * denominator + bracket.lowGap numerator denominator =
        bracket.lowDenominator * numerator :=
      Nat.add_sub_of_le guards.low
    have some : 0 < times := Nat.pos_of_mul_pos_right positive
    rcases guards.lowWide with none | wide
    · rw [none, Nat.add_zero] at gap
      rw [Nat.mul_assoc, Nat.mul_assoc, gap] at above
      exact absurd above (Nat.lt_irrefl _)
    · have scaled := Nat.mul_lt_mul_of_pos_left wide some
      have total := congrArg (fun sum => times * (sum * tolerance)) gap
      linarith
  · have scaled := Nat.mul_le_mul_right tolerance apart
    have both := guards.both
    linarith

instance (bracket : Bracket) (numerator denominator : Nat) :
    Decidable (bracket.Encloses numerator denominator) :=
  decidable_of_iff (bracket.highNumerator * bracket.lowDenominator =
      bracket.lowNumerator * bracket.highDenominator + 1 ∧
    0 < bracket.lowDenominator ∧ 0 < bracket.highDenominator ∧
    bracket.lowNumerator * denominator ≤ bracket.lowDenominator * numerator ∧
    bracket.highDenominator * numerator < bracket.highNumerator * denominator)
    ⟨fun ⟨neighbours, lowPositive, highPositive, low, high⟩ =>
        ⟨neighbours, lowPositive, highPositive, low, high⟩,
      fun ⟨neighbours, lowPositive, highPositive, low, high⟩ =>
        ⟨neighbours, lowPositive, highPositive, low, high⟩⟩

instance (bracket : Bracket) (numerator denominator : Nat) :
    Decidable (bracket.Guards numerator denominator) :=
  decidable_of_iff (bracket.Encloses numerator denominator ∧
    wholeLimit * denominator ≤
      (bracket.lowDenominator + bracket.highDenominator) * numerator ∧
    wholeLimit * denominator < (bracket.lowGap numerator denominator +
      bracket.highGap numerator denominator) * tolerance ∧
    (bracket.lowGap numerator denominator = 0 ∨
      bracket.lowNumerator * denominator < bracket.lowGap numerator denominator * tolerance))
    ⟨fun ⟨encloses, covers, both, lowWide⟩ => ⟨encloses, covers, both, lowWide⟩,
      fun guards => ⟨guards.toEncloses, guards.covers, guards.both, guards.lowWide⟩⟩

/-! ### Computing brackets -/

/-- Narrows a bracket until the sum of its denominators is beyond a limit: as many steps as there
are with the first fraction, else with the second. -/
def narrow (numerator denominator limit : Nat) : Nat → Bracket → Bracket
  | 0, bracket => bracket
  | fuel + 1, bracket =>
      if limit < bracket.lowDenominator + bracket.highDenominator then bracket
      else
        let lowGap := bracket.lowGap numerator denominator
        let highGap := bracket.highGap numerator denominator
        if highGap ≤ lowGap then
          let steps := min (lowGap / highGap)
            ((limit - bracket.lowDenominator) / bracket.highDenominator)
          narrow numerator denominator limit fuel { bracket with
            lowNumerator := bracket.lowNumerator + steps * bracket.highNumerator
            lowDenominator := bracket.lowDenominator + steps * bracket.highDenominator }
        else
          let room := (limit - bracket.highDenominator) / bracket.lowDenominator
          let steps := if lowGap = 0 then room + 1 else min ((highGap - 1) / lowGap) room
          narrow numerator denominator limit fuel { bracket with
            highNumerator := bracket.highNumerator + steps * bracket.lowNumerator
            highDenominator := bracket.highDenominator + steps * bracket.lowDenominator }

def around (numerator denominator : Nat) : Bracket :=
  let whole := numerator / denominator
  narrow numerator denominator (wholeLimit * denominator / numerator) 60 ⟨whole, 1, whole + 1, 1⟩

end Bracket

/-! ### The grids of single precision -/

/-- The power of ten that is about as large as the spacing of numbers with so many low bits. -/
def gridPower (bits : Nat) : Int :=
  -((149 - bits : Int) * 30103 / 100000)

def gridNumerator (bits : Nat) : Nat :=
  10 ^ (gridPower bits).toNat * 2 ^ 150

def gridDenominator (bits : Nat) : Nat :=
  10 ^ (-gridPower bits).toNat * 2 ^ bits

/-- The one middle that a decimal number comes too close to. -/
def hardMiddle : Nat := 22841339

def hardBits : Nat := 42

structure Surveyed (bits : Nat) : Prop where
  guards : (Bracket.around (gridNumerator bits) (gridDenominator bits)).Guards
    (gridNumerator bits) (gridDenominator bits)
  highWide : (bits = hardBits ∧
      (Bracket.around (gridNumerator bits) (gridDenominator bits)).highNumerator = hardMiddle) ∨
    (Bracket.around (gridNumerator bits) (gridDenominator bits)).highNumerator *
        gridDenominator bits <
      (Bracket.around (gridNumerator bits) (gridDenominator bits)).highGap
        (gridNumerator bits) (gridDenominator bits) * Bracket.tolerance
  fine : gridNumerator bits * 2 ^ 20 < 20 * (2 ^ 20 - 1) * gridDenominator bits

instance (bits : Nat) : Decidable (Surveyed bits) :=
  decidable_of_iff ((Bracket.around (gridNumerator bits) (gridDenominator bits)).Guards
      (gridNumerator bits) (gridDenominator bits) ∧
    ((bits = hardBits ∧
      (Bracket.around (gridNumerator bits) (gridDenominator bits)).highNumerator = hardMiddle) ∨
    (Bracket.around (gridNumerator bits) (gridDenominator bits)).highNumerator *
        gridDenominator bits <
      (Bracket.around (gridNumerator bits) (gridDenominator bits)).highGap
        (gridNumerator bits) (gridDenominator bits) * Bracket.tolerance) ∧
    gridNumerator bits * 2 ^ 20 < 20 * (2 ^ 20 - 1) * gridDenominator bits)
    ⟨fun ⟨guards, highWide, fine⟩ => ⟨guards, highWide, fine⟩,
      fun ⟨guards, highWide, fine⟩ => ⟨guards, highWide, fine⟩⟩

theorem surveyed : ∀ bits < 254, Surveyed bits := by
  decide +kernel

variable {bits multiple middle : Nat}

/-- A multiple of the power of ten below a middle is well below it, but for the hard middle. -/
theorem below_middle (range : bits < 254) (positive : 0 < multiple)
    (limit : middle < Bracket.wholeLimit)
    (below : multiple * gridNumerator bits < middle * gridDenominator bits) :
    multiple * gridNumerator bits * Bracket.tolerance + middle * gridDenominator bits <
        middle * gridDenominator bits * Bracket.tolerance ∨
      bits = hardBits ∧ middle = hardMiddle := by
  obtain ⟨guards, highWide, -⟩ := surveyed bits range
  rcases guards.below positive limit below with ⟨times, rfl, rfl⟩ | apart
  · have some : 0 < times := Nat.pos_of_mul_pos_right positive
    rcases highWide with ⟨hard, same⟩ | wide
    -- Twice the hard middle is beyond the whole numbers in question.
    · right
      rw [same] at limit ⊢
      have once : times = 1 := by
        simp only [hardMiddle, Bracket.wholeLimit] at limit
        omega
      exact ⟨hard, by rw [once, Nat.one_mul]⟩
    · left
      have gap := Nat.add_sub_of_le guards.toEncloses.high.le
      have total := congrArg (fun sum => times * (sum * Bracket.tolerance)) gap
      have scaled := Nat.mul_lt_mul_of_pos_left wide some
      unfold Bracket.highGap at scaled
      linarith
  · exact Or.inl apart

theorem above_middle (range : bits < 254) (positive : 0 < multiple)
    (limit : multiple * gridNumerator bits < Bracket.wholeLimit * gridDenominator bits)
    (above : middle * gridDenominator bits < multiple * gridNumerator bits) :
    middle * gridDenominator bits * Bracket.tolerance + middle * gridDenominator bits <
      multiple * gridNumerator bits * Bracket.tolerance :=
  (surveyed bits range).guards.above positive limit above

end CheckBinding.Number
