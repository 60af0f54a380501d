import CheckBinding.Text.Pieces

/-!
The decimal digits of a number.
-/

namespace CheckBinding.Text

theorem isDigit_of_mem_toDigits {number : Nat} {digit : Char}
    (member : digit ∈ Nat.toDigits 10 number) : isDigit digit = true := by
  have known := Nat.isDigit_of_mem_toDigits (by decide) (by decide) member
  rw [Char.isDigit, Bool.and_eq_true, decide_eq_true_eq, decide_eq_true_eq] at known
  rw [isDigit, Bool.and_eq_true, decide_eq_true_eq, decide_eq_true_eq]
  exact known

theorem natOfDigits_eq (digits : List Char) :
    natOfDigits digits = Nat.ofDigitChars 10 digits 0 := by
  rw [natOfDigits, Nat.ofDigitChars_eq_foldl]
  simp only [digitValue, Nat.mul_comm]

/-- The digits of a number spell it. -/
theorem natOfDigits_toDigits (number : Nat) : natOfDigits (Nat.toDigits 10 number) = number := by
  rw [natOfDigits_eq]
  exact Nat.ofDigitChars_ten_toDigits

/-- Only zero begins with a zero. -/
theorem head?_toDigits {number : Nat} (positive : 0 < number) :
    (Nat.toDigits 10 number).head? ≠ some '0' := by
  induction number using Nat.strongRecOn with
  | ind number ih =>
      by_cases single : number < 10
      · rw [Nat.toDigits_of_lt_base single]
        intro zero
        have same : Nat.digitChar number = '0' := Option.some.inj zero
        have nonzero : ∀ digit, digit < 10 → Nat.digitChar digit = '0' → digit = 0 := by decide
        have none := nonzero number single same
        omega
      · have long : 10 ≤ number := Nat.le_of_not_lt single
        have front := ih (number / 10) (by omega) (by omega)
        rw [Nat.toDigits_of_base_le (by decide) long]
        cases digits : Nat.toDigits 10 (number / 10) with
        | nil => exact absurd digits Nat.toDigits_ne_nil
        | cons head rest =>
            rw [digits] at front
            exact front

end CheckBinding.Text
