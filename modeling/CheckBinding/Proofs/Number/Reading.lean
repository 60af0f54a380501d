import CheckBinding.Proofs.Number.Scaling
import CheckBinding.Proofs.Number.Shortest
import CheckBinding.Proofs.Text.Digits

/-!
Numerals of decimal numbers.

However a decimal number is laid out, its digits are all taken up when it is read, and they stand at
the power of ten of the number, or at the first place after the point when a zero is put there.
-/

namespace CheckBinding

open Text

namespace Number

/-! ### Digits -/

theorem le_ofDigitChars (digits : List Char) (start : Nat) :
    start ≤ Nat.ofDigitChars 10 digits start := by
  rw [Nat.ofDigitChars_eq_ofDigitChars_zero]
  exact (Nat.le_mul_of_pos_left start (Nat.pow_pos (by decide))).trans (Nat.le_add_right _ _)

/-- Digits that 64 bits hold are all taken up. -/
theorem takeDigits_eq {digits : List Char} {start : Nat}
    (fits : Nat.ofDigitChars 10 digits start < 2 ^ 64) :
    takeDigits start digits = (Nat.ofDigitChars 10 digits start, 0) := by
  induction digits generalizing start with
  | nil => rfl
  | cons digit rest ih =>
      rw [Nat.ofDigitChars_cons, Nat.mul_comm] at fits ⊢
      have next := (le_ofDigitChars rest _).trans_lt fits
      rw [takeDigits]
      exact (if_pos next).trans (ih fits)

/-! ### Numerals -/

/-- All digits of a numeral, at the power of ten of the last one. -/
def spelled (numeral : Numeral) : Decimal :=
  ⟨natOfDigits (numeral.whole ++ numeral.fraction),
    writtenExponent numeral - numeral.fraction.length⟩

theorem doubleUnits?_eq {numeral : Numeral} (fits : (spelled numeral).digits < 2 ^ 64) :
    doubleUnits? numeral =
      if 0 ≤ (spelled numeral).power then
        multiplyByPower? (double.round (spelled numeral).digits 1) (spelled numeral).power.toNat
      else
        some (divideByPower (double.round (spelled numeral).digits 1)
          (spelled numeral).power.natAbs) := by
  unfold spelled at fits ⊢
  dsimp only at fits ⊢
  rw [natOfDigits_eq, Nat.ofDigitChars_append] at fits ⊢
  have whole := takeDigits_eq ((le_ofDigitChars _ _).trans_lt fits)
  have fraction := takeDigits_eq fits
  have power : ((0 : Nat) : Int) - ((numeral.fraction.length - 0 : Nat) : Int) +
      writtenExponent numeral = writtenExponent numeral - numeral.fraction.length := by
    omega
  unfold doubleUnits?
  rw [whole]
  dsimp only
  rw [fraction]
  dsimp only
  rw [power]

theorem exists_doubleUnits {numeral : Numeral} (positive : 0 < (spelled numeral).digits)
    (fits : (spelled numeral).digits < 2 ^ 53) (least : -60 ≤ (spelled numeral).power)
    (most : (spelled numeral).power ≤ 60) :
    ∃ units, doubleUnits? numeral = some units ∧ Approximates units (spelled numeral).value := by
  rw [doubleUnits?_eq (fits.trans (by decide))]
  generalize spelled numeral = decimal at *
  unfold Decimal.value
  split
  · next above =>
    obtain ⟨units, product, approximates⟩ :=
      @exists_multiplied _ decimal.power.toNat positive fits (by omega)
    refine ⟨units, product, ?_⟩
    rwa [← zpow_natCast, Int.toNat_of_nonneg above] at approximates
  · next below =>
    refine ⟨_, rfl, ?_⟩
    have approximates := @divide_approximates _ decimal.power.natAbs positive fits (by omega)
    have inverse : (10 : ℚ) ^ decimal.power = (10 ^ decimal.power.natAbs)⁻¹ := by
      rw [← zpow_natCast, ← zpow_neg]
      congr 1
      omega
    rwa [inverse, ← div_eq_mul_inv]

/-! ### Layouts -/

/-- A numeral with the digits of a decimal number, as they are or with zeros up to the first place
after the point. -/
structure Spells (numeral : Numeral) (negative : Bool) (decimal : Decimal) : Prop where
  sign : numeral.negative = negative
  fractional : ¬ (numeral.fraction.isEmpty = true ∧ numeral.exponent = none)
  digits : spelled numeral = decimal ∨
    (0 ≤ decimal.power ∧ decimal.digits * 10 ^ decimal.power.toNat < 10 ^ 13 ∧
      spelled numeral = ⟨decimal.digits * 10 ^ (decimal.power.toNat + 1), -1⟩)

theorem digits_lt_pow_length (number : Nat) : number < 10 ^ (Nat.toDigits 10 number).length :=
  (Nat.length_toDigits_le_iff (by decide) Nat.length_toDigits_pos).mp le_rfl

theorem writtenExponent_toDigits (negative : Bool) (whole fraction : List Char) (exponent : Int) :
    writtenExponent ⟨negative, whole, fraction,
      some (exponent < 0, Nat.toDigits 10 exponent.natAbs)⟩ = exponent := by
  unfold writtenExponent
  dsimp only
  by_cases below : exponent < 0
  · rw [decide_eq_true below]
    dsimp only
    rw [natOfDigits_toDigits]
    omega
  · rw [decide_eq_false below]
    dsimp only
    rw [natOfDigits_toDigits]
    omega

theorem spells_positional (negative : Bool) {whole fraction : List Char} {number : Nat}
    {power : Int} (value : natOfDigits (whole ++ fraction) = number)
    (places : (fraction.length : Int) = -power) (below : power < 0) :
    Spells ⟨negative, whole, fraction, none⟩ negative ⟨number, power⟩ where
  sign := rfl
  fractional := by
    rintro ⟨empty, -⟩
    have none : fraction = [] := List.isEmpty_iff.mp empty
    rw [none, List.length_nil] at places
    omega
  digits := by
    left
    unfold spelled
    rw [value]
    exact congrArg (Decimal.mk number) (by unfold writtenExponent; dsimp only; omega)

theorem toNumeral_spells (negative : Bool) (decimal : Decimal) :
    Spells (decimal.toNumeral negative) negative decimal := by
  obtain ⟨number, power⟩ := decimal
  have some := @Nat.length_toDigits_pos 10 number
  have bound := digits_lt_pow_length number
  have same := natOfDigits_toDigits number
  unfold Decimal.toNumeral
  dsimp only
  generalize Nat.toDigits 10 number = digits at *
  split
  · next within =>
    have few : digits.length + power.toNat ≤ 13 := by
      have narrow := within.2
      unfold widestWhole at narrow
      omega
    have fits : number * 10 ^ power.toNat < 10 ^ 13 :=
      calc
        number * 10 ^ power.toNat < 10 ^ digits.length * 10 ^ power.toNat :=
          Nat.mul_lt_mul_of_pos_right bound (Nat.pow_pos (by decide))
        _ = 10 ^ (digits.length + power.toNat) := (pow_add _ _ _).symm
        _ ≤ 10 ^ 13 := Nat.pow_le_pow_right (by decide) few
    refine ⟨rfl, (fun none => nomatch none.1), Or.inr ⟨within.1, fits, ?_⟩⟩
    rw [natOfDigits_eq] at same
    have value : natOfDigits (digits ++ List.replicate power.toNat '0' ++ ['0']) =
        number * 10 ^ (power.toNat + 1) := by
      rw [natOfDigits_eq, Nat.ofDigitChars_append, Nat.ofDigitChars_append, same,
        Nat.ofDigitChars_replicate_zero, pow_succ]
      change 10 * (10 ^ power.toNat * number) = _
      ring
    exact congrArg (Decimal.mk · (-1)) value
  · next wide =>
    split
    · next within =>
      have places : ((digits.drop (digits.length + power).toNat).length : Int) = -power := by
        rw [List.length_drop]
        omega
      refine spells_positional negative ?_ places (by omega)
      rw [List.take_append_drop]
      exact same
    · split
      · next narrow =>
        have places : ((List.replicate (-(digits.length + power)).toNat '0' ++ digits).length :
            Int) = -power := by
          rw [List.length_append, List.length_replicate]
          omega
        refine spells_positional negative ?_ places (by omega)
        rw [natOfDigits_eq] at same
        rw [natOfDigits_eq, Nat.ofDigitChars_append, Nat.ofDigitChars_append,
          Nat.ofDigitChars_replicate_zero]
        exact same
      · refine ⟨rfl, (fun none => nomatch none.2), Or.inl ?_⟩
        unfold spelled
        rw [writtenExponent_toDigits]
        dsimp only
        rw [List.take_append_drop, same, List.length_drop]
        exact congrArg (Decimal.mk number) (by omega)

/-- What is written for a decimal number is read, by way of an approximation of the number in double
precision. -/
theorem exists_read {decimal : Decimal} (positive : 0 < decimal.digits)
    (few : decimal.digits < 2 ^ 28) (least : -45 ≤ decimal.power) (most : decimal.power ≤ 39)
    (negative : Bool) :
    ∃ units, Approximates units decimal.value ∧
      binary32? (decimal.toNumeral negative) =
        some (Binary32.ofQuotient negative units (2 ^ double.unit)) := by
  obtain ⟨sign, fractional, digits⟩ := toNumeral_spells negative decimal
  generalize decimal.toNumeral negative = numeral at *
  -- With a zero after the point the digits end one place further down, the value is the same.
  have taken : ∃ units, doubleUnits? numeral = some units ∧
      Approximates units decimal.value := by
    rcases digits with same | ⟨above, narrow, shifted⟩
    · rw [← same] at positive few least most ⊢
      exact exists_doubleUnits positive (few.trans (by decide)) (by omega) (by omega)
    · have value : (spelled numeral).value = decimal.value := by
        have power : (10 : ℚ) ^ decimal.power = 10 ^ decimal.power.toNat := by
          rw [← zpow_natCast, Int.toNat_of_nonneg above]
        rw [shifted, Decimal.value, Decimal.value, power]
        push_cast
        rw [pow_succ, zpow_neg_one]
        field_simp
      have fits : decimal.digits * 10 ^ (decimal.power.toNat + 1) < 2 ^ 53 := by
        rw [pow_succ, ← mul_assoc]
        omega
      rw [← value]
      apply exists_doubleUnits
      · rw [shifted]
        exact Nat.mul_pos positive (Nat.pow_pos (by decide))
      · rw [shifted]
        exact fits
      · rw [shifted]
        exact (by decide : (-60 : Int) ≤ -1)
      · rw [shifted]
        exact (by decide : (-1 : Int) ≤ 60)
  obtain ⟨units, read, approximates⟩ := taken
  refine ⟨units, approximates, ?_⟩
  have notWhole : wholeNumber? numeral = none := by
    rw [wholeNumber?, Numeral.toInt?, if_neg fractional]
    rfl
  unfold binary32?
  rw [notWhole, read, sign]
  dsimp only
  rw [Option.bind_eq_bind, Option.bind_some, Option.pure_def, Nat.pow_eq]

end Number
end CheckBinding
