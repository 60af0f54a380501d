import CheckBinding.Json.Decode
import CheckBinding.Json.Writer
import CheckBinding.Proofs.Json.Documents
import CheckBinding.Proofs.Text.Digits

/-!
The numerals that are written: whole numbers, and numbers of single precision.

A whole number is read back as itself. That a number of single precision is written as the format
wants it rests on its shortest decimal having a digit other than zero in front.
-/

namespace CheckBinding

open Text

/-! ### Whole numbers -/

namespace Numeral

theorem wellFormed_ofNat (value : Nat) : (ofNat value).WellFormed where
  whole := by
    cases value with
    | zero => exact Or.inl rfl
    | succ value => exact Or.inr ⟨Nat.toDigits_ne_nil, head?_toDigits value.succ_pos⟩
  wholeDigits := fun _ member => isDigit_of_mem_toDigits member
  fractionDigits := fun _ member => nomatch member
  exponentDigits := fun _ _ written => nomatch written

theorem toInt?_ofNat (value : Nat) : (ofNat value).toInt? = some value := by
  rw [toInt?, ofNat, if_pos ⟨rfl, rfl⟩, natOfDigits_toDigits]
  rfl

end Numeral

namespace Json

theorem wellFormed_ofNat (value : Nat) : (ofNat value).WellFormed :=
  .number (Numeral.wellFormed_ofNat value)

theorem asNatBelow_ofNat {bound value : Nat} (below : value < bound) :
    asNatBelow bound (ofNat value) = .ok value := by
  unfold asNatBelow ofNat
  simp only [Numeral.toInt?_ofNat]
  exact if_pos below

theorem asUInt16_ofNat (value : UInt16) : asUInt16 (ofNat value.toNat) = .ok value := by
  rw [asUInt16, asNatBelow_ofNat value.toNat_lt]
  exact congrArg Except.ok UInt16.ofNat_toNat

theorem asUInt32_ofNat (value : UInt32) : asUInt32 (ofNat value.toNat) = .ok value := by
  rw [asUInt32, asNatBelow_ofNat value.toNat_lt]
  exact congrArg Except.ok UInt32.ofNat_toNat

theorem asUInt64_ofNat (value : UInt64) : asUInt64 (ofNat value.toNat) = .ok value := by
  rw [asUInt64, asNatBelow_ofNat value.toNat_lt]
  exact congrArg Except.ok UInt64.ofNat_toNat

end Json

/-! ### Single precision -/

namespace Number

/-- Zero does not read back as another number: half of the spacing below a number is less than the
number. -/
theorem readsBack_zero {units : Nat} (positive : 0 < units) (power : Int) :
    (⟨0, power⟩ : Decimal).readsBack units = false := by
  have spacing : Nat.pow 2 (units.log2 + 1 - single.precision) ≤ units := by
    refine Nat.le_trans ?_ (Nat.log2_self_le (Nat.ne_of_gt positive))
    exact Nat.pow_le_pow_right (by decide) (by simp only [single]; omega)
  have below : ∀ condition : Prop, ∀ [Decidable condition],
      (if condition then Nat.pow 2 (units.log2 + 1 - single.precision) / 2
        else Nat.pow 2 (units.log2 + 1 - single.precision)) ≤ units := by
    intro condition _
    split
    · exact Nat.le_trans (Nat.div_le_self _ _) spacing
    · exact spacing
  have denominator : 0 < Nat.pow 10 (-power).toNat := Nat.pow_pos (by decide)
  have low : ∀ below, below ≤ units →
      0 < (4 * units - 2 * below) * Nat.pow 10 (-power).toNat := by
    intro below least
    exact Nat.mul_pos (by omega) denominator
  have apart := low _ (below (units = Nat.pow 2 (single.precision - 1 +
    (units.log2 + 1 - single.precision)) ∧ 0 < units.log2 + 1 - single.precision))
  simp only [Decimal.readsBack, Nat.mul_zero, Nat.zero_mul]
  split
  · rw [Bool.and_eq_false_iff]
    exact Or.inl (decide_eq_false (by omega))
  · rw [Bool.and_eq_false_iff]
    exact Or.inl (decide_eq_false (by omega))

theorem digits_onGrid? {units : Nat} (positive : 0 < units) {power : Int} {decimal : Decimal}
    (found : onGrid? units power = some decimal) : 0 < decimal.digits := by
  unfold onGrid? at found
  dsimp only at found
  generalize quotientEq : units * Nat.pow 10 (-power).toNat /
    (Nat.pow 2 single.unit * Nat.pow 10 power.toNat) = quotient at found
  have lower : (⟨quotient, power⟩ : Decimal).readsBack units = true → 0 < quotient := by
    intro reads
    cases quotient with
    | zero =>
        rw [readsBack_zero positive] at reads
        cases reads
    | succ quotient => exact quotient.succ_pos
  split at found
  · cases found
  · next reads _ =>
    cases found
    exact lower reads
  · cases found
    exact quotient.succ_pos
  · next reads _ =>
    split at found
    · cases found
      exact lower reads
    · cases found
      exact quotient.succ_pos

theorem digits_searchGrids {units : Nat} (positive : 0 < units) (power : Int) (steps : Nat) :
    0 < (searchGrids units power steps).digits := by
  induction steps generalizing power with
  | zero => exact positive
  | succ steps ih =>
      rw [searchGrids]
      split
      · next decimal found => exact digits_onGrid? positive found
      · exact ih (power - 1)

theorem isDigit_of_mem_zeros {count : Nat} {digit : Char}
    (member : digit ∈ List.replicate count '0') : isDigit digit = true := by
  rw [List.eq_of_mem_replicate member]
  rfl

theorem Decimal.toNumeral_wellFormed {decimal : Decimal} (positive : 0 < decimal.digits)
    (negative : Bool) : (decimal.toNumeral negative).WellFormed := by
  have digits : ∀ digit ∈ Nat.toDigits 10 decimal.digits, isDigit digit = true :=
    fun _ member => isDigit_of_mem_toDigits member
  have first := head?_toDigits positive
  obtain ⟨head, rest, spelled⟩ := List.exists_cons_of_ne_nil
    (Nat.toDigits_ne_nil (b := 10) (n := decimal.digits))
  rw [spelled] at digits first
  -- Each layout begins with the first digit, or with a zero before the point.
  unfold Decimal.toNumeral
  rw [spelled]
  dsimp only
  split
  · constructor
    · exact Or.inr ⟨List.cons_ne_nil _ _, first⟩
    · intro digit member
      rcases List.mem_append.mp member with here | there
      · exact digits digit here
      · exact isDigit_of_mem_zeros there
    · intro digit member
      rw [List.mem_singleton.mp member]
      rfl
    · intro _ _ written
      cases written
  · split
    · next within =>
      obtain ⟨count, counted⟩ : ∃ count,
          (((head :: rest).length : Int) + decimal.power).toNat = count + 1 :=
        ⟨_, (Nat.succ_pred_eq_of_pos (by omega)).symm⟩
      rw [counted]
      constructor
      · exact Or.inr ⟨List.cons_ne_nil _ _, first⟩
      · exact fun digit member => digits digit (List.mem_of_mem_take member)
      · exact fun digit member => digits digit (List.mem_of_mem_drop member)
      · intro _ _ written
        cases written
    · split
      · constructor
        · exact Or.inl rfl
        · intro digit member
          rw [List.mem_singleton.mp member]
          rfl
        · intro digit member
          rcases List.mem_append.mp member with here | there
          · exact isDigit_of_mem_zeros here
          · exact digits digit there
        · intro _ _ written
          cases written
      · constructor
        · exact Or.inr ⟨List.cons_ne_nil _ _, first⟩
        · exact fun digit member => digits digit (List.mem_of_mem_take member)
        · exact fun digit member => digits digit (List.mem_of_mem_drop member)
        · intro _ _ written
          cases written
          exact ⟨Nat.toDigits_ne_nil, fun _ member => isDigit_of_mem_toDigits member⟩

/-- A number of single precision is written as the format wants it. -/
theorem Binary32.toNumeral?_wellFormed {number : Binary32} {numeral : Numeral}
    (written : number.toNumeral? = some numeral) : numeral.WellFormed := by
  unfold Binary32.toNumeral? at written
  split at written
  · cases written
  · cases written
    have zero : ∀ digit ∈ ['0'], isDigit digit = true := List.forall_mem_singleton.mpr rfl
    exact ⟨Or.inl rfl, zero, zero, fun _ _ written => nomatch written⟩
  · next negative units _ nonzero =>
    cases written
    exact Decimal.toNumeral_wellFormed
      (digits_searchGrids (Nat.pos_of_ne_zero (by simpa using nonzero)) 39 100) negative

end Number
end CheckBinding
