import CheckBinding.Number.Binary
import CheckBinding.Json.Token

/-!
From decimal numerals to single precision and back.

Reading takes a whole number of 64 bits as it is. Any other numeral is first brought to double
precision: its leading digits, as many as 64 bits hold, times or divided by a power of ten, each
step rounded. Writing gives the fewest digits that read back as the same number, and of those the
nearest.
-/

namespace CheckBinding.Number

open Text

/-- Takes digits up as long as the number they spell stays below `2 ^ 64`, and counts the rest. -/
def takeDigits (significand : Nat) : List Char → Nat × Nat
  | [] => (significand, 0)
  | digit :: rest =>
      let next := significand * 10 + digitValue digit
      if next < Nat.pow 2 64 then takeDigits next rest else (significand, rest.length + 1)

def powerOfTen (exponent : Nat) : Nat :=
  double.round (Nat.pow 10 exponent) 1

def largestPower : Nat := 308

def divideByPower (units exponent : Nat) : Nat :=
  if exponent ≤ largestPower then double.round units (powerOfTen exponent)
  else if units = 0 then 0
  else divideByPower (double.round units (powerOfTen largestPower)) (exponent - largestPower)
termination_by exponent
decreasing_by simp only [largestPower] at *; omega

/-- Multiplies by a power of ten in double precision, unless the product leaves its range. -/
def multiplyByPower? (units exponent : Nat) : Option Nat :=
  if largestPower < exponent then
    if units = 0 then some 0 else none
  else
    let product := double.round (units * powerOfTen exponent) (Nat.pow 2 (2 * double.unit))
    if product < double.limit then some product else none

def writtenExponent (numeral : Numeral) : Int :=
  match numeral.exponent with
  | none => 0
  | some (true, digits) => -(natOfDigits digits : Int)
  | some (false, digits) => natOfDigits digits

/-- The magnitude of a numeral in units of double precision, unless it is out of range. -/
def doubleUnits? (numeral : Numeral) : Option Nat :=
  let (whole, wholeLeft) := takeDigits 0 numeral.whole
  let (significand, fractionLeft) := takeDigits whole numeral.fraction
  let exponent : Int :=
    (wholeLeft : Int) - ((numeral.fraction.length - fractionLeft : Nat) : Int)
      + writtenExponent numeral
  let units := double.round significand 1
  if 0 ≤ exponent then multiplyByPower? units exponent.toNat
  else some (divideByPower units exponent.natAbs)

def wholeNumber? (numeral : Numeral) : Option Int :=
  numeral.toInt?.filter (fun value =>
    -(Nat.pow 2 63 : Nat) ≤ value ∧ value < (Nat.pow 2 64 : Nat))

/-- The number of single precision that a numeral stands for, unless the numeral is beyond the
range of double precision. -/
def binary32? (numeral : Numeral) : Option Binary32 :=
  match wholeNumber? numeral with
  | some value => some (Binary32.ofQuotient (value < 0) value.natAbs 1)
  | none => do
      let units ← doubleUnits? numeral
      return Binary32.ofQuotient numeral.negative units (Nat.pow 2 double.unit)

/-! ### Writing -/

structure Decimal where
  digits : Nat
  power : Int

/-- Whether a decimal number lies where every real number rounds to the given units. The ends
belong to the interval when the last kept bit of the number is zero. -/
def Decimal.readsBack (decimal : Decimal) (units : Nat) : Bool :=
  let dropped := units.log2 + 1 - single.precision
  let spacing := Nat.pow 2 dropped
  let below := if units = Nat.pow 2 (single.precision - 1 + dropped) ∧ 0 < dropped
    then spacing / 2 else spacing
  let even := (units / spacing) % 2 = 0
  let numerator := 4 * decimal.digits * Nat.pow 10 decimal.power.toNat * Nat.pow 2 single.unit
  let denominator := Nat.pow 10 (-decimal.power).toNat
  let low := (4 * units - 2 * below) * denominator
  let high := (4 * units + 2 * spacing) * denominator
  if even then low ≤ numerator && numerator ≤ high
  else low < numerator && numerator < high

/-- The best decimal number on the grid of one power of ten, if one of the two next to the units
reads back: of two the nearer, of equally near ones the even. -/
def onGrid? (units : Nat) (power : Int) : Option Decimal :=
  let numerator := units * Nat.pow 10 (-power).toNat
  let denominator := Nat.pow 2 single.unit * Nat.pow 10 power.toNat
  let quotient := numerator / denominator
  let lower : Decimal := ⟨quotient, power⟩
  let upper : Decimal := ⟨quotient + 1, power⟩
  match lower.readsBack units, upper.readsBack units with
  | false, false => none
  | true, false => some lower
  | false, true => some upper
  | true, true =>
      if roundQuotient numerator denominator = quotient then some lower else some upper

def searchGrids (units : Nat) (power : Int) : Nat → Decimal
  | 0 => ⟨units, power⟩
  | steps + 1 =>
      match onGrid? units power with
      | some decimal => decimal
      | none => searchGrids units (power - 1) steps

def shortest (units : Nat) : Decimal :=
  searchGrids units 39 100

/-- Numbers with up to this many places before the point are written without exponent. -/
def widestWhole : Int := 13

/-- Numbers with fewer than this many zeros after the point are written without exponent. -/
def narrowestFraction : Int := -6

def Decimal.toNumeral (negative : Bool) (decimal : Decimal) : Numeral :=
  let digits := Nat.toDigits 10 decimal.digits
  let point : Int := digits.length + decimal.power
  if 0 ≤ decimal.power ∧ point ≤ widestWhole then
    ⟨negative, digits ++ List.replicate decimal.power.toNat '0', ['0'], none⟩
  else if 0 < point ∧ point ≤ widestWhole then
    ⟨negative, digits.take point.toNat, digits.drop point.toNat, none⟩
  else if narrowestFraction < point ∧ point ≤ 0 then
    ⟨negative, ['0'], List.replicate (-point).toNat '0' ++ digits, none⟩
  else
    ⟨negative, digits.take 1, digits.drop 1,
      some (point - 1 < 0, Nat.toDigits 10 (point - 1).natAbs)⟩

def Binary32.toNumeral? : Binary32 → Option Numeral
  | .infinite _ => none
  | .finite negative 0 _ => some ⟨negative, ['0'], ['0'], none⟩
  | .finite negative units _ => some ((shortest units).toNumeral negative)

end CheckBinding.Number
