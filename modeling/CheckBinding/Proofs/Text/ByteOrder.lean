import Mathlib.Data.List.Lex
import Mathlib.Data.String.Basic
import Mathlib.Tactic.NormNum
import Mathlib.Tactic.SplitIfs

/-!
The order of texts is the order of their bytes.

Texts are compared by their characters. A character is written as a leading byte and continuation
bytes of six bits each, so the first byte in which the written forms of two characters differ is
ordered as the characters are, and texts come in the same order when their bytes are compared.
-/

namespace CheckBinding.Text

/-! ### One character -/

/-- The bytes that go on with a value: its lowest digits in base 64, each with a mark. -/
private def continuation : Nat → Nat → List UInt8
  | 0, _ => []
  | count + 1, value => UInt8.ofNat (value / 64 ^ count % 64 + 128) :: continuation count value

private theorem byte_lt {small large : Nat} {rest behind : List UInt8} (within : large < 256)
    (less : small < large ∨ small = large ∧ rest < behind) :
    UInt8.ofNat small :: rest < UInt8.ofNat large :: behind := by
  rw [List.cons_lt_cons_iff, UInt8.lt_iff_toNat_lt, UInt8.toNat_ofNat', UInt8.toNat_ofNat']
  rcases less with less | ⟨rfl, less⟩
  · left
    omega
  · exact Or.inr ⟨rfl, less⟩

/-- The smaller of two values has the smaller quotient, or the same quotient and the smaller
remainder. -/
private theorem digit_lt {small large : Nat} (less : small < large) (place : Nat) :
    small / place < large / place ∨
      small / place = large / place ∧ small % place < large % place := by
  rcases Nat.lt_or_eq_of_le (Nat.div_le_div_right (c := place) (Nat.le_of_lt less)) with
    lower | same
  · exact Or.inl lower
  · have smallParts := Nat.div_add_mod small place
    have largeParts := Nat.div_add_mod large place
    rw [same] at smallParts
    exact Or.inr ⟨same, by omega⟩

private theorem continuation_lt {count small large : Nat}
    (less : small % 64 ^ count < large % 64 ^ count) (rest behind : List UInt8) :
    continuation count small ++ rest < continuation count large ++ behind := by
  induction count with
  | zero =>
      rw [Nat.pow_zero, Nat.mod_one, Nat.mod_one] at less
      exact absurd less (Nat.lt_irrefl 0)
  | succ count ih =>
      -- The first digit of the remainders is the one that the next byte holds.
      have split := digit_lt less (64 ^ count)
      simp only [Nat.pow_succ, Nat.mod_mul_right_div_self, Nat.mod_mul_right_mod] at split
      rw [continuation, continuation, List.cons_append, List.cons_append]
      refine byte_lt (by omega) ?_
      rcases split with lower | ⟨same, lower⟩
      · exact Or.inl (Nat.add_lt_add_right lower 128)
      · exact Or.inr ⟨by rw [same], ih lower⟩

/-- How many continuation bytes a value needs, and the mark of its leading byte. -/
private inductive Led : Nat → Nat → Nat → Prop
  | alone {value : Nat} (most : value < 128) : Led 0 0 value
  | two {value : Nat} (least : 128 ≤ value) (most : value < 2048) : Led 1 192 value
  | three {value : Nat} (least : 2048 ≤ value) (most : value < 65536) : Led 2 224 value
  | four {value : Nat} (least : 65536 ≤ value) (most : value < 1114112) : Led 3 240 value

private theorem led_lt {count other mark otherMark small large : Nat} (led : Led count mark small)
    (otherLed : Led other otherMark large) (less : small < large) :
    large / 64 ^ other + otherMark < 256 ∧
      (small / 64 ^ count + mark < large / 64 ^ other + otherMark ∨
        count = other ∧ mark = otherMark) := by
  cases led <;> cases otherLed <;> norm_num <;> omega

private theorem encoded_eq (character : Char) :
    ∃ count mark, Led count mark character.toNat ∧ String.utf8EncodeChar character =
      UInt8.ofNat (character.toNat / 64 ^ count + mark) :: continuation count character.toNat := by
  have bounded : character.toNat < 1114112 := by
    rcases character.valid with low | ⟨-, high⟩
    · exact Nat.lt_trans low (by decide)
    · exact high
  simp only [String.utf8EncodeChar, Char.toNat_val]
  generalize character.toNat = value at bounded
  split_ifs with one two three
  · exact ⟨0, 0, .alone (by omega), by simp [continuation]⟩
  · refine ⟨1, 192, .two (by omega) (by omega), ?_⟩
    rw [show value / 64 % 32 = value / 64 by omega]
    simp [continuation]
  · refine ⟨2, 224, .three (by omega) (by omega), ?_⟩
    rw [show value / 4096 % 16 = value / 4096 by omega]
    simp [continuation]
  · refine ⟨3, 240, .four (by omega) bounded, ?_⟩
    rw [show value / 262144 % 8 = value / 262144 by omega]
    simp [continuation]

/-- What follows the written forms of two different characters does not matter to their order. -/
theorem encoded_lt {left right : Char} (less : left < right) (rest behind : List UInt8) :
    String.utf8EncodeChar left ++ rest < String.utf8EncodeChar right ++ behind := by
  have valued : left.toNat < right.toNat := less
  obtain ⟨count, mark, led, written⟩ := encoded_eq left
  obtain ⟨other, otherMark, otherLed, otherWritten⟩ := encoded_eq right
  obtain ⟨within, higher | ⟨rfl, rfl⟩⟩ := led_lt led otherLed valued
  · rw [written, otherWritten, List.cons_append, List.cons_append]
    exact byte_lt within (Or.inl higher)
  · rw [written, otherWritten, List.cons_append, List.cons_append]
    refine byte_lt within ?_
    rcases digit_lt valued (64 ^ count) with lower | ⟨same, lower⟩
    · exact Or.inl (Nat.add_lt_add_right lower mark)
    · exact Or.inr ⟨by rw [same], continuation_lt lower rest behind⟩

/-! ### Whole texts -/

def bytes (text : String) : List UInt8 :=
  text.toUTF8.data.toList

theorem bytes_eq (text : String) : bytes text = text.toList.flatMap String.utf8EncodeChar := by
  change text.toByteArray.data.toList = _
  rw [← String.utf8Encode_toList, List.utf8Encode, List.data_toByteArray]

private theorem flatMap_lt {left right : List Char} (less : left < right) :
    left.flatMap String.utf8EncodeChar < right.flatMap String.utf8EncodeChar := by
  induction left generalizing right with
  | nil =>
      cases right with
      | nil => exact absurd less (List.lt_irrefl _)
      | cons head tail =>
          rw [List.flatMap_nil, List.flatMap_cons]
          obtain ⟨count, mark, -, written⟩ := encoded_eq head
          rw [written]
          exact List.nil_lt_cons _ _
  | cons first rest ih =>
      cases right with
      | nil => cases less
      | cons head tail =>
          rw [List.flatMap_cons, List.flatMap_cons]
          rcases List.cons_lt_cons_iff.mp less with before | ⟨rfl, behind⟩
          · exact encoded_lt before _ _
          · exact List.append_left_lt (ih behind)

/-- A text is before another one just when its bytes are before those of the other. -/
theorem lt_iff_bytes_lt {left right : String} : left < right ↔ bytes left < bytes right := by
  rw [bytes_eq, bytes_eq]
  constructor
  · intro less
    exact flatMap_lt (String.lt_iff_toList_lt.mp less)
  · intro less
    rcases lt_trichotomy left right with before | rfl | after
    · exact before
    · exact absurd less (List.lt_irrefl _)
    · exact absurd less (List.lt_asymm (flatMap_lt (String.lt_iff_toList_lt.mp after)))

end CheckBinding.Text
