/-!
Reading bytes as text when they may be damaged.

Every longest piece that begins like a character but does not finish as one becomes one
replacement character.
-/

namespace CheckBinding.Text

def replacement : Char := Char.ofNat 0xFFFD

/-- How the bytes of a character go on after its first byte: how many follow, the least and the
greatest value of the next one, and the bits that the first byte gives. -/
structure Sequel where
  count : Nat
  least : Nat
  most : Nat
  bits : Nat

def sequel? (byte : Nat) : Option Sequel :=
  if byte < 0x80 then some ⟨0, 0, 0, byte⟩
  else if 0xC2 ≤ byte ∧ byte ≤ 0xDF then some ⟨1, 0x80, 0xBF, byte - 0xC0⟩
  else if byte = 0xE0 then some ⟨2, 0xA0, 0xBF, 0⟩
  else if byte = 0xED then some ⟨2, 0x80, 0x9F, 0xD⟩
  else if 0xE1 ≤ byte ∧ byte ≤ 0xEF then some ⟨2, 0x80, 0xBF, byte - 0xE0⟩
  else if byte = 0xF0 then some ⟨3, 0x90, 0xBF, 0⟩
  else if byte = 0xF4 then some ⟨3, 0x80, 0x8F, 4⟩
  else if 0xF1 ≤ byte ∧ byte ≤ 0xF3 then some ⟨3, 0x80, 0xBF, byte - 0xF0⟩
  else none

/-- Reads bytes from the front, given what the character begun still wants. A byte that does not
continue it begins the next one. -/
def lossyChars : Option Sequel → List Nat → List Char
  | none, [] => []
  | some _, [] => [replacement]
  | pending, byte :: rest =>
      let begin : List Char :=
        match sequel? byte with
        | none => replacement :: lossyChars none rest
        | some sequel =>
            if sequel.count = 0 then Char.ofNat sequel.bits :: lossyChars none rest
            else lossyChars (some sequel) rest
      match pending with
      | none => begin
      | some sequel =>
          if sequel.least ≤ byte ∧ byte ≤ sequel.most then
            let bits := sequel.bits * 64 + (byte - 0x80)
            if sequel.count = 1 then Char.ofNat bits :: lossyChars none rest
            else lossyChars (some ⟨sequel.count - 1, 0x80, 0xBF, bits⟩) rest
          else replacement :: begin

def lossy (bytes : ByteArray) : String :=
  String.ofList (lossyChars none (bytes.toList.map UInt8.toNat))

end CheckBinding.Text
