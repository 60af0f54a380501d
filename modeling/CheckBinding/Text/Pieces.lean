/-!
Cutting texts at a character, and replacing the first occurrence of a text.
-/

namespace CheckBinding.Text

/-- The pieces between the occurrences of a character: one more than there are occurrences. -/
def splitChars (separator : Char) : List Char → List (List Char)
  | [] => [[]]
  | head :: rest =>
      if head = separator then [] :: splitChars separator rest
      else
        match splitChars separator rest with
        | [] => [[head]]
        | piece :: pieces => (head :: piece) :: pieces

def split (separator : Char) (text : String) : List String :=
  (splitChars separator text.toList).map String.ofList

def cutChars (separator : Char) : List Char → Option (List Char × List Char)
  | [] => none
  | head :: rest =>
      if head = separator then some ([], rest)
      else (cutChars separator rest).map (fun (before, after) => (head :: before, after))

def afterChars? : List Char → List Char → Option (List Char)
  | [], rest => some rest
  | _ :: _, [] => none
  | wanted :: beginning, head :: rest =>
      if wanted = head then afterChars? beginning rest else none

/-- Replaces the first place where `old` occurs; a text without it stays as it is. -/
def replaceFirstChars (old new : List Char) : List Char → List Char
  | [] => if old = [] then new else []
  | head :: rest =>
      match afterChars? old (head :: rest) with
      | some after => new ++ after
      | none => head :: replaceFirstChars old new rest

def replaceFirst (old new text : String) : String :=
  String.ofList (replaceFirstChars old.toList new.toList text.toList)

def after? (beginning text : String) : Option String :=
  (afterChars? beginning.toList text.toList).map String.ofList

/-- The decimal digits, and only the ten of them. -/
def isDigit (character : Char) : Bool :=
  '0' ≤ character && character ≤ '9'

def digitValue (character : Char) : Nat :=
  character.toNat - '0'.toNat

def natOfDigits (digits : List Char) : Nat :=
  digits.foldl (fun value digit => value * 10 + digitValue digit) 0

def hexValue? (character : Char) : Option Nat :=
  if isDigit character then some (digitValue character)
  else if 'a' ≤ character ∧ character ≤ 'f' then some (character.toNat - 'a'.toNat + 10)
  else if 'A' ≤ character ∧ character ≤ 'F' then some (character.toNat - 'A'.toNat + 10)
  else none

def hexDigit (value : Nat) : Char :=
  if value < 10 then Char.ofNat ('0'.toNat + value) else Char.ofNat ('a'.toNat + (value - 10))

def decimal (value : Nat) : String :=
  String.ofList (Nat.toDigits 10 value)

def hexadecimal (value : Nat) : String :=
  String.ofList (Nat.toDigits 16 value)

end CheckBinding.Text
