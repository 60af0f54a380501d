import CheckBinding.Text.Blank
import CheckBinding.Text.Pieces

/-!
Spans of time, and the texts that write them.

A written span is a sum of numbers with units, such as `1h 30m`. White space may stand anywhere
but inside of a unit. Numbers and sums that need more than 64 bits are refused, and so is a
fraction that is no whole count of what its unit is counted in: nanoseconds up to minutes, seconds
from hours on.
-/

namespace CheckBinding

structure Duration where
  nanoseconds : Nat
deriving DecidableEq, Inhabited

namespace Duration

open Text

def perSecond : Nat := Nat.pow 10 9

def ofSeconds (seconds : Nat) : Duration :=
  ⟨seconds * perSecond⟩

def ofMilliseconds (milliseconds : Nat) : Duration :=
  ⟨milliseconds * Nat.pow 10 6⟩

def seconds (span : Duration) : Nat :=
  span.nanoseconds / perSecond

def subseconds (span : Duration) : Nat :=
  span.nanoseconds % perSecond

def zero : Duration := ⟨0⟩

instance : LT Duration := ⟨fun left right => left.nanoseconds < right.nanoseconds⟩

instance (left right : Duration) : Decidable (left < right) :=
  inferInstanceAs (Decidable (left.nanoseconds < right.nanoseconds))

/-! ### Units -/

structure Measure where
  seconds : Nat
  nanoseconds : Nat

def measure? : String → Option Measure
  | "ns" | "nsec" | "nanos" => some ⟨0, 1⟩
  | "us" | "µs" | "usec" => some ⟨0, 1000⟩
  | "ms" | "msec" | "millis" => some ⟨0, 1000000⟩
  | "s" | "sec" | "secs" | "second" | "seconds" => some ⟨1, 0⟩
  | "m" | "min" | "mins" | "minute" | "minutes" => some ⟨60, 0⟩
  | "h" | "hr" | "hrs" | "hour" | "hours" => some ⟨3600, 0⟩
  | "d" | "day" | "days" => some ⟨86400, 0⟩
  | "w" | "wk" | "wks" | "week" | "weeks" => some ⟨604800, 0⟩
  | "M" | "month" | "months" => some ⟨2630016, 0⟩
  | "y" | "yr" | "yrs" | "year" | "years" => some ⟨31557600, 0⟩
  | _ => none

/-! ### Reading -/

inductive Fault where
  | empty
  | numberExpected
  | invalidCharacter
  | overflow
  | unknownUnit (unit : String)
deriving DecidableEq

def Fault.message : Fault → String
  | .empty => "value was empty"
  | .numberExpected => "expected number"
  | .invalidCharacter => "invalid character"
  | .overflow => "number is too large or cannot be represented without a lack of precision"
  | .unknownUnit unit => "unknown time unit " ++ unit

def bounded (value : Nat) : Except Fault Nat :=
  if value < Nat.pow 2 64 then .ok value else .error .overflow

def addTo (span : Duration) (seconds nanoseconds : Nat) : Except Fault Duration := do
  let nanoseconds ← bounded (span.subseconds + nanoseconds)
  let seconds ← bounded (span.seconds + seconds + nanoseconds / perSecond)
  return ⟨seconds * perSecond + nanoseconds % perSecond⟩

structure Fraction where
  numerator : Nat
  denominator : Nat

def Fraction.of (fraction : Fraction) (count : Nat) : Except Fault Nat := do
  let scaled ← bounded (fraction.numerator * count)
  if scaled % fraction.denominator = 0 then return scaled / fraction.denominator
  else .error .overflow

def addUnits (span : Duration) (number : Nat) (fraction : Option Fraction) (unit : String) :
    Except Fault Duration :=
  match measure? unit with
  | none => .error (.unknownUnit unit)
  | some measure => do
      let seconds ← bounded (number * measure.seconds)
      let nanoseconds ← bounded (number * measure.nanoseconds)
      let span ← addTo span seconds nanoseconds
      match fraction with
      | none => return span
      | some fraction =>
          if measure.nanoseconds = 1 then .error .overflow
          else if 3600 ≤ measure.seconds then addTo span (← fraction.of measure.seconds) 0
          else addTo span 0 (← fraction.of (measure.seconds * perSecond + measure.nanoseconds))

def isUnitChar (character : Char) : Bool :=
  character.isAlpha || character = 'µ'

def appendDigit (number : Nat) (digit : Char) : Except Fault Nat :=
  bounded (number * 10 + digitValue digit)

def readFraction (fraction : Fraction) : List Char → Except Fault (Fraction × List Char)
  | [] => if fraction.denominator = 1 then .error .invalidCharacter else .ok (fraction, [])
  | head :: rest =>
      if isDigit head then do
        let denominator ← bounded (fraction.denominator * 10)
        let numerator ← appendDigit fraction.numerator head
        readFraction ⟨numerator, denominator⟩ rest
      else if isBlank head then readFraction fraction rest
      else if isUnitChar head then
        if fraction.denominator = 1 then .error .invalidCharacter
        else .ok (fraction, head :: rest)
      else .error .invalidCharacter

def readNumber (number : Nat) : List Char → Except Fault (Nat × Option Fraction × List Char)
  | [] => .ok (number, none, [])
  | head :: rest =>
      if isDigit head then do readNumber (← appendDigit number head) rest
      else if isBlank head then readNumber number rest
      else if isUnitChar head then .ok (number, none, head :: rest)
      else if head = '.' then do
        let (fraction, rest) ← readFraction ⟨0, 1⟩ rest
        return (number, some fraction, rest)
      else .error .invalidCharacter

/-- Adds up the numbers with units that a text writes. The steps are bounded by its length. -/
def readSum (span : Duration) : Nat → List Char → Except Fault Duration
  | 0, _ => .error .empty
  | steps + 1, text => do
      let (number, fraction, rest) ← readNumber 0 text
      let unit := rest.takeWhile isUnitChar
      let after := rest.dropWhile isUnitChar
      match after with
      | [] => addUnits span number fraction (String.ofList unit)
      | head :: _ =>
          if isDigit head then
            readSum (← addUnits span number fraction (String.ofList unit)) steps after
          else if isBlank head then do
            let span ← addUnits span number fraction (String.ofList unit)
            match after.dropWhile isBlank with
            | [] => return span
            | next :: rest =>
                if isDigit next then readSum span steps (next :: rest)
                else .error .numberExpected
          else .error .invalidCharacter

/-- The span that a text writes. A bare zero needs no unit. -/
def parse (text : String) : Except Fault Duration :=
  if text = "0" then .ok zero
  else
    match text.toList.dropWhile isBlank with
    | [] => .error .empty
    | head :: rest =>
        if isDigit head then readSum zero (rest.length + 1) (head :: rest)
        else .error .numberExpected

end Duration
end CheckBinding
