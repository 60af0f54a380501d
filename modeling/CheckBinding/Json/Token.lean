import CheckBinding.Text.Pieces
import CheckBinding.Json.Basic

/-!
The two kinds of tokens inside a JSON document: strings with their escapes, and numbers.

`StringToken.ofText` writes a text, `StringToken.text?` reads one. A token may be well formed as a
piece of a document (`wellEscaped`) and still stand for no text, when it names half of a surrogate
pair.
-/

namespace CheckBinding

open Text

namespace StringToken

def shortEscape? : Char → Option Char
  | '"' => some '"'
  | '\\' => some '\\'
  | '/' => some '/'
  | 'b' => some (Char.ofNat 8)
  | 'f' => some (Char.ofNat 12)
  | 'n' => some '\n'
  | 'r' => some '\r'
  | 't' => some '\t'
  | _ => none

def hexQuad? (first second third fourth : Char) : Option Nat := do
  let high ← hexValue? first
  let upper ← hexValue? second
  let lower ← hexValue? third
  let low ← hexValue? fourth
  return high * 4096 + upper * 256 + lower * 16 + low

/-- The written form of one character: the quote, the backslash and the control characters are
escaped, all else stands for itself. -/
def escapeChar (character : Char) : List Char :=
  if character = '"' then ['\\', '"']
  else if character = '\\' then ['\\', '\\']
  else if character.toNat = 8 then ['\\', 'b']
  else if character.toNat = 9 then ['\\', 't']
  else if character.toNat = 10 then ['\\', 'n']
  else if character.toNat = 12 then ['\\', 'f']
  else if character.toNat = 13 then ['\\', 'r']
  else if character.toNat < 32 then
    ['\\', 'u', '0', '0', hexDigit (character.toNat / 16), hexDigit (character.toNat % 16)]
  else [character]

def ofText (text : String) : StringToken :=
  ⟨text.toList.flatMap escapeChar⟩

/-- Whether every backslash begins an escape of the format and no control character stands bare. -/
def wellEscaped : List Char → Bool
  | [] => true
  | '\\' :: 'u' :: first :: second :: third :: fourth :: rest =>
      (hexQuad? first second third fourth).isSome && wellEscaped rest
  | '\\' :: mark :: rest => (shortEscape? mark).isSome && wellEscaped rest
  | head :: rest => head ≠ '\\' && 32 ≤ head.toNat && wellEscaped rest

/-- Resolves the escapes. A unit of a surrogate pair must stand in a pair. -/
def unescape? : List Char → Option (List Char)
  | [] => some []
  | '\\' :: 'u' :: a :: b :: c :: d :: '\\' :: 'u' :: e :: f :: g :: h :: rest => do
      let unit ← hexQuad? a b c d
      if 0xD800 ≤ unit ∧ unit < 0xDC00 then
        let low ← hexQuad? e f g h
        if 0xDC00 ≤ low ∧ low < 0xE000 then
          let tail ← unescape? rest
          return Char.ofNat (0x10000 + (unit - 0xD800) * 1024 + (low - 0xDC00)) :: tail
        else none
      else if 0xDC00 ≤ unit ∧ unit < 0xE000 then none
      else
        let tail ← unescape? ('\\' :: 'u' :: e :: f :: g :: h :: rest)
        return Char.ofNat unit :: tail
  | '\\' :: 'u' :: a :: b :: c :: d :: rest => do
      let unit ← hexQuad? a b c d
      if 0xD800 ≤ unit ∧ unit < 0xE000 then none
      else
        let tail ← unescape? rest
        return Char.ofNat unit :: tail
  | '\\' :: mark :: rest => do
      let character ← shortEscape? mark
      let tail ← unescape? rest
      return character :: tail
  | head :: rest => do
      if head = '\\' ∨ head.toNat < 32 then none
      else
        let tail ← unescape? rest
        return head :: tail
termination_by raw => raw.length

def text? (token : StringToken) : Option String :=
  (unescape? token.raw).map String.ofList

def splitAtQuote : List Char → Option (List Char × List Char)
  | [] => none
  | '"' :: rest => some ([], rest)
  | '\\' :: mark :: rest =>
      (splitAtQuote rest).map (fun (raw, after) => ('\\' :: mark :: raw, after))
  | head :: rest => (splitAtQuote rest).map (fun (raw, after) => (head :: raw, after))

def read (text : List Char) : Option (StringToken × List Char) := do
  let (raw, rest) ← splitAtQuote text
  if wellEscaped raw then return (⟨raw⟩, rest) else none

def render (token : StringToken) : List Char :=
  '"' :: token.raw ++ ['"']

end StringToken

namespace Numeral

def readFraction : List Char → Option (List Char × List Char)
  | '.' :: rest =>
      let digits := rest.takeWhile isDigit
      if digits.isEmpty then none else some (digits, rest.dropWhile isDigit)
  | rest => some ([], rest)

def readExponentDigits (negative : Bool) (text : List Char) :
    Option (Option (Bool × List Char) × List Char) :=
  let digits := text.takeWhile isDigit
  if digits.isEmpty then none else some (some (negative, digits), text.dropWhile isDigit)

def readExponent : List Char → Option (Option (Bool × List Char) × List Char)
  | mark :: rest =>
      if mark = 'e' ∨ mark = 'E' then
        match rest with
        | '-' :: digits => readExponentDigits true digits
        | '+' :: digits => readExponentDigits false digits
        | digits => readExponentDigits false digits
      else some (none, mark :: rest)
  | [] => some (none, [])

/-- Reads the digits before the point: a zero alone, or digits that begin with none. -/
def readWhole (text : List Char) : Option (List Char × List Char) :=
  match text.takeWhile isDigit with
  | [] => none
  | ['0'] => some (['0'], text.dropWhile isDigit)
  | '0' :: _ => none
  | digits => some (digits, text.dropWhile isDigit)

def read (text : List Char) : Option (Numeral × List Char) := do
  let (negative, text) := match text with
    | '-' :: rest => (true, rest)
    | rest => (false, rest)
  let (whole, text) ← readWhole text
  let (fraction, text) ← readFraction text
  let (exponent, text) ← readExponent text
  return (⟨negative, whole, fraction, exponent⟩, text)

def render (numeral : Numeral) : List Char :=
  (if numeral.negative then ['-'] else []) ++ numeral.whole ++
    (if numeral.fraction.isEmpty then [] else '.' :: numeral.fraction) ++
    match numeral.exponent with
    | none => []
    | some (negative, digits) => 'e' :: (if negative then ['-'] else []) ++ digits

def ofNat (value : Nat) : Numeral :=
  ⟨false, Nat.toDigits 10 value, [], none⟩

/-- The whole number that a numeral without point and exponent stands for; a minus sign before
zero makes it no whole number. -/
def toInt? (numeral : Numeral) : Option Int :=
  if numeral.fraction.isEmpty ∧ numeral.exponent = none then
    let value := natOfDigits numeral.whole
    if numeral.negative then
      if value = 0 then none else some (-(value : Int))
    else some value
  else none

end Numeral
end CheckBinding
