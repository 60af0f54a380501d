import CheckBinding.Json.Token

/-!
Reading JSON documents.

Every step of the reader consumes at least one character, so the length of the text bounds the
steps; `Json.parse?` starts with that bound and shows none. Nesting is not limited.
-/

namespace CheckBinding.Json

def isSpace (character : Char) : Bool :=
  character = ' ' || character = '\n' || character = '\r' || character = '\t'

def skipSpace (text : List Char) : List Char :=
  text.dropWhile isSpace

mutual

def readValue : Nat → List Char → Option (Json × List Char)
  | 0, _ => none
  | steps + 1, text =>
      match skipSpace text with
      | 'n' :: 'u' :: 'l' :: 'l' :: rest => some (.null, rest)
      | 't' :: 'r' :: 'u' :: 'e' :: rest => some (.boolean true, rest)
      | 'f' :: 'a' :: 'l' :: 's' :: 'e' :: rest => some (.boolean false, rest)
      | '"' :: rest => (StringToken.read rest).map (fun (token, rest) => (.string token, rest))
      | '[' :: rest =>
          match skipSpace rest with
          | ']' :: rest => some (.array [], rest)
          | rest => (readItems steps rest).map (fun (items, rest) => (.array items, rest))
      | '{' :: rest =>
          match skipSpace rest with
          | '}' :: rest => some (.object [], rest)
          | rest => (readMembers steps rest).map (fun (members, rest) => (.object members, rest))
      | rest => (Numeral.read rest).map (fun (numeral, rest) => (.number numeral, rest))

/-- Reads the items of an array up to and with its closing bracket; there is at least one. -/
def readItems : Nat → List Char → Option (List Json × List Char)
  | 0, _ => none
  | steps + 1, text => do
      let (item, rest) ← readValue steps text
      match skipSpace rest with
      | ',' :: rest =>
          let (items, rest) ← readItems steps rest
          some (item :: items, rest)
      | ']' :: rest => some ([item], rest)
      | _ => none

/-- Reads the members of an object up to and with its closing brace; there is at least one. -/
def readMembers : Nat → List Char → Option (List (StringToken × Json) × List Char)
  | 0, _ => none
  | steps + 1, text =>
      match skipSpace text with
      | '"' :: rest => do
          let (name, rest) ← StringToken.read rest
          match skipSpace rest with
          | ':' :: rest =>
              let (value, rest) ← readValue steps rest
              match skipSpace rest with
              | ',' :: rest =>
                  let (members, rest) ← readMembers steps rest
                  some ((name, value) :: members, rest)
              | '}' :: rest => some ([(name, value)], rest)
              | _ => none
          | _ => none
      | _ => none

end

/-- A number of steps that suffices for a text. -/
def stepsFor (text : List Char) : Nat :=
  text.length + 1

def readFront (text : List Char) : Option (Json × List Char) :=
  readValue (stepsFor text) text

def parse? (text : String) : Option Json := do
  let (document, rest) ← readFront text.toList
  if (skipSpace rest).isEmpty then some document else none

def parseBytes? (bytes : ByteArray) : Option Json := do
  parse? (← String.fromUTF8? bytes)

end CheckBinding.Json
