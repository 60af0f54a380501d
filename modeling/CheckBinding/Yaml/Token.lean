import CheckBinding.Yaml.Label

/-!
The tokens of a document, and the directives in front of it.

A directive gives the version that a document is written in, or says what a handle stands for.
-/

namespace CheckBinding.Yaml

/-- A token. The tokens that start and end collections without brackets come from the layout. -/
inductive Token where
  | version (major minor : Nat)
  | handle (name stands : String)
  | documentStart
  | documentEnd
  | blockSequenceStart
  | blockMappingStart
  | blockEnd
  | blockEntry
  | flowSequenceStart
  | flowSequenceEnd
  | flowMappingStart
  | flowMappingEnd
  | flowEntry
  | key
  | value
  | alias (name : String)
  | anchor (name : String)
  | tag (tag : WrittenTag)
  | scalar (style : Style) (text : String)
deriving DecidableEq

/-! ### Directives -/

def readNumber (glyphs : List Glyph) : Option (Nat × List Glyph) :=
  let (digits, rest) := takeRun Text.isDigit glyphs
  if digits ≠ [] ∧ digits.length ≤ 9 then some (Text.natOfDigits digits, rest) else none

def readVersion (glyphs : List Glyph) : Option (Token × List Glyph) := do
  let (major, rest) ← readNumber (dropBlanks glyphs)
  if startsWith '.' rest then
    let (minor, rest) ← readNumber (rest.drop 1)
    return (.version major minor, rest)
  else none

def readNamedHandle : List Glyph → Option (List Char × List Glyph)
  | [] => none
  | glyph :: rest =>
      if glyph.char ≠ '!' then none
      else
        match readHandle rest with
        | ((name, true), rest) => some ('!' :: name ++ ['!'], rest)
        | (([], false), rest) => some (['!'], rest)
        | _ => none

def readHandleMeaning (glyphs : List Glyph) : Option (Token × List Glyph) := do
  let (name, rest) ← readNamedHandle (dropBlanks glyphs)
  match rest with
  | [] => none
  | glyph :: after =>
      if isBlank glyph.char then
        let (stands, rest) ← readTagWord true (dropBlanks after)
        if endsWord rest then
          return (.handle (String.ofList name) (String.ofList stands), rest)
        else none
      else none

def readDirective (glyphs : List Glyph) : Option (Token × List Glyph) := do
  let (name, rest) := takeRun isNameCharacter glyphs
  if !endsWord rest then none
  else
    let (token, rest) ← match String.ofList name with
      | "YAML" => readVersion rest
      | "TAG" => readHandleMeaning rest
      | _ => none
    return (token, ← finishLine rest)

end CheckBinding.Yaml
