import CheckBinding.Yaml.Scalar

/-!
What a node is labelled with: the name of an anchor, and a tag.

A tag is written with a handle, which stands for the beginning of its full name, or in full.
-/

namespace CheckBinding.Yaml

structure WrittenTag where
  handle : String
  suffix : String
deriving DecidableEq

/-! ### Anchors and aliases -/

def endsName : List Glyph → Bool
  | [] => true
  | glyph :: rest =>
      endsWord (glyph :: rest) ||
        ['?', ':', ',', ']', '\x7d', '%', '@', '\x60'].contains glyph.char

def readName (glyphs : List Glyph) : Option (String × List Glyph) :=
  let (name, rest) := takeRun isNameCharacter glyphs
  if name ≠ [] ∧ endsName rest then some (String.ofList name, rest) else none

/-! ### Tags -/

def isTagCharacter (bracketed : Bool) (character : Char) : Bool :=
  isNameCharacter character ||
    [';', '/', '?', ':', '@', '&', '=', '+', '$', '.', '!', '~', '*', '\'', '(', ')'].contains
      character ||
    (bracketed && [',', '[', ']'].contains character)

/-- How many octets a character has whose first one is given, and what the first one adds. -/
def octetCount? (first : Nat) : Option (Nat × Nat) :=
  if first < 0x80 then some (1, first)
  else if 0xC0 ≤ first ∧ first < 0xE0 then some (2, first - 0xC0)
  else if 0xE0 ≤ first ∧ first < 0xF0 then some (3, first - 0xE0)
  else if 0xF0 ≤ first ∧ first < 0xF8 then some (4, first - 0xF0)
  else none

def readOctet : List Glyph → Option (Nat × List Glyph)
  | sign :: rest => if sign.char = '%' then readHex 2 0 rest else none
  | [] => none

def readMoreOctets : (count : Nat) → (value : Nat) → List Glyph → Option (Nat × List Glyph)
  | 0, value, glyphs => some (value, glyphs)
  | count + 1, value, glyphs => do
      let (octet, rest) ← readOctet glyphs
      if 0x80 ≤ octet ∧ octet < 0xC0 then
        readMoreOctets count (value * 64 + (octet - 0x80)) rest
      else none

def readEscaped (glyphs : List Glyph) : Option (Char × List Glyph) := do
  let (first, rest) ← readOctet glyphs
  let (count, value) ← octetCount? first
  let (point, rest) ← readMoreOctets (count - 1) value rest
  return (Char.ofNat point, rest)

def readTagText (bracketed : Bool) :
    (fuel : Nat) → List Glyph → Option (List Char × List Glyph)
  | 0, _ => none
  | _ + 1, [] => some ([], [])
  | fuel + 1, glyph :: rest =>
      if glyph.char = '%' then do
        let (character, rest) ← readEscaped (glyph :: rest)
        let (text, rest) ← readTagText bracketed fuel rest
        return (character :: text, rest)
      else if isTagCharacter bracketed glyph.char then do
        let (text, rest) ← readTagText bracketed fuel rest
        return (glyph.char :: text, rest)
      else some ([], glyph :: rest)

def readTagWord (bracketed : Bool) (glyphs : List Glyph) :
    Option (List Char × List Glyph) := do
  let (text, rest) ← readTagText bracketed (glyphs.length + 1) glyphs
  if text = [] then none else return (text, rest)

def readHandle (glyphs : List Glyph) : (List Char × Bool) × List Glyph :=
  let (name, rest) := takeRun isNameCharacter glyphs
  if startsWith '!' rest then ((name, true), rest.drop 1) else ((name, false), rest)

/-- The tag of a handle and what follows it. Without a closing mark the handle is the single mark
and what was read belongs to the rest; the mark alone is a full tag. -/
def readShortTag (glyphs : List Glyph) : Option (WrittenTag × List Glyph) :=
  match readHandle glyphs with
  | ((name, true), rest) => do
      let (suffix, rest) ← readTagWord false rest
      return (⟨String.ofList ('!' :: name ++ ['!']), String.ofList suffix⟩, rest)
  | ((name, false), rest) => do
      let (more, rest) ← readTagText false (rest.length + 1) rest
      let suffix := name ++ more
      return (if suffix = [] then ⟨"", "!"⟩ else ⟨"!", String.ofList suffix⟩, rest)

def readFullTag (glyphs : List Glyph) : Option (WrittenTag × List Glyph) := do
  let (name, rest) ← readTagWord true glyphs
  if startsWith '>' rest then return (⟨"", String.ofList name⟩, rest.drop 1) else none

/-- A tag from behind its exclamation mark on. A blank follows it, or a comma where commas
separate. -/
def readTag (inFlow : Bool) (glyphs : List Glyph) : Option (WrittenTag × List Glyph) := do
  let (tag, rest) ←
    if startsWith '<' glyphs then readFullTag (glyphs.drop 1) else readShortTag glyphs
  if endsWord rest || (inFlow && startsWith ',' rest) then return (tag, rest) else none

end CheckBinding.Yaml
