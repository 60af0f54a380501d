/-!
The characters of a document, each with its place.

Layout is meaning in this notation, so every character carries its line and column. All ways to
break a line become one line feed, except the line and paragraph separators, which stay themselves.
-/

namespace CheckBinding.Yaml

structure Glyph where
  char : Char
  line : Nat
  column : Nat
deriving DecidableEq

def byteOrderMark : Char := '\ufeff'

def isAllowed (character : Char) : Bool :=
  let point := character.toNat
  point = 0x09 || point = 0x0A || point = 0x0D || (0x20 ≤ point && point ≤ 0x7E) ||
    point = 0x85 || (0xA0 ≤ point && point ≤ 0xFFFD) || 0x10000 ≤ point

def isBlank (character : Char) : Bool :=
  character = ' ' || character = '\t'

def isBreak (character : Char) : Bool :=
  character = '\n' || character = '\r' || character = '\u0085' || character = '\u2028' ||
    character = '\u2029'

/-- Brings all line breaks to one form, but for the two separators. -/
def unifyBreaks : List Char → List Char
  | [] => []
  | '\r' :: '\n' :: rest => '\n' :: unifyBreaks rest
  | '\r' :: rest => '\n' :: unifyBreaks rest
  | '\u0085' :: rest => '\n' :: unifyBreaks rest
  | other :: rest => other :: unifyBreaks rest

def place (line column : Nat) : List Char → List Glyph
  | [] => []
  | head :: rest =>
      ⟨head, line, column⟩ ::
        (if isBreak head then place (line + 1) 0 rest else place line (column + 1) rest)

/-- The placed characters of a text, if all of them are allowed. A byte order mark at the start is
skipped, but it takes up a column. -/
def glyphs? (text : String) : Option (List Glyph) :=
  if text.toList.all isAllowed then
    match place 0 0 (unifyBreaks text.toList) with
    | [] => some []
    | head :: rest => some (if head.char = byteOrderMark then rest else head :: rest)
  else none

def endsLine : List Glyph → Bool
  | [] => true
  | glyph :: _ => isBreak glyph.char

def endsWord : List Glyph → Bool
  | [] => true
  | glyph :: _ => isBlank glyph.char || isBreak glyph.char

def startsWith (character : Char) : List Glyph → Bool
  | [] => false
  | glyph :: _ => glyph.char = character

def takeRun (test : Char → Bool) : List Glyph → List Char × List Glyph
  | [] => ([], [])
  | glyph :: rest =>
      if test glyph.char then
        let (run, rest) := takeRun test rest
        (glyph.char :: run, rest)
      else ([], glyph :: rest)

def dropBlanks (glyphs : List Glyph) : List Glyph :=
  (takeRun isBlank glyphs).2

/-- Drops blanks and a comment up to the end of the line, where nothing else may stand. -/
def finishLine (glyphs : List Glyph) : Option (List Glyph) :=
  let rest := dropBlanks glyphs
  let rest := if startsWith '#' rest then rest.dropWhile (fun glyph => !isBreak glyph.char)
    else rest
  match rest with
  | [] => some []
  | glyph :: after => if isBreak glyph.char then some after else none

def isMarker (character : Char) : List Glyph → Bool
  | first :: second :: third :: rest =>
      first.column = 0 && first.char = character && second.char = character &&
        third.char = character && endsWord rest
  | _ => false

def isBoundary (glyphs : List Glyph) : Bool :=
  isMarker '-' glyphs || isMarker '.' glyphs

def isNameCharacter (character : Char) : Bool :=
  character.isAlphanum || character = '-' || character = '_'

end CheckBinding.Yaml
