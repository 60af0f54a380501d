import CheckBinding.Text.Pieces
import CheckBinding.Yaml.Glyph

/-!
The texts of a document: plain, quoted, and block scalars.

Inside of a plain or quoted text, a single line break stands for a space, and of several the first
is dropped. A block keeps its breaks, or folds them where neither line starts with a blank.
-/

namespace CheckBinding.Yaml

inductive Style where
  | plain
  | singleQuoted
  | doubleQuoted
  | literal
  | folded
deriving DecidableEq

/-! ### Gaps between words -/

/-- What lies between two words: blanks, or line breaks once a line was crossed. -/
structure Gap where
  blanks : List Char
  crossed : Bool
  firstBreak : Option Char
  moreBreaks : List Char
deriving DecidableEq

namespace Gap

def empty : Gap := ⟨[], false, none, []⟩

/-- A line break that leaves no trace. -/
def escaped : Gap := ⟨[], true, none, []⟩

def addBreak (gap : Gap) (character : Char) : Gap :=
  if gap.crossed then { gap with moreBreaks := gap.moreBreaks ++ [character] }
  else ⟨[], true, some character, []⟩

def text (gap : Gap) : List Char :=
  if gap.crossed then
    match gap.firstBreak with
    | some '\n' => if gap.moreBreaks = [] then [' '] else gap.moreBreaks
    | some other => other :: gap.moreBreaks
    | none => gap.moreBreaks
  else gap.blanks

/-- Reads on in a gap. After a line was crossed blanks are indentation, in which no tab may stand
left of the margin. -/
def read (margin : Nat) (gap : Gap) : List Glyph → Option (Gap × List Glyph)
  | [] => some (gap, [])
  | glyph :: rest =>
      if isBreak glyph.char then read margin (gap.addBreak glyph.char) rest
      else if isBlank glyph.char then
        if !gap.crossed then read margin { gap with blanks := gap.blanks ++ [glyph.char] } rest
        else if glyph.char = '\t' ∧ glyph.column < margin then none
        else read margin gap rest
      else some (gap, glyph :: rest)

end Gap

/-! ### Quoted texts -/

def readHex : (count : Nat) → (value : Nat) → List Glyph → Option (Nat × List Glyph)
  | 0, value, glyphs => some (value, glyphs)
  | _ + 1, _, [] => none
  | count + 1, value, glyph :: rest => do
      let digit ← Text.hexValue? glyph.char
      readHex count (value * 16 + digit) rest

def characterOf? (point : Nat) : Option Char :=
  if point.isValidChar then some (Char.ofNat point) else none

def readCodePoint (count : Nat) (glyphs : List Glyph) : Option (Char × List Glyph) := do
  let (point, rest) ← readHex count 0 glyphs
  return (← characterOf? point, rest)

def escapedCharacter? : Char → Option Char
  | '0' => some '\x00'
  | 'a' => some '\x07'
  | 'b' => some '\x08'
  | 't' => some '\t'
  | '\t' => some '\t'
  | 'n' => some '\n'
  | 'v' => some '\x0b'
  | 'f' => some '\x0c'
  | 'r' => some '\r'
  | 'e' => some '\x1b'
  | ' ' => some ' '
  | '"' => some '"'
  | '/' => some '/'
  | '\\' => some '\\'
  | 'N' => some '\u0085'
  | '_' => some '\u00a0'
  | 'L' => some '\u2028'
  | 'P' => some '\u2029'
  | _ => none

def readEscape : List Glyph → Option (Char × List Glyph)
  | [] => none
  | glyph :: rest =>
      match glyph.char with
      | 'x' => readCodePoint 2 rest
      | 'u' => readCodePoint 4 rest
      | 'U' => readCodePoint 8 rest
      | letter => (escapedCharacter? letter).map (fun character => (character, rest))

/-- One character of a quoted text that is neither a blank nor a line break. The result is empty
at the closing quote. -/
def readQuotedCharacter (double : Bool) (glyph : Glyph) (rest : List Glyph) :
    Option (Option Char × List Glyph) :=
  if double then
    if glyph.char = '"' then some (none, rest)
    else if glyph.char = '\\' then
      (readEscape rest).map (fun (character, rest) => (some character, rest))
    else some (some glyph.char, rest)
  else if glyph.char = '\'' then
    if startsWith '\'' rest then some (some '\'', rest.drop 1) else some (none, rest)
  else some (some glyph.char, rest)

def isEscapedBreak (double : Bool) (glyph : Glyph) (rest : List Glyph) : Bool :=
  double && glyph.char = '\\' && !rest.isEmpty && endsLine rest

def readQuoted (double : Bool) : (fuel : Nat) → List Glyph → Option (List Char × List Glyph)
  | 0, _ => none
  | _ + 1, [] => none
  | fuel + 1, glyph :: rest =>
      if isBoundary (glyph :: rest) then none
      else if isBlank glyph.char || isBreak glyph.char then do
        let (gap, rest) ← Gap.empty.read 0 (glyph :: rest)
        let (text, rest) ← readQuoted double fuel rest
        return (gap.text ++ text, rest)
      else if isEscapedBreak double glyph rest then do
        let (gap, rest) ← Gap.escaped.read 0 (rest.drop 1)
        let (text, rest) ← readQuoted double fuel rest
        return (gap.text ++ text, rest)
      else do
        match ← readQuotedCharacter double glyph rest with
        | (none, rest) => return ([], rest)
        | (some character, rest) =>
            let (text, rest) ← readQuoted double fuel rest
            return (character :: text, rest)

/-! ### Plain texts -/

def isFlowIndicator (character : Char) : Bool :=
  character = ',' || character = '[' || character = ']' || character = '\x7b' ||
    character = '\x7d'

def endsPlain (inFlow : Bool) (glyph : Glyph) (rest : List Glyph) : Bool :=
  (glyph.char = ':' && endsWord rest) || (inFlow && isFlowIndicator glyph.char)

/-- Whether a colon stands where it is neither text nor a separator. -/
def isStrayColon (inFlow : Bool) (glyph : Glyph) : List Glyph → Bool
  | [] => false
  | next :: _ =>
      inFlow && glyph.char = ':' && (isFlowIndicator next.char || next.char = '?')

def readPlainWord (inFlow : Bool) : List Glyph → Option (List Char × List Glyph)
  | [] => some ([], [])
  | glyph :: rest =>
      if endsWord (glyph :: rest) then some ([], glyph :: rest)
      else if isStrayColon inFlow glyph rest then none
      else if endsPlain inFlow glyph rest then some ([], glyph :: rest)
      else do
        let (word, rest) ← readPlainWord inFlow rest
        return (glyph.char :: word, rest)

structure PlainText where
  characters : List Char
  crossed : Bool
deriving DecidableEq

/-- Reads a plain text, the gap before the next word being known. The text ends at a comment, at
the bounds of a document, and outside of brackets at a word left of the margin. -/
def readPlain (inFlow : Bool) (margin : Nat) :
    (fuel : Nat) → Gap → List Glyph → Option (PlainText × List Glyph)
  | 0, _, _ => none
  | fuel + 1, gap, glyphs =>
      if isBoundary glyphs || startsWith '#' glyphs then some (⟨[], gap.crossed⟩, glyphs)
      else do
        let (word, rest) ← readPlainWord inFlow glyphs
        let before := if word = [] then [] else gap.text ++ word
        let gap := if word = [] then gap else Gap.empty
        match rest with
        | [] => return (⟨before, gap.crossed⟩, [])
        | glyph :: after =>
            if !endsWord (glyph :: after) then return (⟨before, gap.crossed⟩, glyph :: after)
            else
              let (gap, rest) ← gap.read margin (glyph :: after)
              let outside := match rest with
                | [] => true
                | next :: _ => !inFlow && next.column < margin
              if outside then return (⟨before, gap.crossed⟩, rest)
              else
                let (text, rest) ← readPlain inFlow margin fuel gap rest
                return ({ text with characters := before ++ text.characters }, rest)

/-! ### Blocks -/

inductive Chomping where
  | strip
  | clip
  | keep
deriving DecidableEq

structure BlockHeader where
  chomping : Chomping
  increment : Option Nat
deriving DecidableEq

def readChomping : List Glyph → Option Chomping × List Glyph
  | [] => (none, [])
  | glyph :: rest =>
      if glyph.char = '+' then (some .keep, rest)
      else if glyph.char = '-' then (some .strip, rest)
      else (none, glyph :: rest)

def readIncrement : List Glyph → Option (Option Nat × List Glyph)
  | [] => some (none, [])
  | glyph :: rest =>
      if !Text.isDigit glyph.char then some (none, glyph :: rest)
      else if glyph.char = '0' then none
      else some (some (Text.digitValue glyph.char), rest)

def readBlockHeader (glyphs : List Glyph) : Option (BlockHeader × List Glyph) := do
  let (before, rest) := readChomping glyphs
  let (increment, rest) ← readIncrement rest
  let (chomping, rest) :=
    if before.isNone && increment.isSome then readChomping rest else (before, rest)
  let rest ← finishLine rest
  return (⟨chomping.getD .clip, increment⟩, rest)

structure EmptyLines where
  breaks : List Char
  deepest : Nat
deriving DecidableEq

/-- Skips empty lines and the indentation before the next line, which has no tab. Without a known
indentation all spaces belong to it. -/
def readEmptyLines (indentation : Option Nat) (found : EmptyLines) :
    List Glyph → Option (EmptyLines × List Glyph)
  | [] => some (found, [])
  | glyph :: rest =>
      let inside := indentation.all (fun column => glyph.column < column)
      let found := { found with deepest := max found.deepest glyph.column }
      if inside && glyph.char = ' ' then
        readEmptyLines indentation { found with deepest := max found.deepest (glyph.column + 1) }
          rest
      else if inside && glyph.char = '\t' then none
      else if isBreak glyph.char then
        readEmptyLines indentation { found with breaks := found.breaks ++ [glyph.char] } rest
      else some (found, glyph :: rest)

structure BlockText where
  characters : List Char
  lastBreak : List Char
  emptyLines : List Char
  startsBlank : Bool
deriving DecidableEq

/-- Adds the line breaks before a line; in a folded block a single one between two lines that
start with no blank stands for a space, and of several the first is dropped. -/
def BlockText.join (text : BlockText) (literal lineStartsBlank : Bool) : List Char :=
  if !literal && text.lastBreak = ['\n'] && !text.startsBlank && !lineStartsBlank then
    text.characters ++ (if text.emptyLines = [] then [' '] else text.emptyLines)
  else text.characters ++ text.lastBreak ++ text.emptyLines

def takeBreak : List Glyph → List Char × List Glyph
  | [] => ([], [])
  | glyph :: rest =>
      if isBreak glyph.char then ([glyph.char], rest) else ([], glyph :: rest)

def readBlockLines (literal : Bool) (indentation : Nat) :
    (fuel : Nat) → BlockText → List Glyph → Option (BlockText × List Glyph)
  | 0, _, _ => none
  | _ + 1, text, [] => some (text, [])
  | fuel + 1, text, glyph :: rest =>
      if glyph.column ≠ indentation then some (text, glyph :: rest)
      else do
        let startsBlank := isBlank glyph.char
        let (line, rest) := takeRun (fun character => !isBreak character) (glyph :: rest)
        let (lastBreak, rest) := takeBreak rest
        let (empty, rest) ← readEmptyLines (some indentation) ⟨[], 0⟩ rest
        readBlockLines literal indentation fuel
          ⟨text.join literal startsBlank ++ line, lastBreak, empty.breaks, startsBlank⟩ rest

def BlockText.chomp (text : BlockText) : Chomping → List Char
  | .strip => text.characters
  | .clip => text.characters ++ text.lastBreak
  | .keep => text.characters ++ text.lastBreak ++ text.emptyLines

/-- A block from behind its indicator on. Its indentation is counted from the margin, or taken
from its first line. -/
def readBlock (literal : Bool) (margin : Nat) (glyphs : List Glyph) :
    Option (List Char × List Glyph) := do
  let (header, rest) ← readBlockHeader glyphs
  let given := header.increment.map (fun increment => margin - 1 + increment)
  let (empty, rest) ← readEmptyLines given ⟨[], 0⟩ rest
  let indentation := given.getD (max empty.deepest (max margin 1))
  let (text, rest) ←
    readBlockLines literal indentation (rest.length + 1) ⟨[], [], empty.breaks, false⟩ rest
  return (text.chomp header.chomping, rest)

end CheckBinding.Yaml
