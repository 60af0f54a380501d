import CheckBinding.Yaml.Token

/-!
From characters to tokens, by the layout of the lines.

A deeper column opens a collection and a shallower one closes those that it leaves. What turns out
to be a key is known only at the colon behind it, so every token that could start one is
remembered until its line ends.
-/

namespace CheckBinding.Yaml

/-- A place where a key may have started: the number of its token. In a collection without
brackets a token at the very column of the collection has to be a key. -/
structure KeyStart where
  token : Nat
  line : Nat
  column : Nat
  required : Bool
deriving DecidableEq

/-- The state of reading tokens. The tokens are kept latest first. The margin is the first column
right of the collection that is being read, and zero outside of all. -/
structure Layout where
  tokens : List Token
  count : Nat
  margin : Nat
  outerMargins : List Nat
  keyAllowed : Bool
  keyStart : Option KeyStart
  outerKeyStarts : List (Option KeyStart)
deriving DecidableEq

namespace Layout

def initial : Layout := ⟨[], 0, 0, [], true, none, []⟩

def inFlow (layout : Layout) : Bool :=
  !layout.outerKeyStarts.isEmpty

def emit (layout : Layout) (token : Token) : Layout :=
  { layout with tokens := token :: layout.tokens, count := layout.count + 1 }

def insert (layout : Layout) (token : Token) (place : Nat) : Layout :=
  { layout with
    tokens := layout.tokens.insertIdx (layout.count - place) token
    count := layout.count + 1 }

def allowKey (layout : Layout) (allowed : Bool) : Layout :=
  { layout with keyAllowed := allowed }

/-! ### Keys -/

/-- The longest distance between the start of a key and its colon. -/
def longestKey : Nat := 1024

def KeyStart.reaches (start : KeyStart) (glyph : Glyph) : Bool :=
  start.line = glyph.line && glyph.column ≤ start.column + longestKey

def forget (glyph : Glyph) : Option KeyStart → Option (Option KeyStart)
  | none => some none
  | some start =>
      if KeyStart.reaches start glyph then some (some start)
      else if start.required then none
      else some none

def forgetStarts (layout : Layout) (glyph : Glyph) : Option Layout := do
  let keyStart ← forget glyph layout.keyStart
  let outerKeyStarts ← layout.outerKeyStarts.mapM (forget glyph)
  return { layout with keyStart, outerKeyStarts }

def dropStart (layout : Layout) : Option Layout :=
  match layout.keyStart with
  | none => some layout
  | some start => if start.required then none else some { layout with keyStart := none }

def rememberStart (layout : Layout) (glyph : Glyph) : Option Layout :=
  if layout.keyAllowed then do
    let layout ← layout.dropStart
    let required := !layout.inFlow && layout.margin = glyph.column + 1
    return { layout with keyStart := some ⟨layout.count, glyph.line, glyph.column, required⟩ }
  else some layout

/-! ### Indentation -/

/-- Opens a collection when the column is deeper than the one that is being read. -/
def openBlock (layout : Layout) (column : Nat) (token : Token) (place : Nat) : Layout :=
  if layout.inFlow || column < layout.margin then layout
  else
    { layout with
      margin := column + 1
      outerMargins := layout.margin :: layout.outerMargins }.insert token place

def closeTo (margin : Nat) (outer : List Nat) (layout : Layout) : Layout :=
  if layout.margin ≤ margin then layout
  else
    match outer with
    | [] => layout
    | next :: rest =>
        closeTo margin rest
          ({ layout with margin := next, outerMargins := rest }.emit .blockEnd)

def closeBefore (layout : Layout) (column : Nat) : Layout :=
  if layout.inFlow then layout
  else closeTo (column + 1) layout.outerMargins layout

def closeAll (layout : Layout) : Layout :=
  if layout.inFlow then layout else closeTo 0 layout.outerMargins layout

/-! ### Tokens -/

def atBoundary (layout : Layout) : Option Layout := do
  return (← layout.closeAll.dropStart).allowKey false

def openFlow (layout : Layout) (glyph : Glyph) (token : Token) : Option Layout := do
  let layout ← layout.rememberStart glyph
  return ({ layout with
    keyStart := none
    outerKeyStarts := layout.keyStart :: layout.outerKeyStarts }.allowKey true).emit token

def closeFlow (layout : Layout) (token : Token) : Option Layout := do
  let layout ← layout.dropStart
  let outside := match layout.outerKeyStarts with
    | [] => layout
    | keyStart :: outerKeyStarts => { layout with keyStart, outerKeyStarts }
  return (outside.allowKey false).emit token

def flowEntry (layout : Layout) : Option Layout := do
  return ((← layout.dropStart).allowKey true).emit .flowEntry

def blockEntry (layout : Layout) (glyph : Glyph) : Option Layout := do
  if !layout.inFlow && !layout.keyAllowed then none
  else
    let opened := layout.openBlock glyph.column .blockSequenceStart layout.count
    return ((← opened.dropStart).allowKey true).emit .blockEntry

def explicitKey (layout : Layout) (glyph : Glyph) : Option Layout := do
  if !layout.inFlow && !layout.keyAllowed then none
  else
    let opened := layout.openBlock glyph.column .blockMappingStart layout.count
    return ((← opened.dropStart).allowKey (!layout.inFlow)).emit .key

def value (layout : Layout) (glyph : Glyph) : Option Layout :=
  match layout.keyStart with
  | some start =>
      let marked := { layout with keyStart := none }.insert .key start.token
      let opened := marked.openBlock start.column .blockMappingStart start.token
      some ((opened.allowKey false).emit .value)
  | none =>
      if !layout.inFlow && !layout.keyAllowed then none
      else
        let opened := layout.openBlock glyph.column .blockMappingStart layout.count
        some ((opened.allowKey (!layout.inFlow)).emit .value)

def starting (layout : Layout) (glyph : Glyph) (token : Option (Token × List Glyph)) :
    Option (Layout × List Glyph) := do
  let layout ← layout.rememberStart glyph
  let (token, rest) ← token
  return ((layout.allowKey false).emit token, rest)

/-- A block of text, behind which a key may follow. -/
def block (layout : Layout) (literal : Bool) (rest : List Glyph) :
    Option (Layout × List Glyph) := do
  let layout ← layout.dropStart
  let (text, rest) ← readBlock literal layout.margin rest
  let style := if literal then Style.literal else Style.folded
  return ((layout.allowKey true).emit (.scalar style (String.ofList text)), rest)

def quoted (layout : Layout) (double : Bool) (glyph : Glyph) (rest : List Glyph) :
    Option (Layout × List Glyph) :=
  let style := if double then Style.doubleQuoted else Style.singleQuoted
  layout.starting glyph ((readQuoted double (rest.length + 1) rest).map (fun (text, rest) =>
    (.scalar style (String.ofList text), rest)))

/-- A plain text. When a line was crossed behind it, a key may follow. -/
def plain (layout : Layout) (glyph : Glyph) (rest : List Glyph) :
    Option (Layout × List Glyph) := do
  let layout ← layout.rememberStart glyph
  let (text, rest) ← readPlain layout.inFlow layout.margin (rest.length + 2) Gap.empty
    (glyph :: rest)
  return ((layout.allowKey text.crossed).emit (.scalar .plain (String.ofList text.characters)),
    rest)

def startsPlain (inFlow : Bool) (glyph : Glyph) (rest : List Glyph) : Bool :=
  let blankFollows := match rest with
    | [] => false
    | next :: _ => isBlank next.char
  !(endsWord (glyph :: rest) || isFlowIndicator glyph.char ||
      ['-', '?', ':', '#', '&', '*', '!', '|', '>', '\'', '"', '%', '@', '\x60'].contains
        glyph.char) ||
    (glyph.char = '-' && !blankFollows) ||
    (!inFlow && (glyph.char = '?' || glyph.char = ':') && !endsWord rest)

def next (layout : Layout) (glyph : Glyph) (rest : List Glyph) :
    Option (Layout × List Glyph) := do
  let here := glyph :: rest
  let indicates : Bool := layout.inFlow || endsWord rest
  if glyph.column = 0 ∧ glyph.char = '%' then
    let layout ← layout.atBoundary
    let (token, rest) ← readDirective rest
    return (layout.emit token, rest)
  else if isMarker '-' here then
    return ((← layout.atBoundary).emit .documentStart, rest.drop 2)
  else if isMarker '.' here then
    return ((← layout.atBoundary).emit .documentEnd, rest.drop 2)
  else if glyph.char = '[' then
    return (← layout.openFlow glyph .flowSequenceStart, rest)
  else if glyph.char = '\x7b' then
    return (← layout.openFlow glyph .flowMappingStart, rest)
  else if glyph.char = ']' then
    return (← layout.closeFlow .flowSequenceEnd, rest)
  else if glyph.char = '\x7d' then
    return (← layout.closeFlow .flowMappingEnd, rest)
  else if glyph.char = ',' then
    return (← layout.flowEntry, rest)
  else if glyph.char = '-' && endsWord rest then
    return (← layout.blockEntry glyph, rest)
  else if glyph.char = '?' && indicates then
    return (← layout.explicitKey glyph, rest)
  else if glyph.char = ':' && indicates then
    return (← layout.value glyph, rest)
  else if glyph.char = '*' then
    layout.starting glyph ((readName rest).map (fun (name, rest) => (.alias name, rest)))
  else if glyph.char = '&' then
    layout.starting glyph ((readName rest).map (fun (name, rest) => (.anchor name, rest)))
  else if glyph.char = '!' then
    layout.starting glyph ((readTag layout.inFlow rest).map (fun (tag, rest) =>
      (.tag tag, rest)))
  else if glyph.char = '|' && !layout.inFlow then layout.block true rest
  else if glyph.char = '>' && !layout.inFlow then layout.block false rest
  else if glyph.char = '\'' then layout.quoted false glyph rest
  else if glyph.char = '"' then layout.quoted true glyph rest
  else if startsPlain layout.inFlow glyph rest then layout.plain glyph rest
  else none

/-! ### Texts -/

/-- Skips blanks, comments and line breaks. Outside of brackets a new line may start a key, and
where a key may start no tab is skipped. -/
def skip (inFlow : Bool) : (comment keyAllowed : Bool) → List Glyph → Bool × List Glyph
  | _, keyAllowed, [] => (keyAllowed, [])
  | comment, keyAllowed, glyph :: rest =>
      if isBreak glyph.char then skip inFlow false (keyAllowed || !inFlow) rest
      else if comment then skip inFlow true keyAllowed rest
      else if glyph.char = '#' then skip inFlow true keyAllowed rest
      else if glyph.char = ' ' || (glyph.char = '\t' && (inFlow || !keyAllowed)) then
        skip inFlow false keyAllowed rest
      else (keyAllowed, glyph :: rest)

def scan : (fuel : Nat) → Layout → List Glyph → Option (List Token)
  | 0, _, _ => none
  | fuel + 1, layout, glyphs =>
      let (keyAllowed, glyphs) := skip layout.inFlow false layout.keyAllowed glyphs
      let layout := layout.allowKey keyAllowed
      match glyphs with
      | [] => (layout.closeAll.dropStart).map (fun layout => layout.tokens.reverse)
      | glyph :: rest => do
          let layout ← layout.forgetStarts glyph
          let (layout, rest) ← (layout.closeBefore glyph.column).next glyph rest
          scan fuel layout rest

end Layout

def Token.ofText? (text : String) : Option (List Token) := do
  let glyphs ← glyphs? text
  Layout.scan (glyphs.length + 1) Layout.initial glyphs

end CheckBinding.Yaml
