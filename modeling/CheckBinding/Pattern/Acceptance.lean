import CheckBinding.Pattern.Engine
import CheckBinding.Pattern.Property
import CheckBinding.Pattern.Reader

/-!
Which regular expressions are accepted.

An expression that can be read is accepted when it nests no deeper than the limit, asks only for
Unicode properties that exist, could never match half of a character while the Unicode mode is
off, and does not grow beyond the size limit when its repetitions are unrolled.
-/

namespace CheckBinding.Pattern

def nestLimit : Nat := 250

/-- The bytes that the unrolled expression may take. -/
def sizeLimit : Nat := 10 * Nat.pow 2 20

/-! ### Nesting -/

mutual

def ClassSet.depth : ClassSet → Nat
  | .bracketed _ set => set.depth + 1
  | .union items => ClassSet.depths items + 1
  | .combined _ left right => max left.depth right.depth + 1
  | _ => 0

def ClassSet.depths : List ClassSet → Nat
  | [] => 0
  | item :: items => max item.depth (ClassSet.depths items)

end

mutual

def Node.depth : Node → Nat
  | .bracketed _ set => set.depth + 1
  | .repetition _ _ body => body.depth + 1
  | .group _ body => body.depth + 1
  | .alternation branches => Node.depths branches + 1
  | .sequence items => Node.depths items + 1
  | _ => 0

def Node.depths : List Node → Nat
  | [] => 0
  | item :: items => max item.depth (Node.depths items)

end

/-! ### Modes -/

structure Modes where
  unicode : Bool
  caseless : Bool

def Modes.apply (modes : Modes) (setting : Setting) : Modes :=
  { unicode := (setting.value? .unicode).getD modes.unicode
    caseless := (setting.value? .caseless).getD modes.caseless }

def Literal.isHighByte (literal : Literal) : Bool :=
  literal.asByte && 127 < literal.character.toNat

def Literal.isAscii (literal : Literal) : Bool :=
  literal.character.toNat ≤ 127

mutual

/-- For a class of bytes, whether it has bytes beyond ASCII; no answer when it is refused. -/
def ClassSet.highBytes? : ClassSet → Option Bool
  | .empty => some false
  | .literal written => if written.isAscii then some false else none
  | .range low high => if low.isAscii && high.isAscii then some false else none
  | .posix negated => some negated
  | .property _ => none
  | .short _ negated => if negated then none else some false
  | .bracketed negated set => set.highBytes?.map (fun high => high != negated)
  | .union items => ClassSet.anyHighBytes? items
  | .combined operation left right => do
      let inLeft ← left.highBytes?
      let inRight ← right.highBytes?
      match operation with
      | .intersection => return inLeft && inRight
      | .difference => return inLeft && !inRight
      | .symmetricDifference => return inLeft != inRight

def ClassSet.anyHighBytes? : List ClassSet → Option Bool
  | [] => some false
  | item :: items => do
      let here ← item.highBytes?
      let there ← ClassSet.anyHighBytes? items
      return here || there

end

mutual

def ClassSet.propertiesKnown : ClassSet → Bool
  | .property query => query.isKnown
  | .bracketed _ set => set.propertiesKnown
  | .union items => ClassSet.allPropertiesKnown items
  | .combined _ left right => left.propertiesKnown && right.propertiesKnown
  | _ => true

def ClassSet.allPropertiesKnown : List ClassSet → Bool
  | [] => true
  | item :: items => item.propertiesKnown && ClassSet.allPropertiesKnown items

end

/-! ### Size -/

def stateSize : Nat := 32

def transitionSize : Nat := 8

def literalSize (caseless : Bool) (literal : Literal) : Nat :=
  let bytes := literal.character.utf8Size * stateSize
  if caseless && literal.character.isAlpha then bytes + 2 * transitionSize else bytes

def shortClassSize (unicode : Bool) : ShortClass → Nat
  | .digit => if unicode then 9000 else stateSize
  | .space => if unicode then 900 else stateSize
  | .word => if unicode then 46000 else stateSize

/-- The properties of a dozen ranges at most. -/
def narrowProperties : List String :=
  ["any", "ascii", "cc", "control", "cntrl", "co", "privateuse", "lt", "titlecaseletter", "me",
    "enclosingmark", "nl", "letternumber", "pc", "connectorpunctuation", "pf", "finalpunctuation",
    "pi", "initialpunctuation", "z", "separator", "zl", "lineseparator", "zp",
    "paragraphseparator", "zs", "spaceseparator", "ahex", "asciihexdigit", "bidic", "bidicontrol",
    "hex", "hexdigit", "joinc", "joincontrol", "patws", "patternwhitespace", "ri",
    "regionalindicator", "wspace", "whitespace", "space"]

def nameSize (name : String) : Nat :=
  if narrowProperties.contains (looseName name) then 900 else 30000

/-- About how many bytes a Unicode property takes. -/
def PropertyQuery.size : PropertyQuery → Nat
  | .letter name => nameSize (String.singleton name)
  | .named name => nameSize name
  | .valued name value =>
      match looseName name with
      | "gc" | "generalcategory" => nameSize value
      | _ => 30000

mutual

def ClassSet.size (unicode : Bool) : ClassSet → Nat
  | .empty => 0
  | .literal written => if written.isAscii then transitionSize else 3 * stateSize
  | .range low high =>
      if low.isAscii && high.isAscii then transitionSize else 12 * stateSize
  | .posix _ => 4 * transitionSize
  | .property query => query.size
  | .short kind _ => shortClassSize unicode kind
  | .bracketed negated set => set.size unicode + if negated then 12 * stateSize else 0
  | .union items => ClassSet.sizes unicode items
  | .combined _ left right => left.size unicode + right.size unicode

def ClassSet.sizes (unicode : Bool) : List ClassSet → Nat
  | [] => 0
  | item :: items => item.size unicode + ClassSet.sizes unicode items

end

mutual

/-- Whether an expression matches the empty text at most. -/
def Node.isWidthless : Node → Bool
  | .empty => true
  | .setting _ => true
  | .assertion => true
  | .repetition _ most body => most = some 0 || body.isWidthless
  | .group _ body => body.isWidthless
  | .alternation branches => Node.allWidthless branches
  | .sequence items => Node.allWidthless items
  | _ => false

def Node.allWidthless : List Node → Bool
  | [] => true
  | item :: items => item.isWidthless && Node.allWidthless items

end

/-- How often the body of a repetition stands in the unrolled expression. -/
def rounds (least : Nat) (most : Option Nat) (body : Node) : Nat :=
  if most = some 0 then 0
  else if body.isWidthless then 1
  else max 1 (most.getD least)

/-! ### Acceptance -/

mutual

/-- The size of an expression and the modes after it; no answer when it is refused. -/
def Node.weigh (modes : Modes) : Node → Option (Nat × Modes)
  | .empty => some (stateSize, modes)
  | .setting chosen => some (stateSize, modes.apply chosen)
  | .literal written =>
      if written.isHighByte && !modes.unicode then none
      else some (literalSize modes.caseless written, modes)
  | .dot => if modes.unicode then some (12 * stateSize, modes) else none
  | .assertion => some (stateSize, modes)
  | .property query =>
      if modes.unicode && query.isKnown then some (query.size, modes) else none
  | .short kind negated =>
      if modes.unicode || !negated then some (shortClassSize modes.unicode kind, modes) else none
  | .bracketed negated set =>
      let size := stateSize + set.size modes.unicode + if negated then 12 * stateSize else 0
      if modes.unicode then
        if set.propertiesKnown then some (size, modes) else none
      else if set.highBytes? = some negated then some (size, modes)
      else none
  | .repetition least most body => do
      let (size, _) ← body.weigh modes
      return (size * rounds least most body + 2 * stateSize, modes)
  | .group chosen body => do
      let (size, _) ← body.weigh (modes.apply chosen)
      return (size + 2 * stateSize, modes)
  | .alternation branches => do
      let (size, modes) ← Node.weighAll modes branches
      return (size + stateSize, modes)
  | .sequence items => Node.weighAll modes items

def Node.weighAll (modes : Modes) : List Node → Option (Nat × Modes)
  | [] => some (0, modes)
  | item :: items => do
      let (size, modes) ← item.weigh modes
      let (rest, modes) ← Node.weighAll modes items
      return (size + rest, modes)

end

inductive Fault where
  | malformed
  | tooLarge
deriving DecidableEq

def Fault.message : Fault → String
  | .malformed => "regex parse error: not a supported expression"
  | .tooLarge => "Compiled regex exceeds size limit of 10485760 bytes."

def fault? (text : String) : Option Fault :=
  match parse? text with
  | none => some .malformed
  | some node =>
      if nestLimit < node.depth then some .malformed
      else
        match node.weigh ⟨true, false⟩ with
        | none => some .malformed
        | some (size, _) => if sizeLimit < size then some .tooLarge else none

instance : Engine where
  refusal? text := (fault? text).map Fault.message
  takes text := fault? text = none

end CheckBinding.Pattern
