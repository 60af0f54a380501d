import CheckBinding.Text.Blank
import CheckBinding.Text.Letters
import CheckBinding.Text.Pieces
import CheckBinding.Pattern.Basic

/-!
Reading regular expressions.

The reader walks over the remaining characters. In spaced mode it skips white space and comments
where the format allows them; the mode lasts to the end of the group that switched it. Every step
takes a character, so the length of the expression bounds the steps.
-/

namespace CheckBinding.Pattern

open Text

structure Cursor where
  rest : List Char
  spaced : Bool
  names : List (List Char)

def skipIgnored (inComment : Bool) : List Char → List Char
  | [] => []
  | head :: rest =>
      if inComment then skipIgnored (head ≠ '\n') rest
      else if isBlank head then skipIgnored false rest
      else if head = '#' then skipIgnored true rest
      else head :: rest

namespace Cursor

def settle (cursor : Cursor) : Cursor :=
  if cursor.spaced then { cursor with rest := skipIgnored false cursor.rest } else cursor

def step (cursor : Cursor) : Cursor :=
  { cursor with rest := cursor.rest.drop 1 }

/-- Steps over one character and what the spaced mode ignores after it. -/
def stride (cursor : Cursor) : Cursor :=
  cursor.step.settle

def head? (cursor : Cursor) : Option Char :=
  cursor.rest.head?

def peek? (cursor : Cursor) : Option Char :=
  cursor.stride.head?

end Cursor

/-! ### Escapes -/

inductive Element where
  | literal (literal : Literal)
  | assertion
  | dot
  | property (query : PropertyQuery)
  | short (kind : ShortClass) (negated : Bool)

def Element.toNode : Element → Node
  | .literal written => .literal written
  | .assertion => .assertion
  | .dot => .dot
  | .property query => .property query
  | .short kind negated => .short kind negated

def Element.toClassSet? : Element → Option ClassSet
  | .literal written => some (.literal written)
  | .property query => some (.property query)
  | .short kind negated => some (.short kind negated)
  | .assertion | .dot => none

def Element.toLiteral? : Element → Option Literal
  | .literal written => some written
  | _ => none

def scalar? (point : Nat) : Option Char :=
  if point < 0xD800 ∨ (0xE000 ≤ point ∧ point < 0x110000) then some (Char.ofNat point) else none

def readHexDigits : Nat → Nat → Cursor → Option (Nat × Cursor)
  | 0, value, cursor => some (value, cursor)
  | count + 1, value, cursor => do
      let digit ← hexValue? (← cursor.head?)
      readHexDigits count (value * 16 + digit) cursor.stride

/-- Collects characters up to a closing brace, and steps before the brace. -/
def collectToBrace : Nat → Cursor → Option (List Char × Cursor)
  | 0, _ => none
  | steps + 1, cursor => do
      let head ← cursor.head?
      if head = '\x7d' then return ([], cursor)
      let (characters, cursor) ← collectToBrace steps cursor.stride
      return (head :: characters, cursor)

def readHex (count : Nat) (asByte : Bool) (cursor : Cursor) : Option (Element × Cursor) := do
  let cursor := cursor.stride
  if (← cursor.head?) = '\x7b' then
    let cursor := cursor.stride
    let (digits, cursor) ← collectToBrace (cursor.rest.length + 1) cursor
    if digits.isEmpty then none
    let values ← digits.mapM hexValue?
    let character ← scalar? (values.foldl (fun value digit => value * 16 + digit) 0)
    return (.literal ⟨character, false⟩, cursor.stride)
  else
    let (point, cursor) ← readHexDigits count 0 cursor
    let character ← scalar? point
    return (.literal ⟨character, asByte⟩, cursor)

def cutUnequal : List Char → Option (List Char × List Char)
  | '!' :: '=' :: rest => some ([], rest)
  | head :: rest => (cutUnequal rest).map (fun (before, after) => (head :: before, after))
  | [] => none

def queryOf (content : List Char) : PropertyQuery :=
  match cutUnequal content with
  | some (name, value) => .valued (String.ofList name) (String.ofList value)
  | none =>
      match cutChars ':' content with
      | some (name, value) => .valued (String.ofList name) (String.ofList value)
      | none =>
          match cutChars '=' content with
          | some (name, value) => .valued (String.ofList name) (String.ofList value)
          | none => .named (String.ofList content)

def readProperty (cursor : Cursor) : Option (Element × Cursor) := do
  let cursor := cursor.stride
  let head ← cursor.head?
  if head = '\x7b' then
    let cursor := cursor.stride
    let (content, cursor) ← collectToBrace (cursor.rest.length + 1) cursor
    return (.property (queryOf content), cursor.step)
  else if head = '\\' then none
  else return (.property (.letter head), cursor.step)

def isMeta (character : Char) : Bool :=
  ['\\', '.', '+', '*', '?', '(', ')', '|', '[', ']', '\x7b', '\x7d', '^', '$', '#', '&', '-',
    '~'].contains character

/-- The characters that may be escaped without need: those of ASCII that are no letters, digits
or angle brackets. -/
def isEscapable (character : Char) : Bool :=
  character.toNat < 128 && !character.isAlphanum && character ≠ '<' && character ≠ '>'

def isBoundaryChar (character : Char) : Bool :=
  character.isAlpha || character = '-'

/-- Reads the name in braces after a word boundary; a count in braces is left alone. -/
def readBoundaryName (cursor : Cursor) : Option Cursor := do
  let inside := cursor.stride
  let head ← inside.head?
  if !isBoundaryChar head then return cursor
  let rec collect : Nat → Cursor → List Char × Cursor
    | 0, cursor => ([], cursor)
    | steps + 1, cursor =>
        match cursor.head? with
        | some head =>
            if isBoundaryChar head then
              let (name, cursor) := collect steps cursor.stride
              (head :: name, cursor)
            else ([], cursor)
        | none => ([], cursor)
  let (name, after) := collect (inside.rest.length + 1) inside
  if (← after.head?) ≠ '\x7d' then none
  if ["start", "end", "start-half", "end-half"].contains (String.ofList name) then
    return after.step
  else none

def readEscape (cursor : Cursor) : Option (Element × Cursor) := do
  let cursor := cursor.step
  let head ← cursor.head?
  let after := cursor.step
  let literal (point : Nat) : Option (Element × Cursor) :=
    some (.literal ⟨Char.ofNat point, false⟩, after)
  if isDigit head then none
  else if head = 'x' then readHex 2 true cursor
  else if head = 'u' then readHex 4 false cursor
  else if head = 'U' then readHex 8 false cursor
  else if head = 'p' ∨ head = 'P' then readProperty cursor
  else if head = 'd' then return (.short .digit false, after)
  else if head = 's' then return (.short .space false, after)
  else if head = 'w' then return (.short .word false, after)
  else if head = 'D' then return (.short .digit true, after)
  else if head = 'S' then return (.short .space true, after)
  else if head = 'W' then return (.short .word true, after)
  else if isMeta head ∨ isEscapable head then literal head.toNat
  else if head = 'a' then literal 7
  else if head = 'f' then literal 12
  else if head = 't' then literal 9
  else if head = 'n' then literal 10
  else if head = 'r' then literal 13
  else if head = 'v' then literal 11
  else if head = 'b' then
    if after.head? = some '\x7b' then return (.assertion, ← readBoundaryName after)
    else return (.assertion, after)
  else if ['A', 'z', 'B', '<', '>'].contains head then return (.assertion, after)
  else none

/-! ### Bracketed classes -/

def posixNames : List String :=
  ["alnum", "alpha", "ascii", "blank", "cntrl", "digit", "graph", "lower", "print", "punct",
    "space", "upper", "word", "xdigit"]

def readPosix? (cursor : Cursor) : Option (ClassSet × Cursor) :=
  match cursor.rest with
  | '[' :: ':' :: rest =>
      let (negated, rest) := match rest with
        | '^' :: rest => (true, rest)
        | rest => (false, rest)
      match cutChars ':' rest with
      | some (name, ']' :: after) =>
          if posixNames.contains (String.ofList name) then
            some (.posix negated, { cursor with rest := after })
          else none
      | _ => none
  | _ => none

def readClassElement (cursor : Cursor) : Option (Element × Cursor) := do
  let head ← cursor.head?
  if head = '\\' then readEscape cursor
  else return (.literal ⟨head, false⟩, cursor.step)

/-- Reads an element inside of brackets, or a range of two. A hyphen before the closing bracket or
before another hyphen makes no range. -/
def readClassRange (cursor : Cursor) : Option (ClassSet × Cursor) := do
  let (first, cursor) ← readClassElement cursor
  let cursor := cursor.settle
  let head ← cursor.head?
  if head ≠ '-' ∨ cursor.peek? = some ']' ∨ cursor.peek? = some '-' then
    return (← first.toClassSet?, cursor)
  else
    let cursor := cursor.stride
    let (last, cursor) ← readClassElement cursor
    let low ← first.toLiteral?
    let high ← last.toLiteral?
    if low.character ≤ high.character then return (.range low high, cursor) else none

def unionOf : List ClassSet → ClassSet
  | [] => .empty
  | [item] => item
  | items => .union items.reverse

/-- Joins a set to the operation that waits for its right side. -/
def joinPending (pending : Option (SetOperation × ClassSet)) (items : List ClassSet) : ClassSet :=
  match pending with
  | none => unionOf items
  | some (operation, left) => .combined operation left (unionOf items)

def setOperation? (cursor : Cursor) : Option SetOperation :=
  match cursor.rest with
  | '&' :: '&' :: _ => some .intersection
  | '-' :: '-' :: _ => some .difference
  | '~' :: '~' :: _ => some .symmetricDifference
  | _ => none

def leadingHyphens : Nat → Cursor → List ClassSet → Option (List ClassSet × Cursor)
  | 0, _, _ => none
  | steps + 1, cursor, items => do
      if (← cursor.head?) = '-' then
        leadingHyphens steps cursor.stride (.literal ⟨'-', false⟩ :: items)
      else return (items, cursor)

/-- Reads what opens a bracketed class: the negation, leading hyphens, and a closing bracket that
stands first and so is a literal. -/
def readClassOpening (cursor : Cursor) : Option (Bool × List ClassSet × Cursor) := do
  let cursor := cursor.stride
  let head ← cursor.head?
  let negated := decide (head = '^')
  let cursor := if negated then cursor.stride else cursor
  let (items, cursor) ← leadingHyphens (cursor.rest.length + 1) cursor []
  let head ← cursor.head?
  if items.isEmpty ∧ head = ']' then
    let cursor := cursor.stride
    let _ ← cursor.head?
    return (negated, [.literal ⟨']', false⟩], cursor)
  else return (negated, items, cursor)

mutual

def readClass : Nat → Cursor → Option (Bool × ClassSet × Cursor)
  | 0, _ => none
  | steps + 1, cursor => do
      let (negated, items, cursor) ← readClassOpening cursor
      let (set, cursor) ← readClassBody steps cursor items none
      return (negated, set, cursor)

def readClassBody : Nat → Cursor → List ClassSet → Option (SetOperation × ClassSet) →
    Option (ClassSet × Cursor)
  | 0, _, _, _ => none
  | steps + 1, cursor, items, pending => do
      let cursor := cursor.settle
      let head ← cursor.head?
      if head = '[' then
        match readPosix? cursor with
        | some (set, cursor) => readClassBody steps cursor (set :: items) pending
        | none =>
            let (negated, set, cursor) ← readClass steps cursor
            readClassBody steps cursor (.bracketed negated set :: items) pending
      else if head = ']' then return (joinPending pending items, cursor.step)
      else
        match setOperation? cursor with
        | some operation =>
            readClassBody steps cursor.step.step [] (some (operation, joinPending pending items))
        | none =>
            let (set, cursor) ← readClassRange cursor
            readClassBody steps cursor (set :: items) pending

end

/-! ### Repetitions -/

def skipLazyMark (cursor : Cursor) : Cursor :=
  if cursor.head? = some '?' then cursor.step else cursor

def skipBlanks (cursor : Cursor) : Cursor :=
  { cursor with rest := cursor.rest.dropWhile isBlank }

def collectDigits : Nat → Cursor → List Char × Cursor
  | 0, cursor => ([], cursor)
  | steps + 1, cursor =>
      match cursor.head? with
      | some head =>
          if isDigit head then
            let (digits, cursor) := collectDigits steps cursor.stride
            (head :: digits, cursor)
          else ([], cursor)
      | none => ([], cursor)

def readCount (cursor : Cursor) : Option (Nat × Cursor) :=
  let cursor := skipBlanks cursor
  let (digits, cursor) := collectDigits (cursor.rest.length + 1) cursor
  let cursor := skipBlanks cursor
  let value := natOfDigits digits
  if digits.isEmpty ∨ Nat.pow 2 32 ≤ value then none else some (value, cursor)

def readCounts (cursor : Cursor) : Option (Nat × Option Nat × Cursor) := do
  let cursor := cursor.stride
  let (least, cursor) ← readCount cursor
  let (most, cursor) ←
    if cursor.head? = some ',' then do
      let cursor := cursor.stride
      if (← cursor.head?) = '\x7d' then pure (none, cursor)
      else do
        let (most, cursor) ← readCount cursor
        pure (some most, cursor)
    else pure (some least, cursor)
  if cursor.head? ≠ some '\x7d' then none
  unless most.all (fun most => least ≤ most) do none
  return (least, most, skipLazyMark cursor.stride)

/-- Wraps the last item of a sequence, kept in reverse; flags alone cannot be repeated. -/
def repeatLast (least : Nat) (most : Option Nat) : List Node → Option (List Node)
  | [] => none
  | .empty :: _ => none
  | .setting _ :: _ => none
  | last :: before => some (.repetition least most last :: before)

/-! ### Groups -/

def flag? : Char → Option Flag
  | 'i' => some .caseless
  | 'm' => some .multiLine
  | 's' => some .dotMatchesNewline
  | 'U' => some .swapGreed
  | 'u' => some .unicode
  | 'R' => some .carriageReturn
  | 'x' => some .spaced
  | _ => none

/-- Reads flags up to the colon or parenthesis that ends them. No flag may be named twice, and a
minus sign must stand once at most and before a flag. -/
def readFlags (negating lastWasMinus : Bool) (setting : Setting) :
    List Char → Option (Setting × List Char)
  | [] => none
  | head :: rest =>
      if head = ':' ∨ head = ')' then
        if lastWasMinus then none else some (setting, head :: rest)
      else if head = '-' then
        if negating then none else readFlags true true setting rest
      else
        match flag? head with
        | none => none
        | some flag =>
            if setting.any (fun entry => entry.1 = flag) then none
            else readFlags negating false (setting ++ [(flag, !negating)]) rest

def isNameChar (first : Bool) (character : Char) : Bool :=
  if first then character = '_' || isAlphabetic character
  else character = '_' || character = '.' || character = '[' || character = ']' ||
    isAlphanumeric character

def readGroupName (cursor : Cursor) : Option Cursor := do
  let (name, after) ← cutChars '>' cursor.rest
  match name with
  | [] => none
  | first :: others =>
      if isNameChar true first ∧ others.all (isNameChar false) ∧ name ∉ cursor.names then
        return { cursor with rest := after, names := name :: cursor.names }
      else none

inductive Opening where
  | setting (setting : Setting)
  | group (setting : Setting)

/-- Reads what follows an opening parenthesis up to the content of the group. Looking around is
not supported. -/
def readOpening (cursor : Cursor) : Option (Opening × Cursor) := do
  let cursor := cursor.stride
  match cursor.rest with
  | '?' :: '=' :: _ => none
  | '?' :: '!' :: _ => none
  | '?' :: '<' :: '=' :: _ => none
  | '?' :: '<' :: '!' :: _ => none
  | '?' :: 'P' :: '<' :: rest =>
      return (.group [], ← readGroupName { cursor with rest := rest })
  | '?' :: '<' :: rest =>
      return (.group [], ← readGroupName { cursor with rest := rest })
  | '?' :: rest =>
      let (setting, rest) ← readFlags false false [] rest
      match rest with
      | ')' :: rest =>
          if setting.isEmpty then none
          else return (.setting setting, { cursor with rest := rest })
      | ':' :: rest => return (.group setting, { cursor with rest := rest })
      | _ => none
  | _ => return (.group [], cursor)

def Setting.value? (setting : Setting) (flag : Flag) : Option Bool :=
  List.lookup flag setting

/-! ### Expressions -/

def sequenceOf : List Node → Node
  | [] => .empty
  | [item] => item
  | items => .sequence items.reverse

def alternationOf (branches : List Node) (last : Node) : Node :=
  match branches with
  | [] => last
  | branches => .alternation (last :: branches).reverse

/-- Reads up to the end or to a closing parenthesis, which is left. The items of the current
branch and the branches before it are kept in reverse. -/
def readBranches : Nat → Cursor → List Node → List Node → Option (Node × Cursor)
  | 0, _, _, _ => none
  | steps + 1, cursor, items, branches =>
      let cursor := cursor.settle
      match cursor.head? with
      | none => some (alternationOf branches (sequenceOf items), cursor)
      | some head =>
          if head = ')' then some (alternationOf branches (sequenceOf items), cursor)
          else if head = '|' then
            readBranches steps cursor.step [] (sequenceOf items :: branches)
          else if head = '(' then do
            let (opening, inside) ← readOpening cursor
            match opening with
            | .setting setting =>
                let spaced := (setting.value? .spaced).getD cursor.spaced
                readBranches steps { inside with spaced := spaced } (.setting setting :: items)
                  branches
            | .group setting =>
                let spaced := (setting.value? .spaced).getD cursor.spaced
                let (body, after) ← readBranches steps { inside with spaced := spaced } [] []
                if after.head? = some ')' then
                  readBranches steps { after.step with spaced := cursor.spaced }
                    (.group setting body :: items) branches
                else none
          else if head = '[' then do
            let (negated, set, cursor) ← readClass steps cursor
            readBranches steps cursor (.bracketed negated set :: items) branches
          else if head = '?' then do
            let items ← repeatLast 0 (some 1) items
            readBranches steps (skipLazyMark cursor.step) items branches
          else if head = '*' then do
            let items ← repeatLast 0 none items
            readBranches steps (skipLazyMark cursor.step) items branches
          else if head = '+' then do
            let items ← repeatLast 1 none items
            readBranches steps (skipLazyMark cursor.step) items branches
          else if head = '\x7b' then do
            let (least, most, cursor) ← readCounts cursor
            let items ← repeatLast least most items
            readBranches steps cursor items branches
          else if head = '\\' then do
            let (element, cursor) ← readEscape cursor
            readBranches steps cursor (element.toNode :: items) branches
          else if head = '.' then readBranches steps cursor.step (.dot :: items) branches
          else if head = '^' ∨ head = '$' then
            readBranches steps cursor.step (.assertion :: items) branches
          else readBranches steps cursor.step (.literal ⟨head, false⟩ :: items) branches

def parse? (text : String) : Option Node := do
  let characters := text.toList
  let (node, cursor) ← readBranches (characters.length + 1) ⟨characters, false, []⟩ [] []
  if cursor.rest.isEmpty then return node else none

end CheckBinding.Pattern
