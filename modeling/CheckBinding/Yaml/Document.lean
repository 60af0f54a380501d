import CheckBinding.Yaml.Layout
import CheckBinding.Yaml.Node

/-!
From tokens to the document.

A text holds one document. Where a node is expected and the collection goes on or ends, the node
is empty.
-/

namespace CheckBinding.Yaml

/-! ### Reading tokens -/

structure Progress where
  handles : List (String × String)
  anchors : Anchors
  tokens : List Token

abbrev Step (Value : Type) : Type := StateT Progress Option Value

namespace Step

def peek : Step (Option Token) :=
  return (← get).tokens.head?

def skip : Step Unit :=
  modify (fun progress => { progress with tokens := progress.tokens.drop 1 })

/-- Drops a certain token and says whether it came. -/
def accept (token : Token) : Step Bool := do
  if (← peek) = some token then
    skip
    return true
  else return false

def fail {Value : Type} : Step Value := StateT.lift none

def comes (tokens : List Token) : Step Bool := do
  match ← peek with
  | some token => return tokens.contains token
  | none => return false

end Step

/-! ### Labels -/

structure Labels where
  anchor : Option String
  tag : Option WrittenTag
deriving DecidableEq

def readAnchor : Step (Option String) := do
  match ← Step.peek with
  | some (.anchor name) => do
      Step.skip
      return some name
  | _ => return none

def readTagToken : Step (Option WrittenTag) := do
  match ← Step.peek with
  | some (.tag tag) => do
      Step.skip
      return some tag
  | _ => return none

def readLabels : Step Labels := do
  match ← readAnchor with
  | some name => return ⟨some name, ← readTagToken⟩
  | none =>
      let tag ← readTagToken
      let anchor ← if tag.isSome then readAnchor else pure none
      return ⟨anchor, tag⟩

def fullTag (tag : WrittenTag) : Step String := do
  if tag.handle = "" then return tag.suffix
  else
    match (← get).handles.lookup tag.handle with
    | some stands => return stands ++ tag.suffix
    | none => Step.fail

def nonSpecificTag : String := "!"

def startAnchor (name : String) : Step Nat :=
  modifyGet (fun progress =>
    let (place, anchors) := progress.anchors.start name
    (place, { progress with anchors }))

def finishAnchor (place : Option Nat) (node : Node) : Step Node := do
  match place with
  | none => return node
  | some place =>
      modify (fun progress => { progress with anchors := progress.anchors.finish place node })
      return node

/-! ### Nodes -/

mutual

/-- A node. A collection without brackets cannot stand inside of brackets, and the value of a key
may be a sequence whose entries stand at the column of the key. -/
def readNode (block indentless : Bool) : (fuel : Nat) → Step Node
  | 0 => Step.fail
  | fuel + 1 => do
      match ← Step.peek with
      | some (.alias name) =>
          Step.skip
          match (← get).anchors.numberOf? name with
          | some number => return .alias number
          | none => Step.fail
      | _ => do
          let labels ← readLabels
          let tag ← labels.tag.mapM fullTag
          let place ← labels.anchor.mapM startAnchor
          finishAnchor place (← readContent block indentless labels tag fuel)

/-- What follows the labels of a node; a labelled node may be empty. -/
def readContent (block indentless : Bool) (labels : Labels) (tag : Option String) :
    (fuel : Nat) → Step Node
  | 0 => Step.fail
  | fuel + 1 => do
      match ← Step.peek with
      | some .blockEntry =>
          if indentless then return .sequence (← readIndentless fuel)
          else readNothing labels tag
      | some (.scalar style text) =>
          Step.skip
          let named := tag.filter (fun tag => tag ≠ nonSpecificTag)
          return .scalar ⟨style, named, text⟩
      | some .flowSequenceStart =>
          Step.skip
          return .sequence (← readFlowSequence true fuel)
      | some .flowMappingStart =>
          Step.skip
          return .mapping (← readFlowMapping true fuel)
      | some .blockSequenceStart =>
          if block then
            Step.skip
            return .sequence (← readBlockSequence fuel)
          else readNothing labels tag
      | some .blockMappingStart =>
          if block then
            Step.skip
            return .mapping (← readBlockMapping fuel)
          else readNothing labels tag
      | _ => readNothing labels tag

def readNothing (labels : Labels) (tag : Option String) : Step Node :=
  if labels.anchor.isSome || labels.tag.isSome then return .scalar ⟨.plain, tag, ""⟩
  else Step.fail

def readBlockSequence : (fuel : Nat) → Step (List Node)
  | 0 => Step.fail
  | fuel + 1 => do
      if ← Step.accept .blockEntry then
        let item ← if ← Step.comes [.blockEntry, .blockEnd] then pure Node.empty
          else readNode true false fuel
        return item :: (← readBlockSequence fuel)
      else if ← Step.accept .blockEnd then return []
      else Step.fail

def readIndentless : (fuel : Nat) → Step (List Node)
  | 0 => Step.fail
  | fuel + 1 => do
      if ← Step.accept .blockEntry then
        let item ← if ← Step.comes [.blockEntry, .key, .value, .blockEnd] then pure Node.empty
          else readNode true false fuel
        return item :: (← readIndentless fuel)
      else return []

def readBlockSide : (fuel : Nat) → Step Node
  | 0 => Step.fail
  | fuel + 1 => do
      if ← Step.comes [.key, .value, .blockEnd] then return Node.empty
      else readNode true true fuel

def readBlockMapping : (fuel : Nat) → Step (List (Node × Node))
  | 0 => Step.fail
  | fuel + 1 => do
      if ← Step.accept .key then
        let key ← readBlockSide fuel
        let value ← if ← Step.accept .value then readBlockSide fuel else pure Node.empty
        return (key, value) :: (← readBlockMapping fuel)
      else if ← Step.accept .blockEnd then return []
      else Step.fail

def readFlowSide (ends : List Token) : (fuel : Nat) → Step Node
  | 0 => Step.fail
  | fuel + 1 => do
      if ← Step.comes ends then return Node.empty
      else readNode false false fuel

def readFlowValue (ends : List Token) : (fuel : Nat) → Step Node
  | 0 => Step.fail
  | fuel + 1 => do
      if ← Step.accept .value then readFlowSide ends fuel else return Node.empty

/-- The single entry of a mapping inside of a sequence in brackets, behind the mark of its key.
Where the key is empty, the token in its place is lost. -/
def readFlowPair : (fuel : Nat) → Step Node
  | 0 => Step.fail
  | fuel + 1 => do
      let key ← if ← Step.comes [.value, .flowEntry, .flowSequenceEnd] then
          Step.skip
          pure Node.empty
        else readNode false false fuel
      let value ← readFlowValue [.flowEntry, .flowSequenceEnd] fuel
      return .mapping [(key, value)]

def readFlowSequence (first : Bool) : (fuel : Nat) → Step (List Node)
  | 0 => Step.fail
  | fuel + 1 => do
      if ← Step.accept .flowSequenceEnd then return []
      else
        let separated ← if first then pure true else Step.accept .flowEntry
        if !separated then Step.fail
        else if ← Step.accept .flowSequenceEnd then return []
        else
          let item ← if ← Step.accept .key then readFlowPair fuel
            else readNode false false fuel
          return item :: (← readFlowSequence false fuel)

def readFlowMapping (first : Bool) : (fuel : Nat) → Step (List (Node × Node))
  | 0 => Step.fail
  | fuel + 1 => do
      if ← Step.accept .flowMappingEnd then return []
      else
        let separated ← if first then pure true else Step.accept .flowEntry
        if !separated then Step.fail
        else if ← Step.accept .flowMappingEnd then return []
        else if ← Step.accept .key then
          let key ← readFlowSide [.value, .flowEntry, .flowMappingEnd] fuel
          let value ← readFlowValue [.flowEntry, .flowMappingEnd] fuel
          return (key, value) :: (← readFlowMapping false fuel)
        else
          let key ← readNode false false fuel
          return (key, Node.empty) :: (← readFlowMapping false fuel)

end

/-! ### The document -/

def standardHandles : List (String × String) :=
  [("!", "!"), ("!!", "tag:yaml.org,2002:")]

/-- The directives in front of a document: at most one version, which is known, and one meaning
for each handle. -/
def readDirectives (versioned : Bool) : List Token → Option (List (String × String) × List Token)
  | .version major minor :: rest =>
      if versioned ∨ major ≠ 1 ∨ (minor ≠ 1 ∧ minor ≠ 2) then none
      else readDirectives true rest
  | .handle name stands :: rest => do
      let (handles, rest) ← readDirectives versioned rest
      if (handles.lookup name).isSome then none else return ((name, stands) :: handles, rest)
  | rest => some ([], rest)

def startsOther : List Token → Bool
  | [] => true
  | .version _ _ :: _ => true
  | .handle _ _ :: _ => true
  | .documentStart :: _ => true
  | .documentEnd :: _ => true
  | _ => false

def readRoot (handles : List (String × String)) (tokens : List Token) : Option Document := do
  let progress : Progress := ⟨handles ++ standardHandles, Anchors.empty, tokens⟩
  let (root, progress) ← (readNode true false (4 * tokens.length + 4)).run progress
  if progress.tokens.all (fun token => token = .documentEnd) then
    return ⟨root, progress.anchors⟩
  else none

/-- The document that tokens make. A text without any stands for an empty node, and so does a
document without content. -/
def Document.ofTokens? (tokens : List Token) : Option Document := do
  let empty : Document := ⟨Node.empty, Anchors.empty⟩
  let (handles, rest) ← readDirectives false tokens
  match rest with
  | .documentStart :: content =>
      if startsOther content then
        if content.all (fun token => token = .documentEnd) then return empty else none
      else readRoot handles content
  | [] => if tokens = [] then return empty else none
  | content => if content.length = tokens.length then readRoot handles content else none

def Document.parse? (text : String) : Option Document := do
  Document.ofTokens? (← Token.ofText? text)

end CheckBinding.Yaml
