import CheckBinding.Yaml.Scalar

/-!
Documents as trees.

An alias is a leaf with the number of an anchor. What the numbers stand for belongs to the whole
document, so an alias may name a node that it lies inside of.
-/

namespace CheckBinding.Yaml

structure Scalar where
  style : Style
  tag : Option String
  text : String
deriving DecidableEq

def Scalar.empty : Scalar := ⟨.plain, none, ""⟩

inductive Node where
  | scalar (scalar : Scalar)
  | sequence (items : List Node)
  | mapping (entries : List (Node × Node))
  | alias (number : Nat)

def Node.empty : Node := .scalar Scalar.empty

/-! ### Anchors -/

/-- The anchors of a document. An anchor gets the number of names known before it, so a name that
is used again moves to a new number, which a later name may get as well. -/
structure Anchors where
  names : List (String × Nat)
  numbers : List Nat
  nodes : List (Nat × Node)

namespace Anchors

def empty : Anchors := ⟨[], [], []⟩

/-- Notes an anchor before its node is read, and says which one it is in the order of the text. -/
def start (anchors : Anchors) (name : String) : Nat × Anchors :=
  let others := anchors.names.filter (fun known => known.1 ≠ name)
  let number := anchors.names.length
  (anchors.numbers.length,
    { anchors with
      names := (name, number) :: others
      numbers := anchors.numbers ++ [number] })

def finish (anchors : Anchors) (place : Nat) (node : Node) : Anchors :=
  { anchors with nodes := (place, node) :: anchors.nodes }

def numberOf? (anchors : Anchors) (name : String) : Option Nat :=
  anchors.names.lookup name

/-- The node of a number: of the last anchor in the text that got it. -/
def node? (anchors : Anchors) (number : Nat) : Option Node := do
  let places := anchors.numbers.zipIdx.filter (fun known => known.1 = number)
  let (_, place) ← places.getLast?
  anchors.nodes.lookup place

end Anchors

structure Document where
  root : Node
  anchors : Anchors

/-- What a node stands for; an alias never leads to another one. -/
def Document.resolve (document : Document) : Node → Option Node
  | .alias number => document.anchors.node? number
  | node => some node

end CheckBinding.Yaml
