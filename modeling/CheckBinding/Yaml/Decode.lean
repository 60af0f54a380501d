import CheckBinding.Decoding
import CheckBinding.Yaml.Document

/-!
From documents to typed values.

A record is a mapping of its fields, or the sequence of them in declaration order; nothing at all
stands for a record of which no field is given. Any scalar is a text, but only a plain one can be
a truth value, a number, or the absence of a value.
-/

namespace CheckBinding.Yaml

abbrev Decoder (Value : Type) := Decoding.Decoder Node Value

abbrev Fields := Decoding.Fields Node

open Decoding (Fault)

/-! ### Scalars -/

def coreTag (name : String) : String := "tag:yaml.org,2002:" ++ name

def asText : Decoder String
  | .scalar scalar => .ok scalar.text
  | _ => .error (.unexpected "a text")

/-- Whether a scalar can stand for a value of a core type: a plain one can, and a literal one with
the tag of the type. -/
def Scalar.standsFor (scalar : Scalar) (name : String) : Bool :=
  match scalar.style with
  | .plain => true
  | .literal => scalar.tag = some (coreTag name)
  | _ => false

def truthValue? (text : String) : Option Bool :=
  if text ∈ ["true", "True", "TRUE"] then some true
  else if text ∈ ["false", "False", "FALSE"] then some false
  else none

def asBool : Decoder Bool
  | .scalar scalar =>
      match if scalar.standsFor "bool" then truthValue? scalar.text else none with
      | some value => .ok value
      | none => .error (.unexpected "a truth value")
  | _ => .error (.unexpected "a truth value")

/-- The number that digits of a base spell. -/
def digits? (base : Nat) (text : List Char) : Option Nat :=
  if text = [] then none
  else
    text.foldlM (fun value character => do
      let digit ← Text.hexValue? character
      if digit < base then some (value * base + digit) else none) 0

def basedNumber? (mark : String) (base : Nat) (text : List Char) : Option Nat := do
  digits? base (← Text.afterChars? mark.toList text)

/-- A decimal number; more than one digit do not start with a zero. -/
def decimalNumber? : List Char → Option Nat
  | '0' :: _ :: _ => none
  | text => digits? 10 text

def wordBound : Nat := Nat.pow 2 64

/-- The whole number that a text spells, in one of four bases; a plus sign may precede it. -/
def wholeNumber? (text : String) : Option Nat :=
  let unsigned := match text.toList with
    | '+' :: rest => rest
    | other => other
  let based := [("0x", 16), ("0o", 8), ("0b", 2)].findSome? (fun (mark, base) =>
    basedNumber? mark base unsigned)
  (based.orElse (fun _ => decimalNumber? unsigned)).filter (fun value => value < wordBound)

def asUInt32 : Decoder UInt32
  | .scalar scalar =>
      match if scalar.standsFor "int" then wholeNumber? scalar.text else none with
      | some value =>
          if value < Nat.pow 2 32 then .ok (UInt32.ofNat value)
          else .error (.unexpected "a smaller number")
      | none => .error (.unexpected "a whole number")
  | _ => .error (.unexpected "a whole number")

/-! ### Absence -/

def isNullWord (text : String) : Bool :=
  text ∈ ["null", "Null", "NULL", "~"]

/-- Whether a scalar stands for the absence of a value. One that is tagged as absent must say so;
any other tag makes a value of it. -/
def Scalar.isAbsent (scalar : Scalar) : Except Fault Bool :=
  if scalar.style ≠ .plain then .ok false
  else
    match scalar.tag with
    | none => .ok (scalar.text = "" || isNullWord scalar.text)
    | some tag =>
        if tag ≠ coreTag "null" then .ok false
        else if isNullWord scalar.text then .ok true
        else .error (.unexpected "null")

def asOptional {Value : Type} (decode : Decoder Value) : Decoder (Option Value)
  | .scalar scalar => do
      if ← scalar.isAbsent then return none
      else return some (← decode (.scalar scalar))
  | node => (decode node).map some

/-! ### Records -/

def resolved (document : Document) (node : Node) : Except Fault Node :=
  match document.resolve node with
  | some node => .ok node
  | none => .error .malformed

def nameOf (document : Document) (key : Node) : Except Fault String := do
  asText (← resolved document key)

/-- Keeps the known entries of a mapping; none of them may be repeated. -/
def knownEntries (document : Document) (known : List String) :
    List (Node × Node) → Except Fault Fields
  | [] => .ok []
  | (key, value) :: rest => do
      let name ← nameOf document key
      let fields ← knownEntries document known rest
      if name ∈ known then Decoding.addKnown known name (← resolved document value) fields
      else return fields

def record? (document : Document) (declared : List String) : Decoder Fields
  | .mapping entries => knownEntries document declared entries
  | .sequence items => do
      Decoding.inOrder declared (← items.mapM (resolved document))
  | .scalar scalar =>
      if scalar.style = .plain ∧ scalar.text = "" then .ok []
      else .error (.unexpected "a mapping")
  | .alias _ => .error .malformed

def optional {Value : Type} (fields : Fields) (name : String) (decode : Decoder Value) :
    Except Fault (Option Value) :=
  Decoding.withDefault fields name (asOptional decode) none

def decodeText {Value : Type} (decode : Document → Decoder Value) (text : String) :
    Except Fault Value :=
  match Document.parse? text with
  | none => .error .malformed
  | some document => do decode document (← resolved document document.root)

end CheckBinding.Yaml
