import CheckBinding.Decoding
import CheckBinding.Json.Reader
import CheckBinding.Number.Decimal
import CheckBinding.NameMap

/-!
From documents to typed values.

A record may be written as an object or as the array of its fields in declaration order.
`Json.record?` brings both to one list of fields: in an object unknown members are ignored and a
known one must not be repeated, in an array the last fields may be missing and none may follow.
-/

namespace CheckBinding.Json

abbrev Fault : Type := Decoding.Fault

abbrev Decoder (Value : Type) := Decoding.Decoder Json Value

abbrev Fields := Decoding.Fields Json

def asText : Decoder String
  | .string token =>
      match token.text? with
      | some text => .ok text
      | none => .error .malformed
  | _ => .error (.unexpected "a string")

def asBool : Decoder Bool
  | .boolean value => .ok value
  | _ => .error (.unexpected "a boolean")

def asNatBelow (bound : Nat) : Decoder Nat
  | .number numeral =>
      match numeral.toInt? with
      | some (.ofNat value) =>
          if value < bound then .ok value else .error (.unexpected "a smaller number")
      | _ => .error (.unexpected "a whole number")
  | _ => .error (.unexpected "a number")

def asUInt16 : Decoder UInt16 := fun document =>
  (asNatBelow (Nat.pow 2 16) document).map UInt16.ofNat

def asUInt32 : Decoder UInt32 := fun document =>
  (asNatBelow (Nat.pow 2 32) document).map UInt32.ofNat

def asUInt64 : Decoder UInt64 := fun document =>
  (asNatBelow (Nat.pow 2 64) document).map UInt64.ofNat

def asBinary32 : Decoder Number.Binary32
  | .number numeral =>
      match Number.binary32? numeral with
      | some value => .ok value
      | none => .error (.unexpected "a number in range")
  | _ => .error (.unexpected "a number")

def asOptional {Value : Type} (decode : Decoder Value) : Decoder (Option Value)
  | .null => .ok none
  | document => (decode document).map some

def asList {Value : Type} (decode : Decoder Value) : Decoder (List Value)
  | .array items => items.mapM decode
  | _ => .error (.unexpected "an array")

def nameOf (token : StringToken) : Except Fault String :=
  match token.text? with
  | some name => .ok name
  | none => .error .malformed

/-- Reads a map of texts; of a repeated name the last member stays. -/
def asTextMap : Decoder (NameMap String)
  | .object members => do
      let bindings ← members.mapM (fun (token, value) => do
        return (← nameOf token, ← asText value))
      return NameMap.ofList bindings
  | _ => .error (.unexpected "an object")

/-! ### Records -/

/-- Keeps the known members of an object; none of them may be repeated. -/
def knownMembers (known : List String) : List (StringToken × Json) → Except Fault Fields
  | [] => .ok []
  | (token, value) :: rest => do
      let name ← nameOf token
      Decoding.addKnown known name value (← knownMembers known rest)

/-- The fields of a record given as an object, or as an array in declaration order. -/
def record? (declared : List String) : Decoder Fields
  | .object members => knownMembers declared members
  | .array items => Decoding.inOrder declared items
  | _ => .error (.unexpected "an object")

def optional {Value : Type} (fields : Fields) (name : String) (decode : Decoder Value) :
    Except Fault (Option Value) :=
  Decoding.withDefault fields name (asOptional decode) none

def decodeText {Value : Type} (decode : Decoder Value) (text : String) : Except Fault Value :=
  match parse? text with
  | some document => decode document
  | none => .error .malformed

def decodeBytes {Value : Type} (decode : Decoder Value) (bytes : ByteArray) :
    Except Fault Value :=
  match parseBytes? bytes with
  | some document => decode document
  | none => .error .malformed

end CheckBinding.Json
