/-!
From documents to typed values, whatever the notation.

A record is a list of named fields, each a document of its own. Fields may be required, may have
a value for their absence, and must not be given twice.
-/

namespace CheckBinding.Decoding

inductive Fault where
  | malformed
  | unexpected (wanted : String)
  | missing (field : String)
  | repeated (field : String)
  | rejected (reason : String)
deriving DecidableEq

def Fault.message : Fault → String
  | .malformed => "malformed document"
  | .unexpected wanted => "expected " ++ wanted
  | .missing field => "missing field " ++ field
  | .repeated field => "duplicate field " ++ field
  | .rejected reason => reason

abbrev Decoder (Document Value : Type) := Document → Except Fault Value

abbrev Fields (Document : Type) := List (String × Document)

variable {Document Value : Type}

/-- Adds a field in front if its name is known; it must not be among those behind it. -/
def addKnown (known : List String) (name : String) (document : Document)
    (fields : Fields Document) : Except Fault (Fields Document) :=
  if name ∈ known then
    if (fields.lookup name).isSome then .error (.repeated name)
    else .ok ((name, document) :: fields)
  else .ok fields

/-- The fields of a record that is given as the list of them in declaration order. The last ones
may be missing and none may follow. -/
def inOrder (declared : List String) (items : List Document) :
    Except Fault (Fields Document) :=
  if items.length ≤ declared.length then .ok (declared.zip items)
  else .error (.unexpected "fewer elements")

def required (fields : Fields Document) (name : String) (decode : Decoder Document Value) :
    Except Fault Value :=
  match fields.lookup name with
  | some document => decode document
  | none => .error (.missing name)

def withDefault (fields : Fields Document) (name : String) (decode : Decoder Document Value)
    (absent : Value) : Except Fault Value :=
  match fields.lookup name with
  | some document => decode document
  | none => .ok absent

end CheckBinding.Decoding
