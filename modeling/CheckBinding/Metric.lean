import CheckBinding.Json.Decode
import CheckBinding.Json.Writer

/-!
Metrics: the values that are collected, and their definitions on a check bundle.
-/

namespace CheckBinding

inductive MetricKind where
  | numeric
  | histogram
  | text
deriving DecidableEq

def MetricKind.word : MetricKind → String
  | .numeric => "numeric"
  | .histogram => "histogram"
  | .text => "text"

def MetricKind.ofWord? : String → Option MetricKind
  | "numeric" => some .numeric
  | "histogram" => some .histogram
  | "text" => some .text
  | _ => none

def MetricKind.toJson (kind : MetricKind) : Json :=
  Json.ofText kind.word

/-- Reads a kind: its word, or an object whose one member has that name and no value. -/
def MetricKind.ofJson : Json.Decoder MetricKind := fun document => do
  let word ← match document with
    | .object [(name, .null)] => Json.nameOf name
    | .object _ => .error (.unexpected "one member without value")
    | document => Json.asText document
  match MetricKind.ofWord? word with
  | some kind => .ok kind
  | none => .error (.unexpected "a kind of metric")

inductive MetricValue where
  | scalar (value : Float)
  | histogram (values : List Float)
  | text (value : String)

def MetricValue.kind : MetricValue → MetricKind
  | .scalar _ => .numeric
  | .histogram _ => .histogram
  | .text _ => .text

/-- A metric as a check bundle or its roster lists it. The type stays a text, since the service
knows types that are never submitted from here. -/
structure MetricDefinition where
  name : String
  type : String
  status : String
  tags : List String
  units : Option String
deriving DecidableEq

namespace MetricDefinition

def ofKind (name : String) (kind : MetricKind) (status : String) : MetricDefinition :=
  ⟨name, kind.word, status, [], none⟩

/-- The document of a definition; empty tags and absent units are left out. -/
def toJson (metric : MetricDefinition) : Json :=
  .ofFields ([("name", .ofText metric.name), ("type", .ofText metric.type),
    ("status", .ofText metric.status)] ++
    (if metric.tags.isEmpty then [] else [("tags", .ofTexts metric.tags)]) ++
    (match metric.units with
    | none => []
    | some units => [("units", .ofText units)]))

def ofJson : Json.Decoder MetricDefinition := fun document => do
  let fields ← Json.record? ["name", "type", "status", "tags", "units"] document
  return {
    name := ← Decoding.required fields "name" Json.asText
    type := ← Decoding.required fields "type" Json.asText
    status := ← Decoding.required fields "status" Json.asText
    tags := ← Decoding.withDefault fields "tags" (Json.asList Json.asText) []
    units := ← Json.optional fields "units" Json.asText }

end MetricDefinition
end CheckBinding
