import CheckBinding.Filter
import CheckBinding.Metric

/-!
Check bundles: a target, the brokers that may collect it, and its metrics.

The same shape serves for what the service answers and for what is submitted. What the service
assigns (`cid`, `checks`) is left out of a document as long as it is empty.
-/

namespace CheckBinding

structure Bundle where
  cid : String
  checks : List String
  lastModified : Option UInt64
  brokers : List String
  config : NameMap String
  displayName : String
  metricFilters : List Filter
  metrics : List MetricDefinition
  notes : Option String
  period : UInt32
  status : String
  tags : List String
  target : String
  timeout : Number.Binary32
  checkType : String
deriving DecidableEq

structure BundleInfo where
  cid : String
  checkCid : Option String
  checkType : String
  target : String
  displayName : String
  period : UInt32
  brokers : List String
  submissionUrl : Option String
deriving DecidableEq

namespace Bundle

def activeStatus : String := "active"

def submissionUrlName : String := "submission_url"

def blank : Bundle where
  cid := ""
  checks := []
  lastModified := none
  brokers := []
  config := NameMap.empty
  displayName := ""
  metricFilters := []
  metrics := []
  notes := none
  period := 0
  status := ""
  tags := []
  target := ""
  timeout := 0
  checkType := ""

def isActive (bundle : Bundle) : Bool :=
  bundle.status = activeStatus

def checkCid (bundle : Bundle) : Option String :=
  bundle.checks.head?

def submissionUrl (bundle : Bundle) : Option String :=
  bundle.config.get? submissionUrlName

/-- The bundle without its metrics, as an agent holds it. -/
def withoutMetrics (bundle : Bundle) : Bundle :=
  { bundle with metrics := [] }

def info (bundle : Bundle) : BundleInfo where
  cid := bundle.cid
  checkCid := bundle.checkCid
  checkType := bundle.checkType
  target := bundle.target
  displayName := bundle.displayName
  period := bundle.period
  brokers := bundle.brokers
  submissionUrl := bundle.submissionUrl

/-! ### Documents -/

def fieldNames : List String :=
  ["_cid", "_checks", "_last_modified", "brokers", "config", "display_name", "metric_filters",
    "metrics", "notes", "period", "status", "tags", "target", "timeout", "type"]

def configJson (config : NameMap String) : Json :=
  .ofFields (config.toList.map (fun (name, value) => (name, Json.ofText value)))

/-- The document of a time in seconds; an infinite one has none. -/
def timeoutJson (timeout : Number.Binary32) : Json :=
  match timeout.toNumeral? with
  | some numeral => .number numeral
  | none => .null

def toJson (bundle : Bundle) : Json :=
  .ofFields (
    (if bundle.cid = "" then [] else [("_cid", .ofText bundle.cid)]) ++
    (if bundle.checks.isEmpty then [] else [("_checks", .ofTexts bundle.checks)]) ++
    (match bundle.lastModified with
    | none => []
    | some moment => [("_last_modified", .ofNat moment.toNat)]) ++
    [("brokers", .ofTexts bundle.brokers),
      ("config", configJson bundle.config),
      ("display_name", .ofText bundle.displayName),
      ("metric_filters", .array (bundle.metricFilters.map Filter.toJson)),
      ("metrics", .array (bundle.metrics.map MetricDefinition.toJson))] ++
    (match bundle.notes with
    | none => []
    | some notes => [("notes", .ofText notes)]) ++
    [("period", .ofNat bundle.period.toNat),
      ("status", .ofText bundle.status),
      ("tags", .ofTexts bundle.tags),
      ("target", .ofText bundle.target),
      ("timeout", timeoutJson bundle.timeout),
      ("type", .ofText bundle.checkType)])

def ofJson [Pattern.Engine] : Json.Decoder Bundle := fun document => do
  let fields ← Json.record? fieldNames document
  return {
    cid := ← Decoding.withDefault fields "_cid" Json.asText ""
    checks := ← Decoding.withDefault fields "_checks" (Json.asList Json.asText) []
    lastModified := ← Json.optional fields "_last_modified" Json.asUInt64
    brokers := ← Decoding.withDefault fields "brokers" (Json.asList Json.asText) []
    config := ← Decoding.withDefault fields "config" Json.asTextMap NameMap.empty
    displayName := ← Decoding.withDefault fields "display_name" Json.asText ""
    metricFilters := ← Decoding.withDefault fields "metric_filters" (Json.asList Filter.ofJson) []
    metrics := ← Decoding.withDefault fields "metrics" (Json.asList MetricDefinition.ofJson) []
    notes := ← Json.optional fields "notes" Json.asText
    period := ← Decoding.withDefault fields "period" Json.asUInt32 0
    status := ← Decoding.withDefault fields "status" Json.asText ""
    tags := ← Decoding.withDefault fields "tags" (Json.asList Json.asText) []
    target := ← Decoding.withDefault fields "target" Json.asText ""
    timeout := ← Decoding.withDefault fields "timeout" Json.asBinary32 0
    checkType := ← Decoding.withDefault fields "type" Json.asText "" }

end Bundle
end CheckBinding
