import CheckBinding.Api.Call
import CheckBinding.Cid
import CheckBinding.Text.Blank

/-!
A stand-in for the monitoring service that keeps everything in memory.

Bundles are kept by their identifier. Every bundle also owns a roster, the list of all metrics
known for it; creating and updating a bundle merges the submitted metrics into its roster.
-/

namespace CheckBinding.Api

/-- The state of the stand-in. The logs hold what was submitted, oldest first. -/
structure Memory where
  brokers : List Broker
  bundles : NameMap Bundle
  rosters : NameMap (List MetricDefinition)
  searchOverride : Option (List Bundle)
  created : List Bundle
  updated : List Bundle
  nextId : UInt64
  calls : Nat
  unavailable : Bool

namespace Memory

/-- A stand-in that holds nothing and numbers new bundles from the given number on, in 64 bits. -/
def startingAt (nextId : Nat) : Memory where
  brokers := []
  bundles := NameMap.empty
  rosters := NameMap.empty
  searchOverride := none
  created := []
  updated := []
  nextId := UInt64.ofNat nextId
  calls := 0
  unavailable := false

def fresh : Memory := startingAt 1000

/-! ### Setting it up -/

def insertBundle (memory : Memory) (bundle : Bundle) : Memory :=
  { memory with bundles := memory.bundles.insert bundle.cid bundle }

def bundle? (memory : Memory) (cid : String) : Option Bundle :=
  memory.bundles.get? cid

def setRoster (memory : Memory) (cid : String) (metrics : List MetricDefinition) : Memory :=
  { memory with rosters := memory.rosters.insert cid metrics }

def setBrokers (memory : Memory) (brokers : List Broker) : Memory :=
  { memory with brokers }

def forceSearch (memory : Memory) (bundles : List Bundle) : Memory :=
  { memory with searchOverride := some bundles }

def setUnavailable (memory : Memory) (unavailable : Bool) : Memory :=
  { memory with unavailable }

def roster (memory : Memory) (cid : String) : List MetricDefinition :=
  (memory.rosters.get? cid).getD []

/-! ### Rosters -/

/-- Writes a definition into a roster: in place of the first of its name, else at the end. -/
def putMetric (metric : MetricDefinition) : List MetricDefinition → List MetricDefinition
  | [] => [metric]
  | head :: rest =>
      if head.name = metric.name then metric :: rest else head :: putMetric metric rest

def mergeMetrics (roster metrics : List MetricDefinition) : List MetricDefinition :=
  metrics.foldl (fun roster metric => putMetric metric roster) roster

def mergeRoster (memory : Memory) (cid : String) (metrics : List MetricDefinition) : Memory :=
  memory.setRoster cid (mergeMetrics (memory.roster cid) metrics)

/-! ### Searching -/

/-- The conditions of a search: what stands between an opening parenthesis and the next closing
one, cut at its first colon. -/
def conditions (criteria : String) : List (List Char × List Char) :=
  (Text.splitChars ')' criteria.toList).filterMap (fun group =>
    match Text.stripChars Text.isBlank group with
    | '(' :: condition => Text.cutChars ':' condition
    | _ => none)

/-- Whether a bundle meets one condition. A value may stand in quotes; a condition on anything else
than status, type, target and name is met by all. -/
def meets (bundle : Bundle) (condition : List Char × List Char) : Bool :=
  let value := String.ofList (Text.stripChars (fun character => character = '"') condition.2)
  match String.ofList condition.1 with
  | "active" => (value = "1") = bundle.isActive
  | "type" => bundle.checkType = value
  | "target" => bundle.target = value
  | "display_name" => bundle.displayName = value
  | _ => true

def matchesCriteria (criteria : String) (bundle : Bundle) : Bool :=
  (conditions criteria).all (meets bundle)

def found (memory : Memory) (criteria : String) : List Bundle :=
  match memory.searchOverride with
  | some bundles => bundles
  | none => memory.bundles.values.filter (matchesCriteria criteria)

/-! ### The operations -/

def counted (memory : Memory) : Memory :=
  { memory with calls := memory.calls + 1 }

/-- A draft as the service stores it: with an identifier, one check, and active unless the draft
says otherwise. -/
def assigned (number : UInt64) (draft : Bundle) : Bundle :=
  { draft with
    cid := Cid.Kind.checkBundle.path ++ Text.decimal number.toNat
    checks := ["/check/" ++ Text.decimal number.toNat]
    status := if draft.status = "" then Bundle.activeStatus else draft.status }

def create (memory : Memory) (draft : Bundle) : Except Fault Bundle × Memory :=
  if draft.target = "" ∨ draft.brokers = [] then
    (.error (.invalidArguments .draftIncomplete), memory)
  else
    let bundle := assigned memory.nextId draft
    let numbered := { memory with
      nextId := memory.nextId + 1
      created := memory.created ++ [draft] }
    (.ok bundle, (numbered.mergeRoster bundle.cid bundle.metrics).insertBundle bundle)

def revised (bundle : Bundle) : Bundle :=
  { bundle with lastModified := some (bundle.lastModified.getD 0 + 1) }

def update (memory : Memory) (bundle : Bundle) : Except Fault Bundle × Memory :=
  if memory.bundles.contains bundle.cid then
    let stored := revised bundle
    let logged := { memory with updated := memory.updated ++ [bundle] }
    (.ok stored, (logged.mergeRoster bundle.cid bundle.metrics).insertBundle stored)
  else (.error (.notFound bundle.cid), memory)

/-- A definition as a roster has it, the members in the order of their names. -/
def entryJson (metric : MetricDefinition) : Json :=
  .ofFields ([("name", .ofText metric.name), ("status", .ofText metric.status)] ++
    (if metric.tags.isEmpty then [] else [("tags", .ofTexts metric.tags)]) ++
    [("type", .ofText metric.type)] ++
    (match metric.units with
    | none => []
    | some units => [("units", .ofText units)]))

def rosterJson (path : String) (metrics : List MetricDefinition) : Json :=
  .ofFields [("_cid", .ofText path), ("metrics", .array (metrics.map entryJson))]

def serve (memory : Memory) (path : String) : Except Fault ByteArray :=
  if (Text.after? Cid.rosterPath path).isSome then
    match memory.bundles.names.find? (fun cid => Cid.rosterOf cid = path) with
    | some cid => .ok (rosterJson path (memory.roster cid)).toBytes
    | none => .error (.notFound path)
  else
    match memory.bundle? path with
    | some bundle => .ok bundle.toJson.toBytes
    | none => .error (.notFound path)

def carryOut (memory : Memory) : (call : Call) → call.Answer × Memory
  | .fetchBrokers => (.ok memory.brokers, memory)
  | .fetchBundle cid =>
      match memory.bundle? cid with
      | some bundle => (.ok bundle, memory)
      | none => (.error (.notFound cid), memory)
  | .search criteria _ => (.ok (memory.found criteria), memory)
  | .create draft => memory.create draft
  | .update bundle => memory.update bundle
  | .get path => (memory.serve path, memory)

def unavailableFault (path : String) : Fault :=
  .status 503 path "service unavailable"

def answer (memory : Memory) (call : Call) : call.Answer × Memory :=
  if memory.unavailable then (.error (unavailableFault call.path), memory.counted)
  else memory.counted.carryOut call

end Memory
end CheckBinding.Api
