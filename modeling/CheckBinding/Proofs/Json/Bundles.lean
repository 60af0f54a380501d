import CheckBinding.Broker
import CheckBinding.Bundle
import CheckBinding.Pattern.Acceptance
import CheckBinding.Proofs.Json.Filters
import CheckBinding.Proofs.Json.Rosters
import CheckBinding.Proofs.Number.Rereading
import Mathlib.Control.Monad.Basic

/-!
The documents of check bundles and brokers.

A bundle is decoded from its document when its filters are accepted ones and its timeout is finite;
a broker always. What a document is decoded as has accepted filters, so writing it and reading that
again changes nothing.
-/

namespace CheckBinding

open Json

/-! ### Bundles -/

theorem MetricDefinition.carries (metric : MetricDefinition) :
    Carries ofJson metric.toJson metric :=
  ⟨metric.toJson_wellFormed, metric.ofJson_toJson⟩

namespace Bundle

theorem carries_timeout {timeout : Number.Binary32} (finite : timeout.isFinite = true) :
    Carries asBinary32 (timeoutJson timeout) timeout := by
  rw [timeoutJson]
  split
  · next numeral written =>
    refine ⟨.number (Number.Binary32.toNumeral?_wellFormed written), ?_⟩
    unfold asBinary32
    simp only [Number.Binary32.rereads written]
  · next unwritten =>
    unfold Number.Binary32.toNumeral? at unwritten
    split at unwritten
    · cases finite
    · cases unwritten
    · cases unwritten

def slots (bundle : Bundle) : Slots :=
  [("_cid", if bundle.cid = "" then none else some (.ofText bundle.cid)),
    ("_checks", if bundle.checks.isEmpty then none else some (.ofTexts bundle.checks)),
    ("_last_modified", bundle.lastModified.map (fun moment => .ofNat moment.toNat)),
    ("brokers", some (.ofTexts bundle.brokers)),
    ("config", some (configJson bundle.config)),
    ("display_name", some (.ofText bundle.displayName)),
    ("metric_filters", some (.array (bundle.metricFilters.map Filter.toJson))),
    ("metrics", some (.array (bundle.metrics.map MetricDefinition.toJson))),
    ("notes", bundle.notes.map Json.ofText),
    ("period", some (.ofNat bundle.period.toNat)),
    ("status", some (.ofText bundle.status)),
    ("tags", some (.ofTexts bundle.tags)),
    ("target", some (.ofText bundle.target)),
    ("timeout", some (timeoutJson bundle.timeout)),
    ("type", some (.ofText bundle.checkType))]

theorem toJson_eq (bundle : Bundle) : bundle.toJson = .ofFields (given bundle.slots) := by
  obtain ⟨cid, checks, lastModified, brokers, config, displayName, filters, metrics, notes, period,
    status, tags, target, timeout, checkType⟩ := bundle
  unfold toJson slots
  dsimp only
  split <;> split <;> cases lastModified <;> cases notes <;> rfl

theorem names_distinct : fieldNames.Nodup := by
  decide

variable [Pattern.Engine] {bundle : Bundle}

/-- A bundle that a document can carry: its filters are accepted, and its timeout is finite. -/
structure Transferable (bundle : Bundle) : Prop where
  filters : ∀ filter ∈ bundle.metricFilters, filter.Accepted
  finite : bundle.timeout.isFinite = true

theorem Transferable.carries (transferable : bundle.Transferable) :
    Carries ofJson bundle.toJson bundle := by
  have distinct : (bundle.slots.map Prod.fst).Nodup := names_distinct
  have cid : Fills asText "" (if bundle.cid = "" then none else some _) bundle.cid :=
    (carries_text bundle.cid).fills_unless id
  have checks : Fills (asList asText) [] (if bundle.checks.isEmpty then none else some _)
      bundle.checks :=
    (carries_texts bundle.checks).fills_unless List.isEmpty_iff.mp
  have lastModified : Fills (asOptional asUInt64) none _ bundle.lastModified :=
    fills_optional carries_uint64 (fun _ => Json.noConfusion) bundle.lastModified
  have brokers : Fills (asList asText) [] _ bundle.brokers :=
    .given (carries_texts bundle.brokers)
  have config : Fills asTextMap NameMap.empty _ bundle.config :=
    .given (carries_textMap bundle.config)
  have displayName : Fills asText "" _ bundle.displayName :=
    .given (carries_text bundle.displayName)
  have filters : Fills (asList Filter.ofJson) [] _ bundle.metricFilters :=
    .given (carries_list (fun filter member => (transferable.filters filter member).carries))
  have metrics : Fills (asList MetricDefinition.ofJson) [] _ bundle.metrics :=
    .given (carries_list (fun metric _ => metric.carries))
  have notes : Fills (asOptional asText) none _ bundle.notes :=
    fills_optional carries_text (fun _ => Json.noConfusion) bundle.notes
  have period : Fills asUInt32 0 _ bundle.period := .given (carries_uint32 bundle.period)
  have status : Fills asText "" _ bundle.status := .given (carries_text bundle.status)
  have tags : Fills (asList asText) [] _ bundle.tags := .given (carries_texts bundle.tags)
  have target : Fills asText "" _ bundle.target := .given (carries_text bundle.target)
  have timeout : Fills asBinary32 0 _ bundle.timeout := .given (carries_timeout transferable.finite)
  have checkType : Fills asText "" _ bundle.checkType := .given (carries_text bundle.checkType)
  rw [toJson_eq]
  constructor
  · refine wellFormed_given ?_
    intro slot member
    simp only [slots, List.mem_cons, List.not_mem_nil, or_false] at member
    rcases member with rfl | rfl | rfl | rfl | rfl | rfl | rfl | rfl | rfl | rfl | rfl | rfl |
      rfl | rfl | rfl
    · exact cid.wellFormed
    · exact checks.wellFormed
    · exact lastModified.wellFormed
    · exact brokers.wellFormed
    · exact config.wellFormed
    · exact displayName.wellFormed
    · exact filters.wellFormed
    · exact metrics.wellFormed
    · exact notes.wellFormed
    · exact period.wellFormed
    · exact status.wellFormed
    · exact tags.wellFormed
    · exact target.wellFormed
    · exact timeout.wellFormed
    · exact checkType.wellFormed
  · unfold ofJson Json.optional
    rw [record?_given (by rfl) names_distinct]
    simp only [cid.withDefault distinct "_cid" rfl, checks.withDefault distinct "_checks" rfl,
      lastModified.withDefault distinct "_last_modified" rfl,
      brokers.withDefault distinct "brokers" rfl, config.withDefault distinct "config" rfl,
      displayName.withDefault distinct "display_name" rfl,
      filters.withDefault distinct "metric_filters" rfl,
      metrics.withDefault distinct "metrics" rfl, notes.withDefault distinct "notes" rfl,
      period.withDefault distinct "period" rfl, status.withDefault distinct "status" rfl,
      tags.withDefault distinct "tags" rfl, target.withDefault distinct "target" rfl,
      timeout.withDefault distinct "timeout" rfl, checkType.withDefault distinct "type" rfl,
      bind, Except.bind]
    rfl

/-- A bundle that was decoded can be carried again, unless its timeout is infinite. -/
theorem transferable_of_ofJson {document : Json} (decoded : ofJson document = .ok bundle)
    (finite : bundle.timeout.isFinite = true) : bundle.Transferable := by
  unfold ofJson at decoded
  simp only [bind_eq_ok] at decoded
  obtain ⟨fields, -, cid, -, checks, -, lastModified, -, brokers, -, config, -, displayName, -,
    filters, readFilters, metrics, -, notes, -, period, -, status, -, tags, -, target, -, timeout,
    -, checkType, -, made⟩ := decoded
  cases made
  unfold Decoding.withDefault at readFilters
  refine ⟨?_, finite⟩
  change ∀ filter ∈ filters, filter.Accepted
  split at readFilters
  · intro filter member
    obtain ⟨item, known⟩ := decoded_of_asList readFilters filter member
    exact Filter.accepted_of_ofJson known
  · cases readFilters
    intro filter member
    cases member

end Bundle

/-! ### Brokers -/

def BrokerNode.slots (node : BrokerNode) : Slots :=
  [("cn", some (.ofText node.commonName)),
    ("external_host", node.externalHost.map Json.ofText),
    ("external_port", some (.ofNat node.externalPort.toNat)),
    ("ipaddress", node.address.map Json.ofText),
    ("modules", some (.ofTexts node.modules)),
    ("port", node.port.map (fun port => .ofNat port.toNat)),
    ("status", some (.ofText node.status))]

theorem BrokerNode.toJson_eq (node : BrokerNode) : node.toJson = .ofFields (given node.slots) := by
  obtain ⟨commonName, externalHost, externalPort, address, modules, port, status⟩ := node
  cases externalHost <;> cases address <;> cases port <;> rfl

theorem BrokerNode.carries (node : BrokerNode) : Carries ofJson node.toJson node := by
  have distinct : (node.slots.map Prod.fst).Nodup := by
    change ["cn", "external_host", "external_port", "ipaddress", "modules", "port",
      "status"].Nodup
    decide
  have commonName : Fills asText "" _ node.commonName := .given (carries_text node.commonName)
  have externalHost : Fills (asOptional asText) none _ node.externalHost :=
    fills_optional carries_text (fun _ => Json.noConfusion) node.externalHost
  have externalPort : Fills asUInt16 0 _ node.externalPort :=
    .given (carries_uint16 node.externalPort)
  have address : Fills (asOptional asText) none _ node.address :=
    fills_optional carries_text (fun _ => Json.noConfusion) node.address
  have modules : Fills (asList asText) [] _ node.modules := .given (carries_texts node.modules)
  have port : Fills (asOptional asUInt16) none _ node.port :=
    fills_optional carries_uint16 (fun _ => Json.noConfusion) node.port
  have status : Fills asText "" _ node.status := .given (carries_text node.status)
  rw [toJson_eq]
  constructor
  · refine wellFormed_given ?_
    intro slot member
    simp only [slots, List.mem_cons, List.not_mem_nil, or_false] at member
    rcases member with rfl | rfl | rfl | rfl | rfl | rfl | rfl
    · exact commonName.wellFormed
    · exact externalHost.wellFormed
    · exact externalPort.wellFormed
    · exact address.wellFormed
    · exact modules.wellFormed
    · exact port.wellFormed
    · exact status.wellFormed
  · unfold ofJson Json.optional
    rw [record?_given (by rfl) (by exact distinct)]
    simp only [commonName.withDefault distinct "cn" rfl,
      externalHost.withDefault distinct "external_host" rfl,
      externalPort.withDefault distinct "external_port" rfl,
      address.withDefault distinct "ipaddress" rfl, modules.withDefault distinct "modules" rfl,
      port.withDefault distinct "port" rfl, status.withDefault distinct "status" rfl,
      bind, Except.bind]
    rfl

def Broker.slots (broker : Broker) : Slots :=
  [("_cid", some (.ofText broker.cid)), ("_name", some (.ofText broker.name)),
    ("_type", some (.ofText broker.category)),
    ("_details", some (.array (broker.nodes.map BrokerNode.toJson)))]

theorem Broker.carries (broker : Broker) : Carries ofJson broker.toJson broker := by
  have distinct : (broker.slots.map Prod.fst).Nodup := by
    change ["_cid", "_name", "_type", "_details"].Nodup
    decide
  have cid : Carries asText _ broker.cid := carries_text broker.cid
  have name : Fills asText "" _ broker.name := .given (carries_text broker.name)
  have category : Fills asText "" _ broker.category := .given (carries_text broker.category)
  have nodes : Fills (asList BrokerNode.ofJson) [] _ broker.nodes :=
    .given (carries_list (fun node _ => node.carries))
  change Carries ofJson (.ofFields (given broker.slots)) broker
  constructor
  · refine wellFormed_given ?_
    intro slot member
    simp only [slots, List.mem_cons, List.not_mem_nil, or_false] at member
    rcases member with rfl | rfl | rfl | rfl
    · intro document same
      cases same
      exact cid.wellFormed
    · exact name.wellFormed
    · exact category.wellFormed
    · exact nodes.wellFormed
  · unfold ofJson
    rw [record?_given (by rfl) (by exact distinct)]
    simp only [cid.required distinct "_cid" rfl, name.withDefault distinct "_name" rfl,
      category.withDefault distinct "_type" rfl, nodes.withDefault distinct "_details" rfl,
      bind, Except.bind]
    rfl

/-! ### Whole texts -/

theorem exists_document {Value : Type} {decode : Decoder Value} {text : String} {value : Value}
    (decoded : decodeText decode text = .ok value) :
    ∃ document, decode document = .ok value := by
  unfold decodeText at decoded
  split at decoded
  · next document _ => exact ⟨document, decoded⟩
  · cases decoded

/-- Bundles and brokers survive being written and read, whether they were built here or decoded
from a text. Of a bundle this takes accepted filters, which a decoded one always has, and a finite
timeout. -/
theorem documents_restore [Pattern.Engine] :
    (∀ bundle : Bundle, bundle.Transferable →
      decodeText Bundle.ofJson bundle.toJson.toText = .ok bundle) ∧
    (∀ broker : Broker, decodeText Broker.ofJson broker.toJson.toText = .ok broker) ∧
    (∀ text bundle, decodeText Bundle.ofJson text = .ok bundle → bundle.timeout.isFinite = true →
      decodeText Bundle.ofJson bundle.toJson.toText = .ok bundle) ∧
    ∀ text broker, decodeText Broker.ofJson text = .ok broker →
      decodeText Broker.ofJson broker.toJson.toText = .ok broker := by
  refine ⟨fun bundle transferable => transferable.carries.decodeText,
    fun broker => broker.carries.decodeText, ?_, fun _ broker _ => broker.carries.decodeText⟩
  intro text bundle decoded finite
  obtain ⟨document, read⟩ := exists_document decoded
  exact (Bundle.transferable_of_ofJson read finite).carries.decodeText

/-- A timeout below one, texts with escapes, and a filter that says no more than its pattern. -/
theorem documents_restore_escaped :
    let bundle : Bundle := { Bundle.blank with
      displayName := "größe \"a\"\n\\", config := NameMap.ofList [("b", ""), ("a", "\t")],
      lastModified := some 1, metricFilters := Filter.defaults,
      metrics := [⟨"cpu", "numeric", "active", ["tag"], some "%"⟩],
      timeout := .ofQuotient false 1 10 }
    let text := "\x7b\"metric_filters\":[[\"deny\",\"^$\"]],\"timeout\":1e1,\"other\":null\x7d"
    let decoded : Bundle := { Bundle.blank with
      metricFilters := [⟨.deny, "^$", ""⟩], timeout := .ofNat 10 }
    bundle.timeout.isFinite = true ∧
      decodeText Bundle.ofJson bundle.toJson.toText = .ok bundle ∧
      decodeText Bundle.ofJson text = .ok decoded ∧
      decodeText Bundle.ofJson decoded.toJson.toText = .ok decoded := by
  intro bundle text decoded
  have transferable : bundle.Transferable := ⟨by decide +kernel, by decide +kernel⟩
  have read : decodeText Bundle.ofJson text = .ok decoded := by decide +kernel
  obtain ⟨restores, -, again, -⟩ := documents_restore
  exact ⟨transferable.finite, restores bundle transferable, read,
    again text decoded read (by decide +kernel)⟩

end CheckBinding
