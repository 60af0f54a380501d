import CheckBinding.Agent.MetricStore
import CheckBinding.Api.Memory
import CheckBinding.Proofs.Json.Fields

/-!
The documents that carry metric definitions: one definition, and the roster of a bundle.
-/

namespace CheckBinding

namespace MetricDefinition

private def fields (metric : MetricDefinition) : List (String × Json) :=
  [("name", .ofText metric.name), ("type", .ofText metric.type),
    ("status", .ofText metric.status)] ++
    (if metric.tags.isEmpty then [] else [("tags", .ofTexts metric.tags)]) ++
    (match metric.units with
    | none => []
    | some units => [("units", .ofText units)])

private theorem fields_wellFormed (metric : MetricDefinition) :
    ∀ field ∈ metric.fields, field.2.WellFormed := by
  obtain ⟨name, type, status, tags, units⟩ := metric
  have texts := Json.wellFormed_ofText
  have lists := Json.wellFormed_ofTexts tags
  cases tags <;> cases units <;> simp [fields, texts, lists]

theorem toJson_wellFormed (metric : MetricDefinition) : metric.toJson.WellFormed :=
  Json.wellFormed_ofFields metric.fields_wellFormed

/-- Decoding the document of a definition gives the definition back. -/
theorem ofJson_toJson (metric : MetricDefinition) : ofJson metric.toJson = .ok metric := by
  have distinct : (metric.fields.map Prod.fst).Nodup := by
    cases tags : metric.tags <;> cases units : metric.units <;> simp [fields, tags, units]
  have record := Json.record?_ofFields ["name", "type", "status", "tags", "units"] distinct
  have document : metric.toJson = Json.ofFields metric.fields := rfl
  rw [ofJson, document, record]
  obtain ⟨name, type, status, tags, units⟩ := metric
  cases tags <;> cases units <;>
    simp [fields, Decoding.required, Decoding.withDefault, Json.optional, List.lookup_cons,
      bind, Except.bind, pure, Except.pure]

end MetricDefinition

namespace Api.Memory

private def entryFields (metric : MetricDefinition) : List (String × Json) :=
  [("name", .ofText metric.name), ("status", .ofText metric.status)] ++
    (if metric.tags.isEmpty then [] else [("tags", .ofTexts metric.tags)]) ++
    [("type", .ofText metric.type)] ++
    (match metric.units with
    | none => []
    | some units => [("units", .ofText units)])

private theorem entryJson_wellFormed (metric : MetricDefinition) :
    (entryJson metric).WellFormed := by
  have each : ∀ field ∈ entryFields metric, field.2.WellFormed := by
    obtain ⟨name, type, status, tags, units⟩ := metric
    have texts := Json.wellFormed_ofText
    have lists := Json.wellFormed_ofTexts tags
    cases tags <;> cases units <;> simp [entryFields, texts, lists]
  exact Json.wellFormed_ofFields each

private theorem ofJson_entryJson (metric : MetricDefinition) :
    MetricDefinition.ofJson (entryJson metric) = .ok metric := by
  have distinct : ((entryFields metric).map Prod.fst).Nodup := by
    cases tags : metric.tags <;> cases units : metric.units <;> simp [entryFields, tags, units]
  have record := Json.record?_ofFields ["name", "type", "status", "tags", "units"] distinct
  have document : entryJson metric = Json.ofFields (entryFields metric) := rfl
  rw [MetricDefinition.ofJson, document, record]
  obtain ⟨name, type, status, tags, units⟩ := metric
  cases tags <;> cases units <;>
    simp [entryFields, Decoding.required, Decoding.withDefault, Json.optional, List.lookup_cons,
      bind, Except.bind, pure, Except.pure]

theorem rosterJson_wellFormed (path : String) (metrics : List MetricDefinition) :
    (rosterJson path metrics).WellFormed := by
  have lists := Json.wellFormed_map (fun metric (_ : metric ∈ metrics) =>
    entryJson_wellFormed metric)
  refine Json.wellFormed_ofFields ?_
  intro field member
  rcases List.mem_cons.mp member with rfl | member
  · exact Json.wellFormed_ofText path
  · rcases List.mem_singleton.mp member with rfl
    exact lists

/-- What a roster path answers is read as the roster. -/
theorem decodeBytes_rosterJson (path : String) (metrics : List MetricDefinition) :
    Json.decodeBytes MetricStore.rosterOfJson (rosterJson path metrics).toBytes =
      .ok metrics := by
  have lists := Json.asList_map (fun metric (_ : metric ∈ metrics) => ofJson_entryJson metric)
  have distinct : ([("_cid", Json.ofText path),
      ("metrics", .array (metrics.map entryJson))].map Prod.fst).Nodup := by
    simp
  rw [(rosterJson_wellFormed path metrics).decodeBytes_toBytes, MetricStore.rosterOfJson,
    rosterJson, Json.record?_ofFields ["metrics"] distinct]
  exact lists

end Api.Memory
end CheckBinding
