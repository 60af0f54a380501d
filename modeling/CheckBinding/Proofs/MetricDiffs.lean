import CheckBinding.Agent.Controller
import CheckBinding.Proofs.MetricStores
import CheckBinding.Proofs.Text.ByteOrder

/-!
The metrics that are new to a store.

Collected metrics come in no particular order. Which of them are new, the definitions that they are
given and the order of these is a matter of the names and values alone, so it is the same in
whatever order the metrics are gone through.
-/

namespace CheckBinding

namespace MetricStore

variable {store : MetricStore} {collected other : Collected} {status : String}

theorem knows_iff {name : String} :
    store.knows name = true ↔
      ∃ states, store.states = some states ∧ states.contains name = true := by
  rw [knows]
  cases store.states <;> simp

theorem unknownMetrics_perm (store : MetricStore) (status : String)
    (perm : collected.Perm other) :
    (store.unknownMetrics collected status).Perm (store.unknownMetrics other status) := by
  have unsorted := (perm.filter (fun metric => !store.knows metric.1)).map
    (fun metric => MetricDefinition.ofKind metric.1 metric.2.kind status)
  exact (List.mergeSort_perm _ _).trans (unsorted.trans (List.mergeSort_perm _ _).symm)

/-- The names of the new metrics stand in strict order, which leaves one list of them. -/
theorem eq_unknownMetrics (distinct : (collected.map Prod.fst).Nodup)
    {metrics : List MetricDefinition} (perm : metrics.Perm (store.unknownMetrics collected status))
    (sorted : metrics.Pairwise (fun left right => left.name < right.name)) :
    metrics = store.unknownMetrics collected status := by
  refine perm.eq_of_pairwise ?_ sorted (store.unknownMetrics_sorted status distinct)
  intro left right _ _ less greater
  exact absurd greater (String.lt_asymm less)

theorem unknownMetrics_eq_of_perm (store : MetricStore) (status : String)
    (distinct : (collected.map Prod.fst).Nodup) (perm : collected.Perm other) :
    store.unknownMetrics other status = store.unknownMetrics collected status := by
  have distinctOther : (other.map Prod.fst).Nodup := (perm.map Prod.fst).nodup_iff.mp distinct
  exact eq_unknownMetrics distinct (store.unknownMetrics_perm status perm).symm
    (store.unknownMetrics_sorted status distinctOther)

theorem nodup_unknownMetrics (store : MetricStore) (status : String)
    (distinct : (collected.map Prod.fst).Nodup) :
    ((store.unknownMetrics collected status).map MetricDefinition.name).Nodup := by
  rw [List.nodup_iff_pairwise_ne, List.pairwise_map]
  refine (store.unknownMetrics_sorted status distinct).imp (fun less same => ?_)
  rw [same] at less
  exact String.lt_irrefl _ less

/-- Among definitions that repeat no name, those of one name are the one that has it. -/
theorem filter_name_eq_singleton {metrics : List MetricDefinition} {metric : MetricDefinition}
    (distinct : (metrics.map MetricDefinition.name).Nodup) (member : metric ∈ metrics) :
    metrics.filter (fun definition => definition.name = metric.name) = [metric] := by
  induction metrics with
  | nil => cases member
  | cons head rest ih =>
      rw [List.map_cons, List.nodup_cons] at distinct
      rcases List.mem_cons.mp member with rfl | later
      · have others : rest.filter (fun definition => definition.name = metric.name) = [] := by
          refine List.filter_eq_nil_iff.mpr (fun definition present same => ?_)
          rw [decide_eq_true_eq] at same
          exact distinct.1 (same ▸ List.mem_map_of_mem present)
        rw [List.filter_cons_of_pos (by simp), others]
      · have different : head.name ≠ metric.name := by
          intro same
          exact distinct.1 (same ▸ List.mem_map_of_mem later)
        rw [List.filter_cons_of_neg (by simpa using different), ih distinct.2 later]

theorem filter_unknownMetrics (distinct : (collected.map Prod.fst).Nodup) {name : String}
    {value : MetricValue} (member : (name, value) ∈ collected)
    (unknown : store.knows name = false) :
    (store.unknownMetrics collected status).filter (fun definition => definition.name = name) =
      [MetricDefinition.ofKind name value.kind status] :=
  filter_name_eq_singleton (store.nodup_unknownMetrics status distinct)
    (mem_unknownMetrics.mpr ⟨_, member, unknown, rfl⟩)

theorem filter_unknownMetrics_eq_nil {name : String}
    (none : name ∉ collected.map Prod.fst ∨ store.knows name = true) :
    (store.unknownMetrics collected status).filter (fun definition => definition.name = name) =
      [] := by
  refine List.filter_eq_nil_iff.mpr (fun definition present same => ?_)
  rw [decide_eq_true_eq] at same
  have named := List.mem_map_of_mem (f := MetricDefinition.name) present
  rw [same] at named
  obtain ⟨listed, unknown⟩ := mem_unknownMetrics_names.mp named
  rcases none with unlisted | known
  · exact unlisted listed
  · rw [known] at unknown
    cases unknown

end MetricStore

def MetricValue.typeName : MetricValue → String
  | .scalar _ => "numeric"
  | .histogram _ => "histogram"
  | .text _ => "text"

theorem MetricValue.word_kind (value : MetricValue) : value.kind.word = value.typeName := by
  cases value <;> rfl

theorem Controller.enableNewMetrics_eq_of_perm {collected other : Collected}
    (controller : Controller) (distinct : (collected.map Prod.fst).Nodup)
    (perm : collected.Perm other) :
    controller.enableNewMetrics other = controller.enableNewMetrics collected := by
  have same : ∀ (agent : Controller) (store : MetricStore) (cid : String),
      agent.submitUnknown store cid other = agent.submitUnknown store cid collected := by
    intro agent store cid
    rw [submitUnknown, submitUnknown,
      store.unknownMetrics_eq_of_perm agent.config.activeMetricStatus distinct perm]
  unfold enableNewMetrics
  simp only [same]

namespace MetricStore

/-- In whatever order collected metrics come, the same definitions are new, in the byte order of
their names: one for each collected name that the store does not know, made of the name, the type of
its value and the status. An agent that enables them does the same in either order. -/
theorem unknownMetrics_order_free (store : MetricStore) (status : String)
    {collected other : Collected} (distinct : (collected.map Prod.fst).Nodup)
    (perm : collected.Perm other) :
    let fresh := store.unknownMetrics collected status
    store.unknownMetrics other status = fresh ∧
    fresh.Pairwise (fun left right => Text.bytes left.name < Text.bytes right.name) ∧
    (∀ name value, (name, value) ∈ collected →
      (∀ states, store.states = some states → states.contains name = false) →
        fresh.filter (fun definition => definition.name = name) =
          [⟨name, value.typeName, status, [], none⟩]) ∧
    (∀ name, (name ∉ collected.map Prod.fst ∨
      ∃ states, store.states = some states ∧ states.contains name = true) →
        fresh.filter (fun definition => definition.name = name) = []) ∧
    ∀ controller : Controller,
      controller.enableNewMetrics other = controller.enableNewMetrics collected := by
  intro fresh
  refine ⟨store.unknownMetrics_eq_of_perm status distinct perm, ?_, ?_, ?_,
    fun controller => controller.enableNewMetrics_eq_of_perm distinct perm⟩
  · exact (store.unknownMetrics_sorted status distinct).imp Text.lt_iff_bytes_lt.mp
  · intro name value member unknown
    have missed : store.knows name = false := by
      rw [Bool.eq_false_iff, Ne, knows_iff]
      rintro ⟨states, loaded, known⟩
      rw [unknown states loaded] at known
      cases known
    rw [filter_unknownMetrics distinct member missed, MetricDefinition.ofKind, value.word_kind]
  · intro name absent
    exact filter_unknownMetrics_eq_nil (absent.imp_right knows_iff.mpr)

/-- Of five metrics one is known; the others come in the order of their bytes. -/
theorem unknownMetrics_order_free_swapped :
    let store : MetricStore := { MetricStore.inDirectory "state" ⟨0⟩ with
      states := some (NameMap.ofList [("load", "available")]) }
    let collected : Collected := [("users", .text "3"), ("\uFF5E", .histogram []),
      ("load", .scalar 1), ("😀", .text ""), ("Zone", .scalar 2)]
    let other : Collected := collected.reverse
    let fresh := [⟨"Zone", "numeric", "active", [], none⟩, ⟨"users", "text", "active", [], none⟩,
      ⟨"\uFF5E", "histogram", "active", [], none⟩, ⟨"😀", "text", "active", [], none⟩]
    (collected.map Prod.fst).Nodup ∧ collected.Perm other ∧
      store.unknownMetrics collected "active" = fresh ∧
      store.unknownMetrics other "active" = fresh ∧
      fresh.Pairwise (fun left right => Text.bytes left.name < Text.bytes right.name) := by
  intro store collected other fresh
  have distinct : (collected.map Prod.fst).Nodup := by decide +kernel
  have perm : collected.Perm other := (List.reverse_perm collected).symm
  have sorts : fresh.Perm (store.unknownMetrics collected "active") := by
    refine List.Perm.trans ?_ (List.mergeSort_perm _ _).symm
    decide +kernel
  have listed : store.unknownMetrics collected "active" = fresh :=
    (eq_unknownMetrics distinct sorts (by decide +kernel)).symm
  obtain ⟨same, sorted, -⟩ := unknownMetrics_order_free store "active" distinct perm
  rw [listed] at same sorted
  exact ⟨distinct, perm, listed, same, sorted⟩

end MetricStore
end CheckBinding
