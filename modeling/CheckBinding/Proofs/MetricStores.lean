import CheckBinding.Agent.MetricStore
import CheckBinding.Proofs.Execution
import CheckBinding.Proofs.NameMaps
import Mathlib.Data.List.Nodup

/-!
What a store knows, which collected metrics are new to it, and what refreshing comes to.
-/

namespace CheckBinding.MetricStore

/-! ### Known names -/

private theorem names_eq (metrics : List MetricDefinition) :
    (metrics.map (fun metric => (metric.name, metric.status))).map Prod.fst =
      metrics.map MetricDefinition.name := by
  simp [Function.comp_def]

theorem contains_absorb {states : StateFile.States} {metrics : List MetricDefinition}
    {name : String} :
    (absorb states metrics).contains name = true ↔
      states.contains name = true ∨ name ∈ metrics.map MetricDefinition.name := by
  rw [absorb, NameMap.contains_insertAll, names_eq]

theorem mem_or_of_get?_absorb {states : StateFile.States} {metrics : List MetricDefinition}
    {name status : String} (found : (absorb states metrics).get? name = some status) :
    (∃ metric ∈ metrics, metric.name = name ∧ metric.status = status) ∨
      states.get? name = some status := by
  rcases NameMap.mem_or_of_get?_insertAll found with member | before
  · obtain ⟨metric, present, same⟩ := List.mem_map.mp member
    cases same
    exact Or.inl ⟨metric, present, rfl, rfl⟩
  · exact Or.inr before

/-- Definitions out of a list that repeats no name give their names their status. -/
theorem get?_absorb {states : StateFile.States} {metrics listed : List MetricDefinition}
    (distinct : (listed.map MetricDefinition.name).Nodup)
    (within : ∀ metric ∈ metrics, metric ∈ listed) {metric : MetricDefinition}
    (member : metric ∈ metrics) :
    (absorb states metrics).get? metric.name = some metric.status := by
  refine NameMap.get?_insertAll_of_mem (List.mem_map_of_mem member) ?_
  intro other found
  obtain ⟨twin, present, same⟩ := List.mem_map.mp found
  obtain ⟨names, status⟩ := Prod.mk.inj same
  rw [← status, List.inj_on_of_nodup_map distinct (within twin present) (within metric member)
    names]

@[simp]
theorem knows_markPending (store : MetricStore) (name : String) :
    store.markPending.knows name = store.knows name :=
  rfl

/-- Definitions that are taken in make their names known, beside those known before. -/
theorem knows_merge {store : MetricStore} {metrics : List MetricDefinition} {now : Nat}
    {name : String} :
    (store.merge metrics now).knows name = true ↔
      store.knows name = true ∨ name ∈ metrics.map MetricDefinition.name := by
  have taken : (store.merge metrics now).knows name =
      (absorb (store.states.getD NameMap.empty) metrics).contains name := rfl
  rw [taken, contains_absorb, knows]
  cases store.states <;> rfl

/-! ### New metrics -/

theorem mem_unknownMetrics {store : MetricStore} {collected : Collected} {status : String}
    {definition : MetricDefinition} :
    definition ∈ store.unknownMetrics collected status ↔
      ∃ metric ∈ collected, store.knows metric.1 = false ∧
        definition = MetricDefinition.ofKind metric.1 metric.2.kind status := by
  rw [unknownMetrics, List.mem_mergeSort, List.mem_map]
  constructor
  · rintro ⟨metric, member, rfl⟩
    obtain ⟨present, unknown⟩ := List.mem_filter.mp member
    exact ⟨metric, present, by simpa using unknown, rfl⟩
  · rintro ⟨metric, present, unknown, rfl⟩
    exact ⟨metric, List.mem_filter.mpr ⟨present, by simp [unknown]⟩, rfl⟩

/-- The new names are those that are collected and not known. -/
theorem mem_unknownMetrics_names {store : MetricStore} {collected : Collected}
    {status name : String} :
    name ∈ (store.unknownMetrics collected status).map MetricDefinition.name ↔
      name ∈ collected.map Prod.fst ∧ store.knows name = false := by
  rw [List.mem_map, List.mem_map]
  constructor
  · rintro ⟨definition, present, rfl⟩
    obtain ⟨metric, member, unknown, rfl⟩ := mem_unknownMetrics.mp present
    exact ⟨⟨metric, member, rfl⟩, unknown⟩
  · rintro ⟨⟨metric, member, rfl⟩, unknown⟩
    exact ⟨_, mem_unknownMetrics.mpr ⟨metric, member, unknown, rfl⟩, rfl⟩

theorem not_knows_of_mem_unknownMetrics {store : MetricStore} {collected : Collected}
    {status name : String}
    (member : name ∈ (store.unknownMetrics collected status).map MetricDefinition.name) :
    store.knows name = false :=
  (mem_unknownMetrics_names.mp member).2

/-- The definitions to be submitted stand in the order of their names, and no name is repeated when
none is collected twice. -/
theorem unknownMetrics_sorted (store : MetricStore) {collected : Collected} (status : String)
    (distinct : (collected.map Prod.fst).Nodup) :
    (store.unknownMetrics collected status).Pairwise
      (fun left right => left.name < right.name) := by
  have ordered : (store.unknownMetrics collected status).Pairwise
      (fun left right => decide (left.name ≤ right.name) = true) := by
    refine List.pairwise_mergeSort ?_ ?_ _
    · intro first second third left right
      rw [decide_eq_true_eq] at left right ⊢
      exact String.le_trans left right
    · intro first second
      rw [Bool.or_eq_true, decide_eq_true_eq, decide_eq_true_eq]
      exact String.le_total first.name second.name
  have names : ((store.unknownMetrics collected status).map MetricDefinition.name).Nodup := by
    have sorted := (List.mergeSort_perm
      ((collected.filter (fun metric => !store.knows metric.1)).map
        (fun metric => MetricDefinition.ofKind metric.1 metric.2.kind status))
      (fun left right => left.name ≤ right.name)).map MetricDefinition.name
    rw [unknownMetrics, sorted.nodup_iff, List.map_map]
    exact distinct.sublist (List.filter_sublist.map Prod.fst)
  -- Sorting orders the names weakly, and no two of them are the same.
  refine (ordered.and (List.pairwise_map.mp names)).imp ?_
  rintro left right ⟨before, different⟩
  rw [decide_eq_true_eq] at before
  exact String.not_le.mp (fun after => different (String.le_antisymm before after))

/-! ### Refreshing -/

section Refreshing

variable {State : Type} {answer : State → (effect : Effect) → effect.Answer × State} {state : State}
  {cid : String}

theorem run_fetchRoster {bytes : ByteArray} {metrics : List MetricDefinition}
    (served : (answer state (.call (.get (Cid.rosterOf cid)))).1 = .ok bytes)
    (decoded : Json.decodeBytes rosterOfJson bytes = .ok metrics) :
    (fetchRoster cid).run answer state =
      (.ok metrics, (answer state (.call (.get (Cid.rosterOf cid)))).2) := by
  have asked : ∀ activity, (Resolution.ask activity (.get (Cid.rosterOf cid))).run answer state =
      (.ok bytes, (answer state (.call (.get (Cid.rosterOf cid)))).2) := by
    intro activity
    rw [Resolution.ask, Program.run_bind, Program.call, Program.run_ask, served]
    rfl
  rw [fetchRoster, Program.run_bind, asked]
  simp only [decoded, Except.mapError, Program.run_pure]

/-- Whatever comes of writing it, a store takes in what it is given. -/
theorem run_absorbKnown (store : MetricStore) (metrics : List MetricDefinition) (state : State) :
    ∃ written final, (store.absorbKnown metrics).run answer state =
      ((store.merge metrics (answer state .clock).1, written), final) := by
  rw [absorbKnown, Program.run_bind, Program.run_bind]
  exact ⟨_, _, rfl⟩

theorem run_refresh_known (store : MetricStore) (cid : String) (metrics : List MetricDefinition)
    (state : State) :
    ∃ written final, (store.refreshFromRemote cid (some metrics)).run answer state =
      ((store.merge metrics (answer state .clock).1, .ok written), final) := by
  obtain ⟨written, final, absorbed⟩ := @run_absorbKnown _ answer store metrics state
  refine ⟨written, final, ?_⟩
  rw [refreshFromRemote, Program.run_bind, absorbed]
  rfl

theorem run_refresh_read {metrics : List MetricDefinition} {between : State}
    (read : (fetchRoster cid).run answer state = (.ok metrics, between)) (store : MetricStore) :
    ∃ written final, (store.refreshFromRemote cid none).run answer state =
      ((store.merge metrics (answer between .clock).1, .ok written), final) := by
  obtain ⟨written, final, absorbed⟩ := @run_absorbKnown _ answer store metrics between
  refine ⟨written, final, ?_⟩
  rw [refreshFromRemote, Program.run_bind, read]
  change (store.absorbKnown metrics >>= _).run answer between = _
  rw [Program.run_bind, absorbed]
  rfl

end Refreshing

end CheckBinding.MetricStore
