import CheckBinding.Proofs.MetricDiffs
import CheckBinding.Proofs.RosterAnswers

/-!
Merging definitions into a store.

A name has the status of the last definition that was merged under it, so definitions can be merged
in one go or in several. Nothing that was merged is forgotten: a store only gets to know more
names, and fewer collected metrics are new to it.
-/

namespace CheckBinding.MetricStore

open Api.Memory (entryOf)

/-! ### Last definitions -/

/-- From the end of a list the definition is found that no other one of its name follows. -/
theorem entryOf_reverse_eq_some {metrics : List MetricDefinition} {name : String}
    {metric : MetricDefinition} (found : entryOf metrics.reverse name = some metric) :
    ∃ before after, metrics = before ++ metric :: after ∧ metric.name = name ∧
      name ∉ after.map MetricDefinition.name := by
  obtain ⟨named, later, earlier, split, others⟩ := List.find?_eq_some_iff_append.mp found
  refine ⟨earlier.reverse, later.reverse, ?_, of_decide_eq_true named, ?_⟩
  · rw [← List.reverse_reverse metrics, split]
    simp
  · intro repeated
    obtain ⟨twin, member, same⟩ := List.mem_map.mp repeated
    have different := others twin (List.mem_reverse.mp member)
    simp [same] at different

theorem statusOf_merge_of_mem (store : MetricStore) {metrics : List MetricDefinition} (now : Nat)
    {name : String} (listed : name ∈ metrics.map MetricDefinition.name) :
    ∃ before metric after, metrics = before ++ metric :: after ∧ metric.name = name ∧
      name ∉ after.map MetricDefinition.name ∧
      (store.merge metrics now).statusOf name = some metric.status := by
  cases found : entryOf metrics.reverse name with
  | none =>
      exact absurd listed (Api.Memory.entryOf_reverse_eq_none.mp found)
  | some metric =>
      obtain ⟨before, after, split, named, last⟩ := entryOf_reverse_eq_some found
      refine ⟨before, metric, after, split, named, last, ?_⟩
      rw [statusOf_merge, found]
      rfl

theorem statusOf_merge_of_not_mem (store : MetricStore) {metrics : List MetricDefinition}
    (now : Nat) {name : String} (unlisted : name ∉ metrics.map MetricDefinition.name) :
    (store.merge metrics now).statusOf name = store.statusOf name := by
  rw [statusOf_merge, Api.Memory.entryOf_reverse_eq_none.mpr unlisted]
  rfl

/-! ### One merge after the other -/

theorem absorb_append (states : StateFile.States) (first second : List MetricDefinition) :
    absorb states (first ++ second) = absorb (absorb states first) second := by
  rw [absorb, List.map_append, NameMap.insertAll_append]
  rfl

theorem merge_merge (store : MetricStore) (first second : List MetricDefinition)
    (earlier now : Nat) :
    (store.merge first earlier).merge second now = store.merge (first ++ second) now := by
  have states := absorb_append (store.states.getD NameMap.empty) first second
  simp only [merge, states, Option.getD_some]

def mergeAll (store : MetricStore) (merges : List (List MetricDefinition × Nat)) : MetricStore :=
  merges.foldl (fun merged taken => merged.merge taken.1 taken.2) store

/-- A sequence of merges knows what the store knew and each name of the merged definitions. -/
theorem knows_mergeAll {store : MetricStore} {merges : List (List MetricDefinition × Nat)}
    {name : String} :
    (store.mergeAll merges).knows name = true ↔
      store.knows name = true ∨
        name ∈ (merges.flatMap Prod.fst).map MetricDefinition.name := by
  induction merges generalizing store with
  | nil => simp [mergeAll]
  | cons taken merges ih =>
      have next : store.mergeAll (taken :: merges) =
        (store.merge taken.1 taken.2).mergeAll merges := rfl
      rw [next, ih, knows_merge, List.flatMap_cons, List.map_append, List.mem_append, or_assoc]

theorem knows_mergeAll_eq_false {store : MetricStore}
    {merges : List (List MetricDefinition × Nat)} {name : String} :
    (store.mergeAll merges).knows name = false ↔
      store.knows name = false ∧
        name ∉ (merges.flatMap Prod.fst).map MetricDefinition.name := by
  rw [← Bool.not_eq_true, knows_mergeAll, not_or, Bool.not_eq_true]

/-- What is new after a sequence of merges is what was new before, without the merged names. -/
theorem unknownMetrics_mergeAll (store : MetricStore)
    (merges : List (List MetricDefinition × Nat)) {collected : Collected} (status : String)
    (distinct : (collected.map Prod.fst).Nodup) :
    (store.mergeAll merges).unknownMetrics collected status =
      (store.unknownMetrics collected status).filter (fun definition =>
        definition.name ∉ (merges.flatMap Prod.fst).map MetricDefinition.name) := by
  -- Both sides are in strict order of the names, so it is enough that their members are the same.
  have sorted := (store.unknownMetrics_sorted status distinct).filter (fun definition =>
    definition.name ∉ (merges.flatMap Prod.fst).map MetricDefinition.name)
  refine (eq_unknownMetrics distinct ?_ sorted).symm
  have before := (store.nodup_unknownMetrics status distinct).of_map
  have after := ((store.mergeAll merges).nodup_unknownMetrics status distinct).of_map
  refine (List.perm_ext_iff_of_nodup (before.filter _) after).mpr (fun definition => ?_)
  rw [List.mem_filter, mem_unknownMetrics, mem_unknownMetrics, decide_eq_true_eq]
  constructor
  · rintro ⟨⟨metric, member, unknown, rfl⟩, unmerged⟩
    exact ⟨metric, member, knows_mergeAll_eq_false.mpr ⟨unknown, unmerged⟩, rfl⟩
  · rintro ⟨metric, member, unknown, rfl⟩
    obtain ⟨unknownBefore, unmerged⟩ := knows_mergeAll_eq_false.mp unknown
    exact ⟨⟨metric, member, unknownBefore, rfl⟩, unmerged⟩

theorem mergeAll_append (store : MetricStore)
    (earlier later : List (List MetricDefinition × Nat)) :
    store.mergeAll (earlier ++ later) = (store.mergeAll earlier).mergeAll later :=
  List.foldl_append

/-- After a merge a name has the status of its last definition, and other names keep theirs. Two
merges come to one of both lists. However many merges follow, no known name is forgotten, and of the
collected metrics that were new those of the merged names are new no more. -/
theorem merge_last_wins (store : MetricStore) :
    (∀ metrics now,
      let merged := store.merge metrics now
      (∀ name ∈ metrics.map MetricDefinition.name, ∃ before metric after,
        metrics = before ++ metric :: after ∧ metric.name = name ∧
          name ∉ after.map MetricDefinition.name ∧ merged.statusOf name = some metric.status) ∧
      (∀ name ∉ metrics.map MetricDefinition.name,
        merged.statusOf name = store.statusOf name) ∧
      merged.pendingUpdate = false ∧ merged.lastRefresh = some now) ∧
    (∀ first second earlier now,
      (store.merge first earlier).merge second now = store.merge (first ++ second) now) ∧
    ∀ earlier later,
      let before := store.mergeAll earlier
      let after := store.mergeAll (earlier ++ later)
      (∀ name, before.knows name = true → after.knows name = true) ∧
      ∀ collected status, (collected.map Prod.fst).Nodup →
        after.unknownMetrics collected status =
          (before.unknownMetrics collected status).filter (fun definition =>
            definition.name ∉ (later.flatMap Prod.fst).map MetricDefinition.name) := by
  refine ⟨fun metrics now => ⟨fun name listed => ?_, fun name unlisted => ?_, rfl, rfl⟩,
    store.merge_merge, fun earlier later => ?_⟩
  · exact store.statusOf_merge_of_mem now listed
  · exact store.statusOf_merge_of_not_mem now unlisted
  · rw [mergeAll_append]
    refine ⟨fun name known => ?_, fun collected status distinct => ?_⟩
    · exact knows_mergeAll.mpr (Or.inl known)
    · exact (store.mergeAll earlier).unknownMetrics_mergeAll later status distinct

/-- A list that repeats a name, a name that only the store has, and three collected metrics of which
one is merged first and one later. -/
theorem merge_last_wins_repeated :
    let store : MetricStore := { MetricStore.inDirectory "state" ⟨0⟩ with
      states := some (NameMap.ofList [("idle", "active")])
      pendingUpdate := true }
    let cpu : MetricDefinition := ⟨"cpu", "numeric", "active", [], none⟩
    let load : MetricDefinition := ⟨"load", "numeric", "active", [], none⟩
    let off : MetricDefinition := ⟨"cpu", "numeric", "available", [], none⟩
    let merged := store.merge [cpu, load, off] 5
    let collected : Collected := [("users", .text "3"), ("load", .scalar 1), ("cpu", .scalar 2)]
    let before := store.mergeAll [([cpu], 3)]
    let after := store.mergeAll [([cpu], 3), ([off, load], 5)]
    merged.statusOf "cpu" = some "available" ∧ merged.statusOf "idle" = some "active" ∧
      merged.pendingUpdate = false ∧ merged = (store.merge [cpu] 3).merge [load, off] 5 ∧
      after.knows "cpu" = true ∧
      before.unknownMetrics collected "active" =
        [load, ⟨"users", "text", "active", [], none⟩] ∧
      after.unknownMetrics collected "active" = [⟨"users", "text", "active", [], none⟩] := by
  intro store cpu load off merged collected before after
  obtain ⟨taken, joined, sequences⟩ := merge_last_wins store
  obtain ⟨listed, unlisted, pending, -⟩ := taken [cpu, load, off] 5
  obtain ⟨earlier, metric, later, split, named, last, status⟩ := listed "cpu" (by decide +kernel)
  obtain rfl : metric = off := by
    match earlier with
    | [] =>
        obtain ⟨-, rfl⟩ := List.cons.inj split
        exact absurd (by decide +kernel) last
    | [_] =>
        obtain ⟨rfl, -⟩ := List.cons.inj (List.cons.inj split).2
        exact absurd named (by decide +kernel)
    | [_, _] => exact (List.cons.inj (List.cons.inj (List.cons.inj split).2).2).1.symm
    | _ :: _ :: _ :: _ => simp at split
  have idle := unlisted "idle" (by decide +kernel)
  obtain ⟨kept, shrunk⟩ := sequences [([cpu], 3)] [([off, load], 5)]
  have cpuKept : after.knows "cpu" = true := kept "cpu" (by decide +kernel)
  have distinct : (collected.map Prod.fst).Nodup := by decide +kernel
  have unknownBefore : before.unknownMetrics collected "active" =
      [load, ⟨"users", "text", "active", [], none⟩] := by
    refine (eq_unknownMetrics distinct ?_ (by decide +kernel)).symm
    refine List.Perm.trans ?_ (List.mergeSort_perm _ _).symm
    decide +kernel
  have unknownAfter := shrunk collected "active" distinct
  rw [unknownBefore] at unknownAfter
  exact ⟨status, idle.trans (by decide +kernel), pending, (joined [cpu] [load, off] 3 5).symm,
    cpuKept, unknownBefore, unknownAfter.trans (by decide +kernel)⟩

end CheckBinding.MetricStore
