import CheckBinding.Proofs.Courses
import CheckBinding.Proofs.MetricStores

/-!
What enabling new metrics does to a bundle that others have edited.

New metrics are told from known ones by what the store knows, and then they are put behind the
metrics of a fresh copy of the bundle. The copy may list a name that the store has never seen. Such
a name stands in the bundle twice if it is collected too, and the later entry takes the place of
the other one on the roster.
-/

namespace CheckBinding

open Program

/-! ### Extensions -/

def Bundle.metricNames (bundle : Bundle) : List String :=
  bundle.metrics.map MetricDefinition.name

theorem Bundle.metricNames_extendedBy (bundle : Bundle) (added : List MetricDefinition) :
    (bundle.extendedBy added).metricNames =
      bundle.metricNames ++ added.map MetricDefinition.name :=
  List.map_append

namespace MetricStore

theorem nodup_unknownMetrics_names (store : MetricStore) {collected : Collected} (status : String)
    (distinct : (collected.map Prod.fst).Nodup) :
    ((store.unknownMetrics collected status).map MetricDefinition.name).Nodup := by
  rw [List.Nodup, List.pairwise_map]
  refine (store.unknownMetrics_sorted status distinct).imp (fun before same => ?_)
  rw [same] at before
  exact String.lt_irrefl _ before

/-- New metrics are new to a bundle just when the store knows what the bundle lists of the metrics
that are collected; then and only then an extension by them repeats no name. -/
theorem extension_distinct_iff (store : MetricStore) {collected : Collected} (status : String)
    (candidates : (collected.map Prod.fst).Nodup) {fresh : Bundle}
    (distinct : fresh.metricNames.Nodup) :
    ((fresh.extendedBy (store.unknownMetrics collected status)).metricNames.Nodup ∧
      ∀ metric ∈ store.unknownMetrics collected status, metric.name ∉ fresh.metricNames) ↔
    ∀ name ∈ collected.map Prod.fst, name ∈ fresh.metricNames → store.knows name = true := by
  constructor
  · rintro ⟨-, absent⟩ name candidate listed
    cases known : store.knows name with
    | true => rfl
    | false =>
        obtain ⟨metric, member, rfl⟩ :=
          List.mem_map.mp (mem_unknownMetrics_names.mpr ⟨candidate, known⟩)
        exact absurd listed (absent metric member)
  · intro known
    have absent : ∀ metric ∈ store.unknownMetrics collected status,
        metric.name ∉ fresh.metricNames := by
      intro metric member listed
      have new := mem_unknownMetrics_names.mp (List.mem_map_of_mem member)
      rw [known metric.name new.1 listed] at new
      cases new.2
    refine ⟨?_, absent⟩
    rw [Bundle.metricNames_extendedBy, List.nodup_append]
    refine ⟨distinct, store.nodup_unknownMetrics_names status candidates, ?_⟩
    intro name listed other added same
    obtain ⟨metric, member, rfl⟩ := List.mem_map.mp added
    exact absent metric member (same ▸ listed)

end MetricStore

/-! ### The roster -/

namespace Api.Memory

/-- Merging an extension by definitions of one status in gives the names that are added this
status, and leaves the other metrics of the bundle theirs. -/
theorem status_mergeMetrics_extension (roster : List MetricDefinition)
    {metrics added : List MetricDefinition} {status : String}
    (distinct : (metrics.map MetricDefinition.name).Nodup)
    (alike : ∀ metric ∈ added, metric.status = status) {metric : MetricDefinition}
    (member : metric ∈ metrics) :
    (entryOf (mergeMetrics roster (metrics ++ added)) metric.name).map MetricDefinition.status =
      some (if metric.name ∈ added.map MetricDefinition.name then status else metric.status) := by
  -- The last entry of a name decides, so the lookup goes through the extension from behind.
  have listed : entryOf metrics.reverse metric.name = some metric := by
    refine entryOf_of_mem ?_ (List.mem_reverse.mpr member)
    rw [List.map_reverse]
    exact List.nodup_reverse.mpr distinct
  rw [entryOf_mergeMetrics, List.reverse_append, entryOf_append, listed]
  cases last : entryOf added.reverse metric.name with
  | none =>
      have absent := entryOf_eq_none.mp last
      rw [List.map_reverse, List.mem_reverse] at absent
      rw [if_neg absent]
      rfl
  | some replacing =>
      have among := List.mem_reverse.mp (List.mem_of_find?_eq_some last)
      have named : replacing.name = metric.name := by simpa using List.find?_some last
      have present : metric.name ∈ added.map MetricDefinition.name :=
        List.mem_map.mpr ⟨replacing, among, named⟩
      rw [if_pos present, ← alike replacing among]
      rfl

end Api.Memory

/-! ### Enabling -/

namespace Controller

variable {controller : Controller} {transcript : Transcript}

abbrev added (controller : Controller) (collected : Collected) (store : MetricStore) :
    List MetricDefinition :=
  store.unknownMetrics collected controller.config.activeMetricStatus

/-- What enabling submits for a fresh copy of the bundle: the copy with the new metrics behind it.
Both equivalences tell when the new metrics are new to the copy, too. -/
structure Extends (controller : Controller) (collected : Collected) (fresh : Bundle)
    (store : MetricStore) (transcript : Transcript) : Prop where
  submitted : ∀ bundle, .update bundle ∈ transcript.calls ↔
    bundle = fresh.extendedBy (controller.added collected store)
  kept : ∀ metric ∈ fresh.metrics,
    metric ∈ (fresh.extendedBy (controller.added collected store)).metrics
  distinct_iff :
    ((fresh.extendedBy (controller.added collected store)).metricNames.Nodup ∧
      ∀ metric ∈ controller.added collected store, metric.name ∉ fresh.metricNames) ↔
    ∀ name ∈ collected.map Prod.fst, name ∈ fresh.metricNames → store.knows name = true
  /-- The service in memory keeps the status of a metric that its roster and the copy list alike. -/
  status_iff : ∀ (memory : Api.Memory) (after : Api.Memory) updated,
    memory.answer (.update (fresh.extendedBy (controller.added collected store))) =
      (.ok updated, after) →
    ∀ metric ∈ fresh.metrics,
      Api.Memory.entryOf (memory.roster fresh.cid) metric.name = some metric →
      ((Api.Memory.entryOf (after.roster fresh.cid) metric.name).map MetricDefinition.status =
          some metric.status ↔
        (metric.name ∈ collected.map Prod.fst → store.knows metric.name = true) ∨
          metric.status = controller.config.activeMetricStatus)

theorem extends_of_submitted {collected : Collected} {fresh : Bundle} {store : MetricStore}
    (submitted : ∀ bundle, .update bundle ∈ transcript.calls ↔
      bundle = fresh.extendedBy (controller.added collected store))
    (distinct : fresh.metricNames.Nodup) (candidates : (collected.map Prod.fst).Nodup) :
    Extends controller collected fresh store transcript := by
  refine ⟨submitted, fun metric member => List.mem_append_left _ member,
    store.extension_distinct_iff _ candidates distinct, ?_⟩
  intro memory after updated accepted metric member _
  have merged := Api.Memory.roster_of_update (congrArg Prod.fst accepted)
  rw [accepted] at merged
  have alike : ∀ added ∈ controller.added collected store,
      added.status = controller.config.activeMetricStatus := by
    intro added new
    obtain ⟨candidate, -, -, rfl⟩ := MetricStore.mem_unknownMetrics.mp new
    rfl
  have status := Api.Memory.status_mergeMetrics_extension (memory.roster fresh.cid) distinct alike
    member
  change after.roster fresh.cid = Api.Memory.mergeMetrics (memory.roster fresh.cid)
    (fresh.metrics ++ controller.added collected store) at merged
  rw [merged, status, Option.some.injEq]
  by_cases new : metric.name ∈ (controller.added collected store).map MetricDefinition.name
  · obtain ⟨candidate, unknown⟩ := MetricStore.mem_unknownMetrics_names.mp new
    rw [if_pos new]
    simp [candidate, unknown, eq_comm]
  · have known : metric.name ∈ collected.map Prod.fst → store.knows metric.name = true := by
      intro candidate
      rw [← Bool.not_eq_false]
      exact fun unknown => new (MetricStore.mem_unknownMetrics_names.mpr ⟨candidate, unknown⟩)
    rw [if_neg new]
    exact iff_of_true rfl (Or.inl known)

theorem Submitting.submits {store : MetricStore} {cid asked : String}
    {added : List MetricDefinition} {outcome : Outcome Unit} {fresh : Bundle}
    (submitting : Submitting controller store cid added transcript outcome)
    (fetched : transcript.Answered (.fetchBundle asked) (.ok fresh)) (bundle : Bundle) :
    .update bundle ∈ transcript.calls ↔ bundle = fresh.extendedBy added := by
  cases submitting with
  | unfetched =>
      have same := List.mem_singleton.mp fetched
      cases same
  | refused =>
      rcases List.mem_cons.mp fetched with same | later
      · cases same
        simp [Transcript.calls, Exchange.call?]
      · have same := List.mem_singleton.mp later
        cases same
  | @accepted copy updated now writes persisted written =>
      have supplies := MetricStore.supplies_of_persist written
      have noUpdate := Transcript.not_mem_calls_of_supplies supplies
      rcases List.mem_cons.mp fetched with same | later
      · cases same
        have counted : Transcript.calls
            (writes ++ [⟨.count .metricsEnabled added.length, ()⟩]) = writes.calls := by
          rw [Transcript.calls_append]
          exact List.append_nil _
        change _ ∈ Api.Call.fetchBundle cid :: .update (fresh.extendedBy added) ::
          Transcript.calls (writes ++ [⟨.count .metricsEnabled added.length, ()⟩]) ↔ _
        rw [counted]
        simp [noUpdate bundle]
      · rcases List.mem_cons.mp later with same | rest
        · cases same
        · rcases List.mem_cons.mp rest with same | last
          · cases same
          · rcases List.mem_append.mp last with writing | counting
            · exact (supplies _ writing).elim
            · have same := List.mem_singleton.mp counting
              cases same

/-- A fetched copy of the bundle is submitted with the new metrics behind it. The submission repeats
no name and adds only names that the copy does not list, and the roster keeps the status of what
the copy lists, just when the store knows whatever the copy lists of the metrics collected. -/
theorem enabling_extends_iff {collected : Collected} {outcome : Outcome Unit} {fresh : Bundle}
    (course : Course (controller.enableNewMetrics collected) transcript outcome)
    (fetched : fresh ∈ transcript.copies)
    (distinct : fresh.metricNames.Nodup) (candidates : (collected.map Prod.fst).Nodup) :
    ∃ held store current part, controller.Managing held store ∧ part <+: transcript ∧
      Current store held.cid part current ∧
      Extends controller collected fresh current transcript := by
  obtain ⟨cid, fetched⟩ := Transcript.answered_of_mem_copies fetched
  have met : ∀ {part : Transcript}, part.Answered (.fetchBundle cid) (.ok fresh) →
      (∀ exchange ∈ part, exchange.effect.Supplies) → False :=
    fun answered supplies => supplies _ answered
  cases enabling_of_course course with
  | idle idle => cases fetched
  | unseeded managing empty refreshing => exact (met fetched refreshing.supplies).elim
  | seeded managing empty refreshing => exact (met fetched refreshing.supplies).elim
  | unread managing loaded due refreshing =>
      rcases List.mem_cons.mp fetched with same | later
      · cases same
      · exact (met later refreshing.supplies).elim
  | unwritten managing loaded due refreshing =>
      rcases List.mem_cons.mp fetched with same | later
      · cases same
      · exact (met later refreshing.supplies).elim
  | known managing loaded current nothing => exact (met fetched current.supplies).elim
  | @submitted held store current first second outcome managing loaded upToDate new submitting =>
      have answered := (Transcript.answered_append.mp fetched).resolve_left
        (fun before => met before upToDate.supplies)
      have silent := Transcript.not_mem_calls_of_supplies upToDate.supplies
      refine ⟨held, store, current, first, managing, List.prefix_append first second, upToDate,
        extends_of_submitted (fun bundle => ?_) distinct candidates⟩
      rw [Transcript.calls_append, List.mem_append, submitting.submits answered bundle]
      exact or_iff_right (silent bundle)

/-- A metric that the copy lists is known and stays as it is, and another one is added. -/
theorem enabling_extends_iff_known :
    let bundle : Bundle := { Bundle.blank with
      cid := "/check_bundle/1", status := Bundle.activeStatus
      metrics := [.ofKind "cpu" .text "available"] }
    let world := World.quiet
      ((Api.Memory.fresh.insertBundle bundle).setRoster bundle.cid bundle.metrics)
      Storage.FileSystem.empty
    let config := { Config.standard with enableNewMetrics := true, stateDir := some "." }
    let known := (MetricStore.inDirectory "." config.metricRefreshTtl).merge bundle.metrics 0
    let controller := { (unbound config).bind bundle with managing := true, store := some known }
    let collected : Collected := [("cpu", .text "0.2"), ("load", .text "0.1")]
    let enabling := controller.enableNewMetrics collected
    bundle ∈ (world.record Api.Memory.answer enabling).copies ∧
      ∃ held store current part, controller.Managing held store ∧
        part <+: world.record Api.Memory.answer enabling ∧ Current store held.cid part current ∧
        Extends controller collected bundle current
          (world.record Api.Memory.answer enabling) := by
  intro bundle world config known controller collected enabling
  have fetched : bundle ∈ (world.record Api.Memory.answer enabling).copies := by decide +kernel
  refine ⟨fetched, ?_⟩
  exact enabling_extends_iff (world.course_run enabling) fetched (by decide +kernel)
    (by decide +kernel)

/-- A service in memory where someone puts metrics into a bundle and on its roster once the roster
was read. -/
def editedOnceRead (edited : Bundle) (memory : Api.Memory) :
    (call : Api.Call) → call.Answer × Api.Memory
  | .get path =>
      let (answer, after) := memory.answer (.get path)
      (answer, (after.insertBundle edited).setRoster edited.cid edited.metrics)
  | call => memory.answer call

/-- A metric that someone put into the bundle as available is submitted a second time as active,
and that is its status on the roster then. -/
theorem edited_metric_repeated :
    let bundle : Bundle :=
      { Bundle.blank with cid := "/check_bundle/1", status := Bundle.activeStatus }
    let edited := { bundle with metrics := [.ofKind "load" .text "available"] }
    let world := World.quiet (Api.Memory.fresh.insertBundle bundle) Storage.FileSystem.empty
    let config := { Config.standard with
      bundleId := some "1", enableNewMetrics := true, stateDir := some "." }
    let session := (unbound config).session [.start, .enable [], .enable [("load", .text "0.1")]]
    let enabled := world.run (editedOnceRead edited) session
    edited ∈ (world.record (editedOnceRead edited) session).copies ∧
      edited.metricNames.Nodup ∧
      enabled.2.service.updated.map Bundle.metricNames = [["load", "load"]] ∧
      (Api.Memory.entryOf (enabled.2.service.roster bundle.cid) "load").map
        MetricDefinition.status = some "active" := by
  decide +kernel

end Controller
end CheckBinding
