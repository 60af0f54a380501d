import CheckBinding.Proofs.Json.Bundles
import CheckBinding.Proofs.Memories
import CheckBinding.Proofs.MetricStores
import Mathlib.Control.Monad.Basic

/-!
What is read from the service after it was written to.

A path is answered with the document of the bundle or the roster that it names, whatever the order
in which the service goes through its bundles. So a store that reads a roster again after an update
and one that takes the answer to the update in instead know the same of all that was submitted.
-/

namespace CheckBinding

open Api

namespace Api.Memory

variable {memory : Memory} {order : List String} {cid : String}

/-! ### Reading -/

/-- Serves a path, where the identifiers of the bundles are gone through in some order. -/
def serveAlong (memory : Memory) (order : List String) (path : String) :
    Except Fault ByteArray :=
  if (Text.after? Cid.rosterPath path).isSome then
    match order.find? (fun cid => Cid.rosterOf cid = path) with
    | some cid => .ok (rosterJson path (memory.roster cid)).toBytes
    | none => .error (.notFound path)
  else
    match memory.bundle? path with
    | some bundle => .ok bundle.toJson.toBytes
    | none => .error (.notFound path)

theorem Addressed.serveAlong_eq (addressed : memory.Addressed)
    (perm : order.Perm memory.bundles.names) (path : String) :
    memory.serveAlong order path = memory.serve path := by
  have canonical : ∀ other ∈ order, Cid.isCanonical .checkBundle other = true :=
    fun other member => addressed other (perm.mem_iff.mp member)
  have found : order.find? (fun other => Cid.rosterOf other = path) =
      memory.bundles.names.find? (fun other => Cid.rosterOf other = path) := by
    apply Option.ext
    intro other
    rw [Cid.find?_rosterOf_eq_some canonical, Cid.find?_rosterOf_eq_some addressed,
      perm.mem_iff]
  have listed : memory.serveAlong memory.bundles.names path = memory.serve path := rfl
  rw [← listed, serveAlong, serveAlong, found]

theorem serve_of_isCanonical (canonical : Cid.isCanonical .checkBundle cid = true)
    {bundle : Bundle} (stored : memory.bundle? cid = some bundle) :
    memory.serve cid = .ok bundle.toJson.toBytes := by
  rw [serve, Cid.after?_rosterPath_of_isCanonical canonical, stored]
  rfl

/-- A service whose bundles stand under canonical identifiers answers the path of a roster with that
roster and the path of a bundle with that bundle, in whatever order it goes through them. -/
theorem get_serves_stored [Pattern.Engine] (available : memory.unavailable = false)
    (addressed : memory.Addressed) (perm : order.Perm memory.bundles.names)
    (canonical : Cid.isCanonical .checkBundle cid = true) :
    (∀ path, (memory.answer (.get path)).1 = memory.serveAlong order path) ∧
    (memory.bundle? cid = none →
      (memory.answer (.get (Cid.rosterOf cid))).1 = .error (.notFound (Cid.rosterOf cid))) ∧
    ∀ bundle, memory.bundle? cid = some bundle →
      (∃ bytes, (memory.answer (.get (Cid.rosterOf cid))).1 = .ok bytes ∧
        Json.decodeBytes MetricStore.rosterOfJson bytes = .ok (memory.roster cid)) ∧
      (bundle.Transferable → ∃ bytes, (memory.answer (.get cid)).1 = .ok bytes ∧
        Json.decodeBytes Bundle.ofJson bytes = .ok bundle) := by
  refine ⟨fun path => ?_, fun missing => ?_, fun bundle stored => ⟨?_, fun transferable => ?_⟩⟩
  · rw [answer_get available, addressed.serveAlong_eq perm]
  · rw [answer_get available, addressed.serve_rosterOf canonical, missing]
    rfl
  · refine ⟨_, addressed.answer_rosterOf available canonical stored, ?_⟩
    exact decodeBytes_rosterJson (Cid.rosterOf cid) (memory.roster cid)
  · refine ⟨_, (answer_get available _).trans (serve_of_isCanonical canonical stored), ?_⟩
    exact transferable.carries.decodeBytes

/-- A bundle whose number begins that of another one, gone through after it. -/
theorem get_serves_stored_beginning :
    let short : Bundle := { Bundle.blank with cid := "/check_bundle/1" }
    let long : Bundle := { Bundle.blank with cid := "/check_bundle/12" }
    let roster := [⟨"cpu", "numeric", "active", ["tag"], none⟩, ⟨"load", "numeric", "", [], none⟩]
    let memory := ((fresh.insertBundle short).insertBundle long).setRoster long.cid roster
    memory.serveAlong [long.cid, short.cid] "/check_bundle_metrics/1" =
        (memory.answer (.get "/check_bundle_metrics/1")).1 ∧
      (∃ bytes, (memory.answer (.get "/check_bundle_metrics/1")).1 = .ok bytes ∧
        Json.decodeBytes MetricStore.rosterOfJson bytes = .ok []) ∧
      (∃ bytes, (memory.answer (.get "/check_bundle_metrics/12")).1 = .ok bytes ∧
        Json.decodeBytes MetricStore.rosterOfJson bytes = .ok roster) ∧
      (∃ bytes, (memory.answer (.get "/check_bundle/12")).1 = .ok bytes ∧
        Json.decodeBytes Bundle.ofJson bytes = .ok long) ∧
      (memory.answer (.get "/check_bundle_metrics/2")).1 =
        .error (.notFound "/check_bundle_metrics/2") := by
  intro short long roster memory
  have names : memory.bundles.names = [short.cid, long.cid] := by decide +kernel
  have addressed : memory.Addressed := by
    rw [Addressed, names]
    decide +kernel
  have perm : [long.cid, short.cid].Perm memory.bundles.names := by
    rw [names]
    exact List.Perm.swap short.cid long.cid []
  have transferable : long.Transferable := ⟨by decide +kernel, by decide +kernel⟩
  obtain ⟨along, -, ofShort⟩ :=
    @get_serves_stored memory _ "/check_bundle/1" _ rfl addressed perm (by decide +kernel)
  obtain ⟨-, -, ofLong⟩ :=
    @get_serves_stored memory _ "/check_bundle/12" _ rfl addressed perm (by decide +kernel)
  obtain ⟨-, missing, -⟩ :=
    @get_serves_stored memory _ "/check_bundle/2" _ rfl addressed perm (by decide +kernel)
  obtain ⟨shortRoster, -⟩ := ofShort short (by decide +kernel)
  obtain ⟨longRoster, longBundle⟩ := ofLong long (by decide +kernel)
  have unset : memory.roster "/check_bundle/1" = [] := by decide +kernel
  have listed : memory.roster "/check_bundle/12" = roster := by decide +kernel
  rw [unset] at shortRoster
  rw [listed] at longRoster
  exact ⟨(along _).symm, shortRoster, longRoster, longBundle transferable,
    missing (by decide +kernel)⟩

end Api.Memory

namespace MetricStore

open Api.Memory (entryOf mergeMetrics)

/-! ### Reading again, and taking an answer in -/

def statusOf (store : MetricStore) (name : String) : Option String :=
  store.states.bind (fun states => states.get? name)

theorem lookup_statuses (metrics : List MetricDefinition) (name : String) :
    (metrics.map (fun metric => (metric.name, metric.status))).lookup name =
      (entryOf metrics name).map MetricDefinition.status := by
  induction metrics with
  | nil => rfl
  | cons metric metrics ih =>
      rw [List.map_cons, NameMap.lookup_cons, Memory.entryOf_cons, ih]
      by_cases same : metric.name = name
      · simp [same]
      · simp [same, Ne.symm same]

/-- Of definitions that are taken in, the last one of a name gives the status; the status of a name
that has none stays. -/
theorem statusOf_merge (store : MetricStore) (metrics : List MetricDefinition) (now : Nat)
    (name : String) :
    (store.merge metrics now).statusOf name =
      ((entryOf metrics.reverse name).map MetricDefinition.status).or (store.statusOf name) := by
  have before : (store.states.getD NameMap.empty).get? name = store.statusOf name := by
    rw [statusOf]
    cases store.states <;> rfl
  change (absorb (store.states.getD NameMap.empty) metrics).get? name = _
  rw [absorb, NameMap.get?_insertAll, ← List.map_reverse, lookup_statuses, before]

/-- A roster that definitions were merged into gives the status of the last one of a name, and of a
name that none of them has it gives the status that it listed before. -/
theorem statusOf_merge_mergeMetrics (store : MetricStore) {roster : List MetricDefinition}
    (distinct : (roster.map MetricDefinition.name).Nodup) (metrics : List MetricDefinition)
    (now : Nat) (name : String) :
    (store.merge (mergeMetrics roster metrics) now).statusOf name =
      (((entryOf metrics.reverse name).or (entryOf roster name)).map MetricDefinition.status).or
        (store.statusOf name) := by
  rw [statusOf_merge, Memory.entryOf_reverse (Memory.nodup_mergeMetrics distinct),
    Memory.entryOf_mergeMetrics]

variable {State : Type} {answer : State → (effect : Effect) → effect.Answer × State}
  {memory : Memory} {submitted updated : Bundle} {first second : State}

/-- After an update a roster is read as it is with the metrics merged in. -/
theorem run_fetchRoster_updated (addressed : memory.Addressed)
    (accepted : (memory.answer (.update submitted)).1 = .ok updated)
    (served : ∀ call, (answer second (.call call)).1 =
      ((memory.answer (.update submitted)).2.answer call).1) :
    (fetchRoster submitted.cid).run answer second =
      (.ok (mergeMetrics (memory.roster submitted.cid) submitted.metrics),
        (answer second (.call (.get (Cid.rosterOf submitted.cid)))).2) := by
  have stored := Memory.bundle?_of_update accepted submitted.cid
  rw [if_pos rfl] at stored
  have given := (addressed.of_update accepted).answer_rosterOf
    (Memory.available_of_update accepted) (addressed.isCanonical_of_update accepted) stored
  rw [Memory.roster_of_update accepted] at given
  exact run_fetchRoster ((served _).trans given) (Memory.decodeBytes_rosterJson _ _)

/-- A store that takes the answer to an update in and one that reads the roster again know the same
of every metric of the answer: its last status there. Of other metrics the first keeps what it knew,
and the second takes what the roster listed. -/
theorem absorbing_agrees_with_rereading (store : MetricStore) (addressed : memory.Addressed)
    (unique : (memory.listedNames submitted.cid).Nodup)
    (accepted : (memory.answer (.update submitted)).1 = .ok updated)
    (served : ∀ call, (answer second (.call call)).1 =
      ((memory.answer (.update submitted)).2.answer call).1) :
    let asked := (answer second (.call (.get (Cid.rosterOf submitted.cid)))).2
    let absorbed :=
      ((store.refreshFromRemote submitted.cid (some updated.metrics)).run answer first).1
    let reread := ((store.refreshFromRemote submitted.cid none).run answer second).1
    ((∃ written, absorbed.2 = .ok written) ∧ ∃ written, reread.2 = .ok written) ∧
    (∀ name ∈ updated.metrics.map MetricDefinition.name, ∃ metric,
      entryOf updated.metrics.reverse name = some metric ∧
        absorbed.1.statusOf name = some metric.status ∧
        reread.1.statusOf name = some metric.status) ∧
    (∀ name ∉ updated.metrics.map MetricDefinition.name,
      absorbed.1.statusOf name = store.statusOf name ∧
      reread.1.statusOf name =
        ((entryOf (memory.roster submitted.cid) name).map MetricDefinition.status).or
          (store.statusOf name)) ∧
    (absorbed.1.pendingUpdate = false ∧ reread.1.pendingUpdate = false) ∧
    absorbed.1.lastRefresh = some (answer first .clock).1 ∧
    reread.1.lastRefresh = some (answer asked .clock).1 := by
  intro asked absorbed reread
  obtain rfl := Memory.eq_of_update accepted
  have read := run_fetchRoster_updated addressed accepted served
  obtain ⟨absorbedWritten, _, absorbedRun⟩ :=
    @run_refresh_known _ answer store submitted.cid submitted.metrics first
  obtain ⟨rereadWritten, _, rereadRun⟩ := run_refresh_read read store
  have absorbedIs : absorbed =
      (store.merge submitted.metrics (answer first .clock).1, .ok absorbedWritten) :=
    congrArg Prod.fst absorbedRun
  have rereadIs : reread =
      (store.merge (mergeMetrics (memory.roster submitted.cid) submitted.metrics)
        (answer asked .clock).1, .ok rereadWritten) :=
    congrArg Prod.fst rereadRun
  rw [absorbedIs, rereadIs]
  -- Both merges give a name the status of its last definition in the update, if it has one there.
  refine ⟨⟨⟨_, rfl⟩, _, rfl⟩, fun name listed => ?_, fun name unlisted => ?_, ⟨rfl, rfl⟩, rfl, rfl⟩
  · have present : name ∈ submitted.metrics.reverse.map MetricDefinition.name := by
      rw [List.map_reverse, List.mem_reverse]
      exact listed
    obtain ⟨metric, last⟩ := Option.ne_none_iff_exists'.mp
      (fun missing => Memory.entryOf_eq_none.mp missing present)
    refine ⟨metric, last, ?_, ?_⟩
    · rw [statusOf_merge, last]
      rfl
    · rw [statusOf_merge_mergeMetrics store unique, last]
      rfl
  · have absent : entryOf submitted.metrics.reverse name = none := by
      rw [Memory.entryOf_eq_none, List.map_reverse, List.mem_reverse]
      exact unlisted
    constructor
    · rw [statusOf_merge, absent]
      rfl
    · rw [statusOf_merge_mergeMetrics store unique, absent]
      rfl

/-- An update that repeats a name, a metric that only the roster lists, and one that only the store
knows. -/
theorem absorbing_agrees_with_rereading_repeated :
    let bundle : Bundle := { Bundle.blank with cid := "/check_bundle/7" }
    let roster := [⟨"cpu", "numeric", "available", [], none⟩,
      ⟨"idle", "numeric", "available", ["tag"], some "%"⟩]
    let memory := (Memory.fresh.insertBundle bundle).setRoster bundle.cid roster
    let submitted : Bundle := { bundle with metrics := [⟨"cpu", "numeric", "active", [], none⟩,
      ⟨"load", "numeric", "active", [], none⟩, ⟨"cpu", "text", "idle", [], none⟩] }
    let store : MetricStore := { MetricStore.inDirectory "state" ⟨0⟩ with
      states := some (NameMap.ofList [("idle", "active"), ("old", "active")])
      pendingUpdate := true }
    let world := World.quiet (memory.answer (.update submitted)).2 Storage.FileSystem.empty
    let updated := Memory.revised submitted
    let absorbed := ((store.refreshFromRemote submitted.cid (some updated.metrics)).run
      (World.answer Memory.answer) world).1.1
    let reread := ((store.refreshFromRemote submitted.cid none).run
      (World.answer Memory.answer) world).1.1
    (absorbed.statusOf "cpu" = some "idle" ∧ reread.statusOf "cpu" = some "idle") ∧
      (absorbed.statusOf "idle" = some "active" ∧ reread.statusOf "idle" = some "available") ∧
      (absorbed.statusOf "old" = some "active" ∧ reread.statusOf "old" = some "active") ∧
      absorbed.pendingUpdate = false ∧ reread.pendingUpdate = false := by
  intro bundle roster memory submitted store world updated absorbed reread
  have addressed : memory.Addressed := by
    have names : memory.bundles.names = [bundle.cid] := by decide +kernel
    rw [Memory.Addressed, names]
    decide +kernel
  have unique : (memory.listedNames submitted.cid).Nodup := by decide +kernel
  have accepted : (memory.answer (.update submitted)).1 = .ok updated := by
    decide +kernel
  obtain ⟨-, given, others, pending, -⟩ :=
    @absorbing_agrees_with_rereading _ (World.answer Memory.answer) memory submitted
      updated world world store addressed unique accepted (fun _ => rfl)
  obtain ⟨metric, last, absorbedCpu, rereadCpu⟩ := given "cpu" (by decide +kernel)
  have lastCpu : entryOf updated.metrics.reverse "cpu" =
      some ⟨"cpu", "text", "idle", [], none⟩ := by decide +kernel
  cases Option.some.inj (last.symm.trans lastCpu)
  obtain ⟨absorbedIdle, rereadIdle⟩ := others "idle" (by decide +kernel)
  obtain ⟨absorbedOld, rereadOld⟩ := others "old" (by decide +kernel)
  have knownIdle : store.statusOf "idle" = some "active" := by decide +kernel
  have knownOld : store.statusOf "old" = some "active" := by decide +kernel
  have listedIdle : entryOf (memory.roster submitted.cid) "idle" =
      some ⟨"idle", "numeric", "available", ["tag"], some "%"⟩ := by decide +kernel
  have unlistedOld : entryOf (memory.roster submitted.cid) "old" = none := by decide +kernel
  rw [listedIdle, Option.map_some, Option.some_or] at rereadIdle
  rw [unlistedOld, Option.map_none, Option.none_or] at rereadOld
  exact ⟨⟨absorbedCpu, rereadCpu⟩, ⟨absorbedIdle.trans knownIdle, rereadIdle⟩,
    ⟨absorbedOld.trans knownOld, rereadOld.trans knownOld⟩, pending⟩

end MetricStore
end CheckBinding
