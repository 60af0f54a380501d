import CheckBinding.Agent.Controller
import CheckBinding.Proofs.Memories
import CheckBinding.Proofs.MetricStores
import CheckBinding.Proofs.StateFiles

/-!
What enabling new metrics comes to when nothing fails.

The programs are run against the service in memory and working files. Each of them is described by
what it returns and by the world after it; the files after a save are described only as far as they
can be written again.
-/

namespace CheckBinding.Enabling

open Api StateFile

/-! ### Counters -/

def total (counter : Counter) (counters : List (Counter × Nat)) : Nat :=
  (counters.lookup counter).getD 0

theorem total_addCount (counter : Counter) (amount : Nat) (counters : List (Counter × Nat)) :
    total counter (World.addCount counter amount counters) = total counter counters + amount := by
  induction counters with
  | nil => simp [total, World.addCount]
  | cons entry counters ih =>
      obtain ⟨known, count⟩ := entry
      rw [World.addCount]
      by_cases same : known = counter
      · simp [total, same]
      · have different : (counter == known) = false := by
          simp [Ne.symm same]
        rw [if_neg same]
        simp only [total, List.lookup_cons, different] at ih ⊢
        exact ih

/-! ### The service -/

def afterUpdate (memory : Memory) (submitted : Bundle) : Memory :=
  ({ memory with updated := memory.updated ++ [submitted] }.mergeRoster submitted.cid
    submitted.metrics).insertBundle (Memory.revised submitted)

/-- What enabling relies on: the service is available and well kept and has the bundle; its roster
repeats no name and lists the metrics of the bundle as they are; and the store knows a state that
can be written. -/
structure Prepared (cid : String) (bundle : Bundle) (store : MetricStore) (known : States)
    (world : World Memory) : Prop where
  available : world.service.unavailable = false
  wellKept : world.service.WellKept
  stored : world.service.bundle? cid = some bundle
  unique : (world.service.listedNames cid).Nodup
  listed : ∀ metric ∈ bundle.metrics, metric ∈ world.service.roster cid
  loaded : store.states = some known
  writable : Writable world.files store.path

structure Manages (cid : String) (store : MetricStore) (controller : Controller) : Prop where
  managing : controller.managing = true
  bound : ∃ held, controller.bundle = some held ∧ held.cid = cid
  kept : controller.store = some store

variable {cid : String} {bundle : Bundle} {store : MetricStore} {known : States}
  {world : World Memory} {controller : Controller}

theorem run_ask (activity : Activity) (call : Call) :
    world.run Memory.answer (Resolution.ask activity call) =
      ((world.service.answer call).1.mapError (.api activity),
        { world with service := (world.service.answer call).2 }) :=
  rfl

namespace Prepared

theorem canonical (prepared : Prepared cid bundle store known world) :
    Cid.isCanonical .checkBundle cid = true :=
  prepared.wellKept.canonical cid bundle prepared.stored

theorem own (prepared : Prepared cid bundle store known world) : bundle.cid = cid :=
  prepared.wellKept.own cid bundle prepared.stored

theorem isLoaded (prepared : Prepared cid bundle store known world) : store.isLoaded = true := by
  rw [MetricStore.isLoaded, prepared.loaded]
  rfl

/-- Nothing that is relied on depends on the time. -/
theorem later (prepared : Prepared cid bundle store known world) (moment : Nat) :
    Prepared cid bundle store known { world with now := moment } :=
  ⟨prepared.available, prepared.wellKept, prepared.stored, prepared.unique, prepared.listed,
    prepared.loaded, prepared.writable⟩

theorem listed_append (prepared : Prepared cid bundle store known world)
    (added : List MetricDefinition) :
    ∀ metric ∈ bundle.metrics ++ added, metric ∈ world.service.roster cid ++ added := by
  intro metric member
  rcases List.mem_append.mp member with before | new
  · exact List.mem_append_left _ (prepared.listed metric before)
  · exact List.mem_append_right _ new

theorem bundle?_extendedBy (prepared : Prepared cid bundle store known world)
    (added : List MetricDefinition) :
    world.service.counted.bundle? (bundle.extendedBy added).cid = some bundle := by
  have own := prepared.own
  rw [← prepared.stored, ← own]
  rfl

theorem run_fetch (prepared : Prepared cid bundle store known world) (activity : Activity) :
    world.run Memory.answer (Resolution.ask activity (.fetchBundle cid)) =
      (.ok bundle, { world with service := world.service.counted }) := by
  rw [run_ask, Memory.answer_of_available prepared.available]
  have found : world.service.counted.bundle? cid = some bundle := prepared.stored
  simp only [Memory.carryOut, found]
  rfl

theorem run_fetchRoster (prepared : Prepared cid bundle store known world) :
    world.run Memory.answer (MetricStore.fetchRoster cid) =
      (.ok (world.service.roster cid), { world with service := world.service.counted }) := by
  have served := prepared.wellKept.addressed.answer_rosterOf prepared.available
    prepared.canonical prepared.stored
  have read := @MetricStore.run_fetchRoster _ (World.answer Memory.answer) world cid _ _ served
    (Memory.decodeBytes_rosterJson _ _)
  have after : (world.service.answer (.get (Cid.rosterOf cid))).2 = world.service.counted := by
    rw [Memory.answer_of_available prepared.available]
    rfl
  rw [← after]
  exact read

end Prepared

/-- Taking definitions in cannot fail where the state can be written. -/
theorem run_absorbKnown (writable : Writable world.files store.path)
    (metrics : List MetricDefinition) :
    ∃ files, world.run Memory.answer (store.absorbKnown metrics) =
        ((store.merge metrics (world.now + World.lookTime), true),
          { world with now := world.now + World.lookTime, files }) ∧
      Writable files store.path := by
  let later : World Memory := { world with now := world.now + World.lookTime }
  let states := MetricStore.absorb (store.states.getD NameMap.empty) metrics
  obtain ⟨files, saved, again⟩ := @run_save _ Memory.answer later store.path writable states
  refine ⟨files, ?_, again⟩
  have persisted : later.run Memory.answer (store.merge metrics later.now).persist =
      (true, { later with files }) := by
    change later.run Memory.answer (save store.path states >>= _) = _
    rw [World.run_bind, saved]
    rfl
  rw [MetricStore.absorbKnown, World.run_bind, World.run_clock]
  change later.run Memory.answer ((store.merge metrics later.now).persist >>= _) = _
  rw [World.run_bind, persisted]
  rfl

theorem Prepared.run_refresh (prepared : Prepared cid bundle store known world) :
    ∃ files, world.run Memory.answer (store.refreshFromRemote cid none) =
        ((store.merge (world.service.roster cid) (world.now + World.lookTime), .ok true),
          { world with
            service := world.service.counted, now := world.now + World.lookTime, files }) ∧
      Writable files store.path := by
  let asked : World Memory := { world with service := world.service.counted }
  obtain ⟨files, absorbed, again⟩ :=
    @run_absorbKnown store asked prepared.writable (world.service.roster cid)
  refine ⟨files, ?_, again⟩
  rw [MetricStore.refreshFromRemote, World.run_bind, prepared.run_fetchRoster]
  change asked.run Memory.answer (store.absorbKnown (world.service.roster cid) >>= _) = _
  rw [World.run_bind, absorbed]
  rfl

theorem Prepared.refreshed (prepared : Prepared cid bundle store known world) (moment : Nat)
    {files : Storage.FileSystem} (writable : Writable files store.path) :
    Prepared cid bundle (store.merge (world.service.roster cid) moment)
      (MetricStore.absorb known (world.service.roster cid))
      { world with service := world.service.counted, now := moment, files } := by
  refine ⟨prepared.available, prepared.wellKept.counted, prepared.stored, prepared.unique,
    prepared.listed, ?_, writable⟩
  change some (MetricStore.absorb (store.states.getD NameMap.empty) _) = _
  rw [prepared.loaded]
  rfl

/-! ### Submitting -/

theorem answer_update {memory : Memory} (available : memory.unavailable = false)
    {submitted : Bundle} {stored : Bundle} (there : memory.bundle? submitted.cid = some stored) :
    memory.answer (.update submitted) =
      (.ok (Memory.revised submitted), afterUpdate memory.counted submitted) :=
  Memory.answer_update available (NameMap.contains_iff.mpr ⟨stored, there⟩)

def afterSubmission (world : World Memory) (extended : Bundle) (amount : Nat) : World Memory :=
  { world with
    service := afterUpdate world.service.counted.counted extended
    now := world.now + World.lookTime
    counters := World.addCount .metricsEnabled amount world.counters }

/-- A submission extends the bundle and takes the answer over. -/
theorem Prepared.run_submit (prepared : Prepared cid bundle store known world)
    (controller : Controller) (added : List MetricDefinition) :
    let extended := bundle.extendedBy added
    let merged := store.markPending.merge extended.metrics (world.now + World.lookTime)
    ∃ files, world.run Memory.answer (controller.submit store cid added) =
        ((.ok (), { controller.bind (Memory.revised extended) with store := some merged }),
          { afterSubmission world extended added.length with files }) ∧
      Writable files store.path := by
  intro extended merged
  let asked : World Memory := { world with service := world.service.counted }
  let updated : World Memory :=
    { world with service := afterUpdate world.service.counted.counted extended }
  have answered : asked.run Memory.answer
      (Resolution.ask (.updatingBundle cid) (.update extended)) =
        (.ok (Memory.revised extended), updated) := by
    have available : asked.service.unavailable = false := prepared.available
    rw [run_ask, answer_update available (prepared.bundle?_extendedBy added)]
    rfl
  obtain ⟨files, absorbed, again⟩ := @run_absorbKnown store.markPending updated prepared.writable
    (Memory.revised extended).metrics
  refine ⟨files, ?_, again⟩
  rw [Controller.submit, World.run_bind, prepared.run_fetch]
  change asked.run Memory.answer (Resolution.ask _ (.update extended) >>= _) = _
  rw [World.run_bind, answered]
  change updated.run Memory.answer (store.markPending.absorbKnown _ >>= _) = _
  rw [World.run_bind, absorbed]
  rfl

/-- An extension by metrics with new names puts them at the end of the roster. -/
theorem Prepared.roster_afterSubmission (prepared : Prepared cid bundle store known world)
    {added : List MetricDefinition}
    (distinct : ((world.service.roster cid ++ added).map MetricDefinition.name).Nodup)
    (amount : Nat) :
    (afterSubmission world (bundle.extendedBy added) amount).service.roster cid =
      world.service.roster cid ++ added := by
  have own := prepared.own
  have merged : (afterSubmission world (bundle.extendedBy added) amount).service.roster cid =
      Memory.mergeMetrics (world.service.roster bundle.cid) (bundle.metrics ++ added) :=
    (Memory.roster_setRoster _ bundle.cid cid _).trans (if_pos own.symm)
  rw [merged, own, Memory.mergeMetrics_append,
    Memory.mergeMetrics_present prepared.unique prepared.listed,
    Memory.mergeMetrics_fresh distinct]

theorem Prepared.afterSubmission (prepared : Prepared cid bundle store known world)
    {added : List MetricDefinition}
    (distinct : ((world.service.roster cid ++ added).map MetricDefinition.name).Nodup)
    (amount moment : Nat) {files : Storage.FileSystem} (writable : Writable files store.path) :
    Prepared cid (Memory.revised (bundle.extendedBy added))
      (store.markPending.merge (bundle.metrics ++ added) moment)
      (MetricStore.absorb known (bundle.metrics ++ added))
      { Enabling.afterSubmission world (bundle.extendedBy added) amount with files } := by
  have own := prepared.own
  have roster := prepared.roster_afterSubmission distinct amount
  constructor
  · exact prepared.available
  · have available : world.service.counted.unavailable = false := prepared.available
    have kept := prepared.wellKept.counted.answer (.update (bundle.extendedBy added))
    rw [answer_update available (prepared.bundle?_extendedBy added)] at kept
    exact kept
  · exact (NameMap.get?_insert _ bundle.cid cid _).trans (if_pos own.symm)
  · change (((Enabling.afterSubmission world _ amount).service.roster cid).map _).Nodup
    rw [roster]
    exact distinct
  · change ∀ metric ∈ bundle.metrics ++ added,
      metric ∈ (Enabling.afterSubmission world _ amount).service.roster cid
    rw [roster]
    exact prepared.listed_append added
  · change some (MetricStore.absorb (store.states.getD NameMap.empty) _) = _
    rw [prepared.loaded]
    rfl
  · exact writable

/-! ### Enabling -/

structure Learned (before after : States) (metrics : List MetricDefinition) : Prop where
  names : ∀ name, after.contains name = true ↔
    before.contains name = true ∨ name ∈ metrics.map MetricDefinition.name
  statuses : ∀ name status, after.get? name = some status →
    before.get? name = some status ∨
      ∃ metric ∈ metrics, metric.name = name ∧ metric.status = status

theorem Learned.trans {first second third : States} {listed metrics : List MetricDefinition}
    (left : Learned first second listed) (right : Learned second third (listed ++ metrics)) :
    Learned first third (listed ++ metrics) := by
  constructor
  · intro name
    rw [right.names, left.names, List.map_append, List.mem_append]
    constructor
    · rintro ((before | listed) | either)
      · exact Or.inl before
      · exact Or.inr (Or.inl listed)
      · exact Or.inr either
    · rintro (before | either)
      · exact Or.inl (Or.inl before)
      · exact Or.inr either
  · intro name status found
    rcases right.statuses name status found with between | new
    · rcases left.statuses name status between with before | ⟨metric, member, rest⟩
      · exact Or.inl before
      · exact Or.inr ⟨metric, List.mem_append_left _ member, rest⟩
    · exact Or.inr new

/-- What was known with its status on a roster that repeats no name stays so. -/
theorem Learned.get?_of_listed {before after : States} {listed metrics : List MetricDefinition}
    (learned : Learned before after (listed ++ metrics))
    (distinct : ((listed ++ metrics).map MetricDefinition.name).Nodup)
    (taken : ∀ entry ∈ listed, before.get? entry.name = some entry.status) :
    ∀ entry ∈ listed, after.get? entry.name = some entry.status := by
  intro entry member
  have contains := (learned.names entry.name).mpr
    (Or.inl (NameMap.contains_iff.mpr ⟨entry.status, taken entry member⟩))
  obtain ⟨status, found⟩ := NameMap.contains_iff.mp contains
  rw [found]
  rcases learned.statuses entry.name status found with kept | ⟨metric, either, same, rfl⟩
  · exact kept.symm.trans (taken entry member)
  · rw [List.inj_on_of_nodup_map distinct either (List.mem_append_left _ member) same]

theorem learned_absorb (known : States) (metrics : List MetricDefinition) :
    Learned known (MetricStore.absorb known metrics) metrics := by
  refine ⟨fun name => MetricStore.contains_absorb, fun name status found => ?_⟩
  exact (MetricStore.mem_or_of_get?_absorb found).symm

/-- Where the state knows the roster, taking in an extension of the bundle adds just the names of
the extension. -/
theorem Prepared.learned_extension (prepared : Prepared cid bundle store known world)
    (current : ∀ name ∈ world.service.listedNames cid, known.contains name = true)
    (added : List MetricDefinition) :
    Learned known (MetricStore.absorb known (bundle.metrics ++ added))
      (world.service.roster cid ++ added) := by
  have learned := learned_absorb known (bundle.metrics ++ added)
  constructor
  · intro name
    rw [learned.names, List.map_append, List.mem_append, List.map_append, List.mem_append]
    constructor
    · rintro (before | stored | new)
      · exact Or.inl before
      · obtain ⟨metric, member, rfl⟩ := List.mem_map.mp stored
        exact Or.inr (Or.inl (List.mem_map_of_mem (prepared.listed metric member)))
      · exact Or.inr (Or.inr new)
    · rintro (before | listed | new)
      · exact Or.inl before
      · exact Or.inl (current name listed)
      · exact Or.inr (Or.inr new)
  · intro name status found
    rcases learned.statuses name status found with before | ⟨metric, member, rest⟩
    · exact Or.inl before
    · exact Or.inr ⟨metric, prepared.listed_append added metric member, rest⟩

structure Extends (cid : String) (bundle : Bundle) (known : States)
    (added : List MetricDefinition) (before : World Memory)
    (outcome : Controller.Outcome Unit) (after : World Memory) (learned : States) : Prop where
  succeeded : outcome.1 = .ok ()
  roster : after.service.roster cid = before.service.roster cid ++ added
  updated : after.service.updated =
    before.service.updated ++ if added.isEmpty then [] else [bundle.extendedBy added]
  counted : total .metricsEnabled after.counters =
    total .metricsEnabled before.counters + added.length
  states : Learned known learned (before.service.roster cid ++ added)
  enabled : ∀ metric ∈ added, learned.get? metric.name = some metric.status
  prepared : ∃ bundle store, Prepared cid bundle store learned after ∧
    Manages cid store outcome.2

/-- What a store that knows the whole roster does not know can be put behind the roster. -/
theorem Prepared.distinct_append (prepared : Prepared cid bundle store known world)
    (current : ∀ name ∈ world.service.listedNames cid, known.contains name = true)
    {collected : Collected} (distinct : (collected.map Prod.fst).Nodup) (status : String) :
    ((world.service.roster cid ++ store.unknownMetrics collected status).map
      MetricDefinition.name).Nodup := by
  have sorted := store.unknownMetrics_sorted status distinct
  have names : ((store.unknownMetrics collected status).map MetricDefinition.name).Nodup := by
    refine List.pairwise_map.mpr (sorted.imp ?_)
    intro left right before same
    rw [same] at before
    exact String.lt_irrefl _ before
  rw [List.map_append, List.nodup_append]
  refine ⟨prepared.unique, names, ?_⟩
  rintro name listed _ new rfl
  have unknown := MetricStore.not_knows_of_mem_unknownMetrics new
  have knows : store.knows name = known.contains name := by
    rw [MetricStore.knows, prepared.loaded]
  rw [knows, current name listed] at unknown
  cases unknown

theorem Prepared.run_submitUnknown (prepared : Prepared cid bundle store known world)
    (current : ∀ name ∈ world.service.listedNames cid, known.contains name = true)
    {collected : Collected} (distinct : (collected.map Prod.fst).Nodup)
    (managing : controller.managing = true) {held : Bundle}
    (bound : controller.bundle = some held) (same : held.cid = cid) :
    let added := store.unknownMetrics collected controller.config.activeMetricStatus
    let done := world.run Memory.answer (controller.submitUnknown store cid collected)
    ∃ learned, Extends cid bundle known added world done.1 done.2 learned := by
  intro added done
  have all := prepared.distinct_append current distinct controller.config.activeMetricStatus
  by_cases none : added.isEmpty = true
  · -- With nothing new no call is made, and nothing changes.
    have empty : added = [] := List.isEmpty_iff.mp none
    have nothing : done = ((.ok (), { controller with store := some store }), world) := by
      change world.run Memory.answer (if added.isEmpty then _ else _) = _
      rw [if_pos none]
      rfl
    rw [nothing, empty]
    refine ⟨known, ?_⟩
    refine
      { succeeded := rfl
        roster := (List.append_nil _).symm
        updated := (List.append_nil _).symm
        counted := rfl
        states := ⟨?_, fun name status found => Or.inl found⟩
        enabled := fun metric member => by cases member
        prepared := ⟨bundle, store, prepared, ⟨managing, ⟨held, bound, same⟩, rfl⟩⟩ }
    intro name
    rw [List.append_nil]
    exact ⟨Or.inl, fun either => either.elim id (current name)⟩
  · obtain ⟨files, submitted, writable⟩ := prepared.run_submit controller added
    have something : done = world.run Memory.answer (controller.submit store cid added) := by
      change world.run Memory.answer (if added.isEmpty then _ else _) = _
      rw [if_neg none]
    rw [something, submitted]
    refine ⟨MetricStore.absorb known (bundle.metrics ++ added), ?_⟩
    refine
      { succeeded := rfl
        roster := prepared.roster_afterSubmission all added.length
        updated := ?_
        counted := total_addCount .metricsEnabled added.length world.counters
        states := prepared.learned_extension current added
        enabled := ?_
        prepared := ⟨_, _, prepared.afterSubmission all added.length _ writable,
          ⟨managing, ⟨_, rfl, prepared.own⟩, rfl⟩⟩ }
    · rw [if_neg none]
      rfl
    · intro metric member
      have within := prepared.listed_append added
      exact MetricStore.get?_absorb all within (List.mem_append_right _ member)

theorem run_enable_current (managing : controller.managing = true) {held : Bundle}
    (bound : controller.bundle = some held) (kept : controller.store = some store)
    (loaded : store.isLoaded = true)
    (current : store.needsRefreshAt (world.now + World.lookTime) = false)
    (collected : Collected) :
    world.run Memory.answer (controller.enableNewMetrics collected) =
      World.run Memory.answer { world with now := world.now + World.lookTime }
        (controller.submitUnknown store held.cid collected) := by
  rw [Controller.enableNewMetrics, managing, bound, kept]
  dsimp only
  rw [loaded, Bool.not_true, if_neg Bool.false_ne_true, World.run_bind, World.run_clock]
  dsimp only
  rw [current, if_neg Bool.false_ne_true]

theorem Prepared.run_enable_stale (prepared : Prepared cid bundle store known world)
    (managing : controller.managing = true) {held : Bundle}
    (bound : controller.bundle = some held) (same : held.cid = cid)
    (kept : controller.store = some store)
    (stale : store.needsRefreshAt (world.now + World.lookTime) = true) (collected : Collected) :
    ∃ moment files, Writable files store.path ∧
      world.run Memory.answer (controller.enableNewMetrics collected) =
        World.run Memory.answer
          { world with service := world.service.counted, now := moment, files }
          (controller.submitUnknown (store.merge (world.service.roster cid) moment) cid
            collected) := by
  obtain ⟨files, refreshed, writable⟩ :=
    (prepared.later (world.now + World.lookTime)).run_refresh
  refine ⟨world.now + World.lookTime + World.lookTime, files, writable, ?_⟩
  rw [Controller.enableNewMetrics, managing, bound, kept]
  dsimp only
  rw [prepared.isLoaded, Bool.not_true, if_neg Bool.false_ne_true, World.run_bind,
    World.run_clock]
  dsimp only
  rw [stale, if_pos rfl, World.run_bind, same, refreshed]

/-- The definitions for the collected metrics that are neither known nor listed, in the order of
their names. -/
structure NewMetrics (known : States) (listed : List String) (collected : Collected)
    (status : String) (added : List MetricDefinition) : Prop where
  sorted : added.Pairwise (fun left right => left.name < right.name)
  mem_iff : ∀ definition, definition ∈ added ↔
    ∃ metric ∈ collected, known.contains metric.1 = false ∧ metric.1 ∉ listed ∧
      definition = MetricDefinition.ofKind metric.1 metric.2.kind status

/-- What was new has been learned, and is not new again. -/
theorem NewMetrics.eq_nil_of_learned {roster added more : List MetricDefinition}
    {learned : States} {listed : List String} {collected : Collected} {status other : String}
    (again : NewMetrics learned listed collected other more)
    (new : NewMetrics known (roster.map MetricDefinition.name) collected status added)
    (states : Learned known learned (roster ++ added)) : more = [] := by
  refine List.eq_nil_iff_forall_not_mem.mpr (fun definition member => ?_)
  obtain ⟨metric, present, unknown, -, -⟩ := (again.mem_iff definition).mp member
  have knows : learned.contains metric.1 = true := by
    rw [states.names]
    cases before : known.contains metric.1 with
    | true => exact Or.inl rfl
    | false =>
        refine Or.inr ?_
        rw [List.map_append, List.mem_append]
        by_cases listed : metric.1 ∈ roster.map MetricDefinition.name
        · exact Or.inl listed
        · have included := (new.mem_iff _).mpr ⟨metric, present, before, listed, rfl⟩
          exact Or.inr (List.mem_map_of_mem included)
  rw [unknown] at knows
  cases knows

theorem newMetrics_of_knows {listed : List String}
    (knows : ∀ name, store.knows name = true ↔ known.contains name = true ∨ name ∈ listed)
    {collected : Collected} (distinct : (collected.map Prod.fst).Nodup) (status : String) :
    NewMetrics known listed collected status (store.unknownMetrics collected status) := by
  refine ⟨store.unknownMetrics_sorted status distinct, fun definition => ?_⟩
  have unknown : ∀ name, store.knows name = false ↔
      known.contains name = false ∧ name ∉ listed := by
    intro name
    rw [← Bool.not_eq_true, knows, not_or, Bool.not_eq_true]
  simp only [MetricStore.mem_unknownMetrics, unknown, and_assoc]

theorem knows_iff (loaded : store.states = some known) (name : String) :
    store.knows name = known.contains name := by
  rw [MetricStore.knows, loaded]

/-- One call: whether or not the store is refreshed first, what is neither known nor listed is put
behind the roster, and the store learns it together with the roster. -/
theorem Prepared.run_enableNewMetrics (prepared : Prepared cid bundle store known world)
    (manages : Manages cid store controller)
    (current : (∀ name ∈ world.service.listedNames cid, known.contains name = true) ∨
      store.needsRefreshAt (world.now + World.lookTime) = true)
    {collected : Collected} (distinct : (collected.map Prod.fst).Nodup) :
    let done := world.run Memory.answer (controller.enableNewMetrics collected)
    ∃ added learned, NewMetrics known (world.service.listedNames cid) collected
        controller.config.activeMetricStatus added ∧
      Extends cid bundle known added world done.1 done.2 learned ∧
      (store.needsRefreshAt (world.now + World.lookTime) = true →
        ∀ entry ∈ world.service.roster cid, learned.get? entry.name = some entry.status) := by
  intro done
  obtain ⟨managing, ⟨held, bound, same⟩, kept⟩ := manages
  cases stale : store.needsRefreshAt (world.now + World.lookTime) with
  | false =>
      have all := current.resolve_right (by rw [stale]; exact Bool.false_ne_true)
      have later := prepared.later (world.now + World.lookTime)
      obtain ⟨learned, extended⟩ := later.run_submitUnknown all distinct managing bound same
      have ran : done = _ :=
        run_enable_current managing bound kept prepared.isLoaded stale collected
      refine ⟨store.unknownMetrics collected controller.config.activeMetricStatus, learned, ?_,
        ?_, fun never => by cases never⟩
      · refine newMetrics_of_knows (fun name => ?_) distinct _
        rw [knows_iff prepared.loaded]
        exact ⟨Or.inl, fun either => either.elim id (all name)⟩
      · rw [ran, same]
        exact { extended with succeeded := extended.succeeded }
  | true =>
      obtain ⟨moment, files, writable, ran⟩ :=
        prepared.run_enable_stale managing bound same kept stale collected
      have fresh := prepared.refreshed moment writable
      have all : ∀ name ∈ world.service.listedNames cid,
          (MetricStore.absorb known (world.service.roster cid)).contains name = true :=
        fun name listed => MetricStore.contains_absorb.mpr (Or.inr listed)
      obtain ⟨learned, extended⟩ := fresh.run_submitUnknown all distinct managing bound same
      have read : done = _ := ran
      refine ⟨(store.merge (world.service.roster cid) moment).unknownMetrics collected
        controller.config.activeMetricStatus, learned, ?_, ?_, fun _ entry member => ?_⟩
      · refine newMetrics_of_knows (fun name => ?_) distinct _
        rw [MetricStore.knows_merge, knows_iff prepared.loaded]
        rfl
      · rw [read]
        exact { extended with states := (learned_absorb known _).trans extended.states }
      · have listed := fresh.distinct_append all distinct controller.config.activeMetricStatus
        exact extended.states.get?_of_listed listed
          (fun _ => MetricStore.get?_absorb prepared.unique (fun _ present => present)) entry member

/-- Enabling metrics succeeds. The definitions that are neither known nor on the roster are put
behind the roster, and behind the metrics of the bundle by one update, if there are any; the store
knows what it knew, the roster, and the new ones as enabled; and they are counted. The same call
once more changes nothing. -/
theorem enableNewMetrics_extends (prepared : Prepared cid bundle store known world)
    (manages : Manages cid store controller)
    (current : (∀ name ∈ world.service.listedNames cid, known.contains name = true) ∨
      store.needsRefreshAt (world.now + World.lookTime) = true)
    {collected : Collected} (distinct : (collected.map Prod.fst).Nodup) :
    let roster := world.service.roster cid
    let status := controller.config.activeMetricStatus
    let done := world.run Memory.answer (controller.enableNewMetrics collected)
    let again := done.2.run Memory.answer (done.1.2.enableNewMetrics collected)
    done.1.1 = .ok () ∧
    ∃ added learned,
      added.Pairwise (fun left right => left.name < right.name) ∧
      (∀ definition, definition ∈ added ↔ ∃ metric ∈ collected,
        known.contains metric.1 = false ∧ metric.1 ∉ roster.map MetricDefinition.name ∧
          definition = MetricDefinition.ofKind metric.1 metric.2.kind status) ∧
      done.2.service.roster cid = roster ++ added ∧
      done.2.service.updated = world.service.updated ++
        (if added = [] then [] else [{ bundle with metrics := bundle.metrics ++ added }]) ∧
      (∃ after, done.1.2.store = some after ∧ after.states = some learned) ∧
      (∀ name, learned.contains name = true ↔
        known.contains name = true ∨ name ∈ (roster ++ added).map MetricDefinition.name) ∧
      (∀ name value, learned.get? name = some value → known.get? name = some value ∨
        ∃ metric ∈ roster ++ added, metric.name = name ∧ metric.status = value) ∧
      (∀ metric ∈ added, learned.get? metric.name = some status) ∧
      (store.needsRefreshAt (world.now + World.lookTime) = true →
        ∀ entry ∈ roster, learned.get? entry.name = some entry.status) ∧
      total .metricsEnabled done.2.counters =
        total .metricsEnabled world.counters + added.length ∧
      again.1.1 = .ok () ∧ again.2.service.updated = done.2.service.updated ∧
        again.2.service.roster cid = done.2.service.roster cid := by
  intro roster status done again
  obtain ⟨added, learned, new, extended, refreshed⟩ :=
    prepared.run_enableNewMetrics manages current distinct
  obtain ⟨later, after, ready, managed⟩ := extended.prepared
  -- The store knows the whole roster now, so the second call may rely on it.
  have all : ∀ name ∈ done.2.service.listedNames cid, learned.contains name = true := by
    intro name listed
    rw [Memory.listedNames, extended.roster] at listed
    exact (extended.states.names name).mpr (Or.inr listed)
  obtain ⟨more, _, none, repeated, -⟩ := ready.run_enableNewMetrics managed (Or.inl all) distinct
  have nothing : more = [] := none.eq_nil_of_learned new extended.states
  refine ⟨extended.succeeded, added, learned, new.sorted, new.mem_iff, extended.roster, ?_,
    ⟨after, managed.kept, ready.loaded⟩, extended.states.names, extended.states.statuses, ?_,
    refreshed, extended.counted, repeated.succeeded, ?_, ?_⟩
  · rw [extended.updated]
    cases added with
    | nil => rfl
    | cons first others => rfl
  · intro metric member
    obtain ⟨source, -, -, -, rfl⟩ := (new.mem_iff metric).mp member
    exact extended.enabled _ member
  · rw [repeated.updated, nothing]
    exact List.append_nil _
  · rw [repeated.roster, nothing]
    exact List.append_nil _

/-- Of three collected metrics one is known, one is on the roster only, and one is enabled. -/
theorem enableNewMetrics_extends_roster :
    let cpu := MetricDefinition.ofKind "cpu" .numeric "active"
    let idle := MetricDefinition.ofKind "idle" .numeric "available"
    let load := MetricDefinition.ofKind "load" .text "active"
    let bundle : Bundle := { Bundle.blank with
      cid := "/check_bundle/1", metrics := [cpu], status := Bundle.activeStatus }
    let service := (Memory.fresh.insertBundle bundle).setRoster bundle.cid [cpu, idle]
    let world : World Memory := World.quiet service ⟨[(["state"], .directory)], []⟩
    let store : MetricStore := { MetricStore.inDirectory "/state" Config.defaultRefreshTtl with
      states := some (NameMap.ofList [("cpu", "active")]) }
    let controller : Controller := ⟨Config.standard, some bundle, true, some store⟩
    let collected : Collected := [("load", .text "0.1"), ("idle", .text "7"), ("cpu", .text "3")]
    ∃ added, (world.run Memory.answer
        (controller.enableNewMetrics collected)).2.service.roster bundle.cid =
          [cpu, idle] ++ added ∧
      ∀ definition, definition ∈ added ↔ definition = load := by
  intro cpu idle load bundle service world store controller collected
  have kept : (Memory.fresh.insertBundle bundle).WellKept :=
    Memory.wellKept_fresh.insertBundle (by decide +kernel)
  have writable : Writable world.files store.path :=
    ⟨⟨["state", "metrics.json.tmp"], by decide +kernel, fun found => by cases found⟩,
      ⟨["state", "metrics.json"], by decide +kernel, fun found => by cases found⟩,
      by decide +kernel, by decide +kernel⟩
  have prepared : Prepared bundle.cid bundle store (NameMap.ofList [("cpu", "active")]) world :=
    ⟨rfl, ⟨kept.own, kept.canonical⟩, by decide +kernel, by decide +kernel, by decide +kernel,
      rfl, writable⟩
  have manages : Manages bundle.cid store controller := ⟨rfl, ⟨bundle, rfl, rfl⟩, rfl⟩
  have listed : world.service.roster bundle.cid = [cpu, idle] := by decide +kernel
  obtain ⟨-, added, -, -, new, roster, -⟩ :=
    enableNewMetrics_extends prepared manages (Or.inr rfl)
      (by decide +kernel : (collected.map Prod.fst).Nodup)
  rw [listed] at roster new
  refine ⟨added, roster, fun definition => (new definition).trans ?_⟩
  constructor
  · rintro ⟨metric, member, unknown, absent, rfl⟩
    simp only [collected, List.mem_cons, List.not_mem_nil, or_false] at member
    rcases member with rfl | rfl | rfl
    · rfl
    · exact absurd (by simp [idle, MetricDefinition.ofKind]) absent
    · exact absurd (by simp [cpu, MetricDefinition.ofKind]) absent
  · rintro rfl
    exact ⟨("load", .text "0.1"), by simp [collected], by decide +kernel,
      by simp [cpu, idle, MetricDefinition.ofKind], rfl⟩

end CheckBinding.Enabling
