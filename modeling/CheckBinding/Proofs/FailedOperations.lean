import CheckBinding.Proofs.Courses
import CheckBinding.Proofs.MetricStores
import CheckBinding.Proofs.Persistence

/-!
What a failed operation leaves behind.

A failed start or refresh leaves the controller and the files as they were. A failed enabling may
have brought the store up to date before it failed; then the file holds what the store knows. The
files are those of an agent that nobody else disturbs, on a disk that may refuse requests.
-/

namespace CheckBinding.Persistence

open Program Storage StateFile

/-! ### Files of one agent -/

/-- Surroundings in which the disk alone acts on the files. All else gets any answer. -/
def undisturbed (disk : Disk) : Surroundings FileSystem :=
  fun before effect =>
    match effect with
    | .storage operation => fun reply after => disk.Acts before after operation reply
    | _ => fun _ after => after = before

def Spares : Effect → Prop
  | .storage _ => False
  | _ => True

variable {disk : Disk} {config : Config} {controller : Controller} {files final : FileSystem}
  {transcript : Transcript}

theorem among_of_undisturbed {directory : Option String} {before after : FileSystem}
    {effect : Effect} {reply : effect.Answer}
    (possible : undisturbed disk before effect reply after) :
    among directory disk before effect reply after := by
  have still : ∀ name, LeftAlone name directory before before := fun _ _ _ _ stored => stored
  cases effect with
  | storage operation => exact ⟨before, still fileName, fun _ => still draftName, possible⟩
  | _ =>
      cases possible
      exact still fileName

theorem undisturbed_world {Service : Type}
    (serve : Service → (call : Api.Call) → call.Answer × Service) (world : World Service)
    (effect : Effect) :
    undisturbed disk world.files effect (world.answer serve effect).1
      (world.answer serve effect).2.files := by
  cases effect with
  | storage operation => exact .done rfl
  | _ => rfl

theorem spares_of_looks {effect : Effect} (looks : effect.Looks) : Spares effect := by
  cases effect with
  | storage operation => exact looks.elim
  | _ => trivial

theorem eq_of_spares (spares : ∀ exchange ∈ transcript, Spares exchange.effect)
    (replied : Replied (undisturbed disk) files transcript final) : final = files := by
  have step : ∀ exchange ∈ transcript, ∀ before after, before = files →
      undisturbed disk before exchange.effect exchange.reply after → after = files := by
    intro exchange member before after same possible
    have spared := spares exchange member
    obtain ⟨effect, reply⟩ := exchange
    cases effect with
    | storage operation => exact spared.elim
    | _ => exact possible.trans same
  exact @Replied.keeps _ _ _ _ _ (fun state => state = files) replied step rfl

/-! ### The store -/

def ReadsRoster (transcript : Transcript) (cid : String) (metrics : List MetricDefinition) : Prop :=
  ∃ bytes, transcript.Answered (.get (Cid.rosterOf cid)) (.ok bytes) ∧
    Json.decodeBytes MetricStore.rosterOfJson bytes = .ok metrics

/-- A copy of the bundle was not delivered, or its update was not accepted. -/
def TurnedDown (transcript : Transcript) : Prop :=
  (∃ cid fault, transcript.Answered (.fetchBundle cid) (.error fault)) ∨
    ∃ extended fault, transcript.Answered (.update extended) (.error fault)

/-- A roster that was read and written is in the file. -/
theorem holds_of_refreshing (takes : disk.TakesWrites) {store fresh : MetricStore} {cid : String}
    (stored : Stored config.stateDir store files)
    (refreshing : store.Refreshing cid transcript fresh (.ok true))
    (replied : Replied (undisturbed disk) files transcript final) :
    ∃ metrics now, ReadsRoster transcript cid metrics ∧ fresh = store.merge metrics now ∧
      Holds store.path (MetricStore.absorb (store.states.getD NameMap.empty) metrics) final := by
  obtain ⟨here, place, path, -⟩ := stored
  cases refreshing with
  | @read bytes metrics now writes persisted decoded written =>
      refine ⟨metrics, now, ⟨bytes, List.mem_cons_self, decoded⟩, rfl, ?_⟩
      obtain ⟨asked, -, timed, -, writing⟩ := replied
      have replies : Replied (among config.stateDir disk) timed writes final :=
        writing.mono (fun _ _ _ _ => among_of_undisturbed)
      have yields := yields_iff_course.mpr ⟨writes, written, replies⟩
      have persists :=
        @ensures_persist config.stateDir disk timed takes (store.merge metrics now) here place path
      obtain ⟨-, -, -, holds⟩ := (persists.of_yields trivial yields).2 rfl
      exact holds _ rfl

theorem unread_of_refreshing {store fresh : MetricStore} {cid : String} {fault : CheckFault}
    (refreshing : store.Refreshing cid transcript fresh (.error fault)) :
    (∀ exchange ∈ transcript, Spares exchange.effect) ∧ ¬ TurnedDown transcript := by
  cases refreshing with
  | unread failed => simp [Spares, TurnedDown, Transcript.Answered]

theorem current_cases (takes : disk.TakesWrites) {store fresh : MetricStore} {cid : String}
    (stored : Stored config.stateDir store files)
    (current : Controller.Current store cid transcript fresh)
    (replied : Replied (undisturbed disk) files transcript final) :
    (fresh = store ∧ final = files) ∨
      ∃ metrics now, ReadsRoster transcript cid metrics ∧ fresh = store.merge metrics now ∧
        Holds store.path (MetricStore.absorb (store.states.getD NameMap.empty) metrics) final := by
  cases current with
  | already upToDate =>
      obtain ⟨timed, rfl, rfl⟩ := replied
      exact Or.inl ⟨rfl, rfl⟩
  | refreshed due refreshing =>
      obtain ⟨timed, rfl, later⟩ := replied
      obtain ⟨metrics, now, ⟨bytes, answered, decoded⟩, rest⟩ :=
        holds_of_refreshing takes stored refreshing later
      exact Or.inr ⟨metrics, now, ⟨bytes, List.mem_cons_of_mem _ answered, decoded⟩, rest⟩

/-- A submission that fails notes the update in the store, and reaches no file. -/
theorem pending_of_submitting {store : MetricStore} {cid : String}
    {added : List MetricDefinition} {outcome : Controller.Outcome Unit}
    (submitting : Controller.Submitting controller store cid added transcript outcome)
    (failed : outcome.1.isOk = false) :
    outcome.2 = { controller with store := some store.markPending } ∧
      ∀ exchange ∈ transcript, Spares exchange.effect := by
  cases submitting with
  | unfetched => exact ⟨rfl, by simp [Spares]⟩
  | refused => exact ⟨rfl, by simp [Spares]⟩
  | accepted written => cases failed

/-! ### Failures -/

/-- What a failed enabling keeps of the store, and of its file: the states are those from before,
or have the roster merged in and are in the file; and an update that was under way is noted. -/
structure Spared (cid : String) (store kept : MetricStore) (transcript : Transcript)
    (files final : FileSystem) : Prop where
  place : kept.path = store.path ∧ kept.ttl = store.ttl
  states : (kept.states = store.states ∧ final = files) ∨
    ∃ metrics states, ReadsRoster transcript cid metrics ∧
      states = MetricStore.absorb (store.states.getD NameMap.empty) metrics ∧
      kept.states = some states ∧ Holds store.path states final
  names : ∀ name, kept.knows name = true → store.knows name = true ∨
    ∃ metrics, ReadsRoster transcript cid metrics ∧ name ∈ metrics.map MetricDefinition.name
  pending : TurnedDown transcript → kept.pendingUpdate = true

theorem spared_unchanged {cid : String} {store : MetricStore}
    (spares : ∀ exchange ∈ transcript, Spares exchange.effect) (accepted : ¬ TurnedDown transcript)
    (replied : Replied (undisturbed disk) files transcript final) :
    Spared cid store store transcript files final :=
  ⟨⟨rfl, rfl⟩, Or.inl ⟨rfl, eq_of_spares spares replied⟩, fun _ known => Or.inl known,
    fun refused => absurd refused accepted⟩

theorem ReadsRoster.append {first second : Transcript} {cid : String}
    {metrics : List MetricDefinition} (reads : ReadsRoster first cid metrics) :
    ReadsRoster (first ++ second) cid metrics := by
  obtain ⟨bytes, answered, decoded⟩ := reads
  exact ⟨bytes, List.mem_append_left _ answered, decoded⟩

theorem spared_pending (takes : disk.TakesWrites) {cid : String} {store fresh : MetricStore}
    {first second : Transcript}
    (stored : Stored config.stateDir store files)
    (current : Controller.Current store cid first fresh)
    (spares : ∀ exchange ∈ second, Spares exchange.effect)
    (replied : Replied (undisturbed disk) files (first ++ second) final) :
    Spared cid store fresh.markPending (first ++ second) files final := by
  obtain ⟨between, before, after⟩ := replied_append.mp replied
  obtain rfl := eq_of_spares spares after
  rcases current_cases takes stored current before with
    ⟨rfl, rfl⟩ | ⟨metrics, now, reads, rfl, holds⟩
  · exact ⟨⟨rfl, rfl⟩, Or.inl ⟨rfl, rfl⟩, fun _ known => Or.inl known, fun _ => rfl⟩
  · refine ⟨⟨rfl, rfl⟩, Or.inr ⟨metrics, _, reads.append, rfl, rfl, holds⟩, ?_, fun _ => rfl⟩
    intro name known
    rw [MetricStore.knows_markPending, MetricStore.knows_merge] at known
    exact known.imp id (fun listed => ⟨metrics, reads.append, listed⟩)

theorem spared_of_starting {outcome : Controller.Outcome Unit}
    (starting : Controller.Starting controller transcript outcome)
    (failed : outcome.1.isOk = false)
    (replied : Replied (undisturbed disk) files transcript final) :
    outcome.2 = controller ∧ final = files := by
  cases starting with
  | unresolved resolving =>
      have looks := ((Resolution.resolve_looks controller.config).course resolving).1
      exact ⟨rfl, eq_of_spares (fun exchange member => spares_of_looks (looks exchange member))
        replied⟩
  | _ => cases failed

theorem spared_of_refetching {outcome : Controller.Outcome Unit}
    (refetching : Controller.Refetching controller transcript outcome)
    (failed : outcome.1.isOk = false)
    (replied : Replied (undisturbed disk) files transcript final) :
    outcome.2 = controller ∧ final = files := by
  cases refetching with
  | unbound unbound => exact ⟨rfl, eq_of_spares (by simp) replied⟩
  | unfetched bound => exact ⟨rfl, eq_of_spares (by simp [Spares]) replied⟩
  | inactive bound inactive => exact ⟨rfl, eq_of_spares (by simp [Spares]) replied⟩
  | unread bound active managing kept refreshing =>
      have spares := (unread_of_refreshing refreshing).1
      exact ⟨rfl, eq_of_spares (by simpa [Spares] using spares) replied⟩
  | rebound bound active unmanaged => cases failed
  | refreshed bound active managing kept refreshing => cases failed

theorem spared_of_enabling (takes : disk.TakesWrites) {collected : Collected}
    {outcome : Controller.Outcome Unit} (agrees : Agrees config controller files)
    (enabling : Controller.Enabling controller collected transcript outcome)
    (failed : outcome.1.isOk = false)
    (replied : Replied (undisturbed disk) files transcript final) :
    ∃ held store kept, controller.Managing held store ∧
      outcome.2 = { controller with store := some kept } ∧
      Spared held.cid store kept transcript files final := by
  have unchanged : ∀ {held store}, controller.Managing held store →
      controller = { controller with store := some store } := by
    intro held store managing
    rw [← managing.kept]
  cases enabling with
  | @unseeded held store fresh transcript fault managing empty refreshing =>
      obtain ⟨spares, accepted⟩ := unread_of_refreshing refreshing
      exact ⟨held, store, store, managing, unchanged managing,
        spared_unchanged spares accepted replied⟩
  | @unread held store fresh transcript now fault managing loaded due refreshing =>
      obtain ⟨spares, accepted⟩ := unread_of_refreshing refreshing
      refine ⟨held, store, store, managing, unchanged managing, spared_unchanged ?_ ?_ replied⟩
      · simpa [Spares] using spares
      · simpa [TurnedDown, Transcript.Answered] using accepted
  | @submitted held store fresh first second outcome managing loaded current new submitting =>
      obtain ⟨after, spares⟩ := pending_of_submitting submitting failed
      have stored := agrees.stored store managing.kept
      exact ⟨held, store, fresh.markPending, managing, after,
        spared_pending takes stored current spares replied⟩
  | _ => cases failed

/-- Where an opened draft takes what is written to it, in every reachable state a start or a refresh
that fails leaves the controller and the files as they were; an enabling that fails leaves all but
the store, and what it keeps of the store is spared. -/
theorem failed_operation_spares (takes : disk.TakesWrites)
    (reachable : Reachable disk config controller files)
    {operation : Controller.Operation} {outcome : Controller.Outcome Unit}
    (course : Course (operation.program controller) transcript outcome)
    (failed : outcome.1.isOk = false)
    (replied : Replied (undisturbed disk) files transcript final) :
    (operation = .start ∨ operation = .refresh → outcome.2 = controller ∧ final = files) ∧
    ∀ collected, operation = .enable collected →
      ∃ held store kept, controller.Managing held store ∧
        outcome.2 = { controller with store := some kept } ∧
        Spared held.cid store kept transcript files final := by
  constructor
  · rintro (rfl | rfl)
    · exact spared_of_starting (Controller.starting_of_course course) failed replied
    · exact spared_of_refetching (Controller.refetching_of_course course) failed replied
  · rintro collected rfl
    exact spared_of_enabling takes (reachable.agrees takes) (Controller.enabling_of_course course)
      failed replied

def refusingUpdates (memory : Api.Memory) : (call : Api.Call) → call.Answer × Api.Memory
  | .update _ => (.error (.http "connection reset"), memory)
  | call => memory.answer call

/-- A metric on the roster is merged in and written before an update is refused; the metric that
was to be enabled stays unknown, and the update is noted. -/
theorem failed_operation_spares_roster :
    let bundle : Bundle :=
      { Bundle.blank with cid := "/check_bundle/1", status := Bundle.activeStatus }
    let world := World.quiet
      ((Api.Memory.fresh.insertBundle bundle).setRoster "/check_bundle/1"
        [.ofKind "idle" .numeric "available"])
      ⟨[(["state"], .directory), (["state", "metrics.json"], .file (bytes NameMap.empty))], []⟩
    let config := { Config.standard with
      bundleId := some "1", enableNewMetrics := true, stateDir := some "/state" }
    let starting := Controller.Operation.start.program (.unbound config)
    let started := world.run refusingUpdates starting
    let enabling := (Controller.Operation.enable [("load", .text "0.1")]).program started.1.2
    ∃ held store kept, started.1.2.Managing held store ∧
      (started.2.run refusingUpdates enabling).1.2 = { started.1.2 with store := some kept } ∧
      kept.states = some (NameMap.ofList [("idle", "available")]) ∧
      Spared held.cid store kept (started.2.record refusingUpdates enabling) started.2.files
        (started.2.run refusingUpdates enabling).2.files := by
  intro bundle world config starting started enabling
  have takes : Disk.TakesWrites ⟨True, False⟩ := id
  have reachable : Reachable ⟨True, False⟩ config started.1.2 started.2.files :=
    (Reachable.begins world.files).run refusingUpdates .start
  have observed : (started.2.run refusingUpdates enabling).1.1.isOk = false ∧
      (started.2.run refusingUpdates enabling).1.2.store.bind MetricStore.states =
        some (NameMap.ofList [("idle", "available")]) := by decide +kernel
  obtain ⟨failed, known⟩ := observed
  have replied :=
    started.2.replied_run (@undisturbed_world ⟨True, False⟩ _ refusingUpdates) enabling
  obtain ⟨held, store, kept, managing, after, spared⟩ :=
    (failed_operation_spares takes reachable (started.2.course_run enabling) failed replied).2 _ rfl
  rw [after] at known
  exact ⟨held, store, kept, managing, after, known, spared⟩

end CheckBinding.Persistence
