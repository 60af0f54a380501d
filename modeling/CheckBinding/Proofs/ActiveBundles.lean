import CheckBinding.Proofs.Resolution

/-!
Which bundles a controller comes to hold.

A start and a refresh pass only bundles that are active. Enabling new metrics takes the answer to
its update over as it is, so a controller holds active bundles throughout a session just when the
updates of the session were answered with active bundles.
-/

namespace CheckBinding

open Program

namespace Controller

variable {controller : Controller} {transcript : Transcript}

/-- The bundle held, if any, is active. -/
def holdsActive (controller : Controller) : Bool :=
  controller.bundle.all Bundle.isActive

theorem holdsActive_settleStore (store : MetricStore) (persisted : Bool) :
    (controller.settleStore store persisted).holdsActive = controller.holdsActive := by
  cases persisted <;> rfl

/-! ### Exchanges that bring no bundle -/

theorem updates_of_leaves (leaves : ∀ exchange ∈ transcript, exchange.effect.Leaves) :
    transcript.updates = [] := by
  refine List.filterMap_eq_nil_iff.mpr (fun exchange member => ?_)
  have left := leaves exchange member
  obtain ⟨effect, reply⟩ := exchange
  cases effect with
  | call call =>
      cases call with
      | update extended => exact left.elim
      | _ => rfl
  | _ => rfl

/-! ### Starting and refreshing -/

theorem Starting.updates {outcome : Outcome Unit}
    (starting : Starting controller transcript outcome) : transcript.updates = [] := by
  have resolved : ∀ {part : Transcript} {answer : Except CheckFault Bundle},
      Course (Resolution.resolve controller.config) part answer → part.updates = [] :=
    fun resolving => updates_of_leaves
      ((Resolution.resolve_looks controller.config).leaves.course resolving).1
  cases starting with
  | unneeded unneeded => rfl
  | unresolved resolving => exact resolved resolving
  | bound resolving unmanaged => exact resolved resolving
  | prepared resolving managed preparing =>
      have stores := ((prepareStore_stores controller.config).course preparing).1
      have supplies := fun exchange member => (stores exchange member).supplies
      rw [Transcript.updates_append, resolved resolving, Transcript.updates_of_supplies supplies]
      rfl

theorem Starting.holdsActive {outcome : Outcome Unit}
    (starting : Starting controller transcript outcome) (active : controller.holdsActive = true) :
    outcome.2.holdsActive = true := by
  have resolved : ∀ {part : Transcript} {bundle : Bundle},
      Course (Resolution.resolve controller.config) part (.ok bundle) → bundle.isActive = true := by
    intro part bundle resolving
    obtain ⟨path, method, taken, -⟩ := Resolution.exists_path resolving
    exact (taken.eq_ok_iff.mp rfl).2
  cases starting with
  | unneeded unneeded => exact active
  | unresolved resolving => exact active
  | bound resolving unmanaged =>
      have passed := resolved resolving
      exact passed
  | prepared resolving managed preparing =>
      have passed := resolved resolving
      exact passed

theorem Refetching.updates {outcome : Outcome Unit}
    (refetching : Refetching controller transcript outcome) : transcript.updates = [] := by
  cases refetching with
  | unread bound active managing kept refreshing =>
      have silent := Transcript.updates_of_supplies refreshing.supplies
      exact silent
  | refreshed bound active managing kept refreshing =>
      have silent := Transcript.updates_of_supplies refreshing.supplies
      exact silent
  | _ => rfl

theorem Refetching.holdsActive {outcome : Outcome Unit}
    (refetching : Refetching controller transcript outcome)
    (active : controller.holdsActive = true) : outcome.2.holdsActive = true := by
  cases refetching with
  | rebound bound passed unmanaged => exact passed
  | refreshed bound passed managing kept refreshing => exact passed
  | _ => exact active

/-- An inactive bundle that a start meets is reported, and nothing changes. -/
theorem Starting.reports {outcome : Outcome Unit}
    (starting : Starting controller transcript outcome) {bundle : Bundle}
    (met : bundle ∈ transcript.bundles) (inactive : bundle.isActive = false) :
    outcome = (.error (.notActive bundle.cid bundle.checks bundle.status), controller) := by
  have resolved : ∀ {part : Transcript} {answer : Except CheckFault Bundle},
      Course (Resolution.resolve controller.config) part answer → bundle ∈ part.bundles →
        answer = .error (.notActive bundle.cid bundle.checks bundle.status) := by
    intro part answer resolving member
    obtain ⟨path, method, taken, rfl⟩ := Resolution.exists_path resolving
    rw [Transcript.bundles_append] at member
    have onPath := (List.mem_append.mp member).resolve_right List.not_mem_nil
    rw [taken.judges onPath]
    exact Resolution.ensureActive_of_inactive inactive
  cases starting with
  | unneeded unneeded => cases met
  | unresolved resolving =>
      cases resolved resolving met
      rfl
  | bound resolving unmanaged => cases resolved resolving met
  | prepared resolving managed preparing =>
      have stores := ((prepareStore_stores controller.config).course preparing).1
      have supplies := fun exchange member => (stores exchange member).supplies
      rw [Transcript.bundles_append, Transcript.bundles_of_supplies supplies,
        List.append_nil] at met
      cases resolved resolving met

theorem Refetching.reports {outcome : Outcome Unit}
    (refetching : Refetching controller transcript outcome) {bundle : Bundle}
    (met : bundle ∈ transcript.bundles) (inactive : bundle.isActive = false) :
    outcome = (.error (.notActive bundle.cid bundle.checks bundle.status), controller) := by
  have impossible : ∀ {fetched : Bundle} {rest : Transcript}, fetched.isActive = true →
      rest.bundles = [] → bundle ∈ fetched :: rest.bundles → False := by
    intro fetched rest active silent member
    rw [silent] at member
    rw [List.mem_singleton.mp member, active] at inactive
    cases inactive
  cases refetching with
  | unbound unbound => cases met
  | unfetched bound => cases met
  | inactive bound turned =>
      rw [List.mem_singleton.mp met]
  | unread bound active managing kept refreshing =>
      exact (impossible active (Transcript.bundles_of_supplies refreshing.supplies) met).elim
  | rebound bound active unmanaged =>
      exact (impossible active (by rfl : Transcript.bundles [] = []) met).elim
  | refreshed bound active managing kept refreshing =>
      exact (impossible active (Transcript.bundles_of_supplies refreshing.supplies) met).elim

/-! ### Enabling -/

/-- An update that is accepted decides what is held; nothing else that a submission meets does. -/
theorem Submitting.holdsActive_iff {store : MetricStore} {cid : String}
    {added : List MetricDefinition} {outcome : Outcome Unit}
    (submitting : Submitting controller store cid added transcript outcome)
    (active : controller.holdsActive = true) :
    outcome.2.holdsActive = true ↔ ∀ updated ∈ transcript.updates, updated.isActive = true := by
  cases submitting with
  | unfetched => exact iff_of_true active (fun updated none => by cases none)
  | refused => exact iff_of_true active (fun updated none => by cases none)
  | @accepted fresh updated now writes persisted written =>
      have supplies := MetricStore.supplies_of_persist written
      have only :
          Transcript.updates (writes ++ [⟨.count .metricsEnabled added.length, ()⟩]) = [] := by
        rw [Transcript.updates_append, Transcript.updates_of_supplies supplies]
        rfl
      rw [holdsActive_settleStore]
      change updated.isActive = true ↔ ∀ other ∈ updated :: Transcript.updates
        (writes ++ [⟨.count .metricsEnabled added.length, ()⟩]), other.isActive = true
      rw [only]
      simp

theorem Enabling.holdsActive_iff {collected : Collected} {outcome : Outcome Unit}
    (enabling : Enabling controller collected transcript outcome)
    (active : controller.holdsActive = true) :
    outcome.2.holdsActive = true ↔ ∀ updated ∈ transcript.updates, updated.isActive = true := by
  have unchanged : ∀ {part : Transcript}, (∀ exchange ∈ part, exchange.effect.Supplies) →
      ∀ updated ∈ part.updates, updated.isActive = true := by
    intro part supplies updated member
    rw [Transcript.updates_of_supplies supplies] at member
    cases member
  cases enabling with
  | idle idle => exact iff_of_true active (unchanged (by simp))
  | unseeded managing empty refreshing =>
      exact iff_of_true active (unchanged refreshing.supplies)
  | seeded managing empty refreshing =>
      rw [holdsActive_settleStore]
      exact iff_of_true active (unchanged refreshing.supplies)
  | unread managing loaded due refreshing =>
      have answered := unchanged refreshing.supplies
      exact iff_of_true active answered
  | unwritten managing loaded due refreshing =>
      have answered := unchanged refreshing.supplies
      exact iff_of_true active answered
  | known managing loaded current nothing =>
      exact iff_of_true active (unchanged current.supplies)
  | submitted managing loaded current new submitting =>
      rw [Transcript.updates_append, Transcript.updates_of_supplies current.supplies]
      exact submitting.holdsActive_iff active

theorem Enabling.ne_notActive {collected : Collected} {outcome : Outcome Unit}
    (enabling : Enabling controller collected transcript outcome) (cid : String)
    (checks : List String) (status : String) :
    outcome.1 ≠ .error (.notActive cid checks status) := by
  have unread : ∀ {store fresh : MetricStore} {asked : String} {part : Transcript}
      {fault : CheckFault}, store.Refreshing asked part fresh (.error fault) →
        fault ≠ .notActive cid checks status := by
    intro store fresh asked part fault refreshing same
    cases refreshing with
    | unread failed => cases same
  intro reported
  cases enabling with
  | unseeded managing empty refreshing => exact unread refreshing (Except.error.inj reported)
  | unread managing loaded due refreshing => exact unread refreshing (Except.error.inj reported)
  | submitted managing loaded current new submitting =>
      cases submitting with
      | _ => cases reported
  | _ => cases reported

/-! ### Sessions -/

theorem Operation.holdsActive_iff {operation : Operation} {outcome : Outcome Unit}
    (course : Course (operation.program controller) transcript outcome)
    (active : controller.holdsActive = true) :
    outcome.2.holdsActive = true ↔ ∀ updated ∈ transcript.updates, updated.isActive = true := by
  cases operation with
  | start =>
      have starting := starting_of_course course
      rw [starting.updates]
      exact iff_of_true (starting.holdsActive active) (fun updated none => by cases none)
  | refresh =>
      have refetching := refetching_of_course course
      rw [refetching.updates]
      exact iff_of_true (refetching.holdsActive active) (fun updated none => by cases none)
  | enable collected => exact (enabling_of_course course).holdsActive_iff active

theorem session_holdsActive_iff {operations : List Operation} {outcomes : List (Outcome Unit)}
    (course : Course (controller.session operations) transcript outcomes)
    (active : controller.holdsActive = true) :
    (∀ outcome ∈ outcomes, outcome.2.holdsActive = true) ↔
      ∀ updated ∈ transcript.updates, updated.isActive = true := by
  induction operations generalizing controller transcript outcomes with
  | nil =>
      obtain ⟨rfl, rfl⟩ := course_pure.mp course
      exact iff_of_true (fun outcome none => by cases none) (fun updated none => by cases none)
  | cons operation operations ih =>
      obtain ⟨outcome, others, first, rest, rfl, rfl, here, later⟩ := course_session_cons course
      have step := Operation.holdsActive_iff here active
      rw [List.forall_mem_cons, Transcript.updates_append, List.forall_mem_append]
      -- What follows an inactive bundle does not matter: both sides have failed by then.
      constructor
      · rintro ⟨now, after⟩
        exact ⟨step.mp now, (ih later now).mp after⟩
      · rintro ⟨now, after⟩
        exact ⟨step.mpr now, (ih later (step.mpr now)).mpr after⟩

/-- A controller holds active bundles throughout a session just when all updates were answered with
active ones. And an operation reports every inactive bundle that it meets, without changing the
controller, just when it is not an enabling or meets none. -/
theorem holds_active_iff {config : Config} {operations : List Operation}
    {outcomes : List (Outcome Unit)}
    (course : Course ((unbound config).session operations) transcript outcomes) :
    ((∀ outcome ∈ outcomes, outcome.2.holdsActive = true) ↔
      ∀ updated ∈ transcript.updates, updated.isActive = true) ∧
    ∀ (operation : Operation) (controller : Controller) part outcome,
      Course (operation.program controller) part outcome →
        ((∀ bundle ∈ part.bundles, bundle.isActive = false →
          outcome = (.error (.notActive bundle.cid bundle.checks bundle.status), controller)) ↔
        ∀ collected, operation = .enable collected →
          ∀ bundle ∈ part.bundles, bundle.isActive = true) := by
  refine ⟨session_holdsActive_iff course rfl, ?_⟩
  intro operation controller part outcome run
  constructor
  · rintro reported collected rfl bundle met
    cases active : bundle.isActive with
    | true => rfl
    | false =>
        have silent := (enabling_of_course run).ne_notActive bundle.cid bundle.checks bundle.status
        rw [reported bundle met active] at silent
        exact absurd rfl silent
  · intro allActive bundle met inactive
    cases operation with
    | start => exact (starting_of_course run).reports met inactive
    | refresh => exact (refetching_of_course run).reports met inactive
    | enable collected =>
        rw [allActive collected rfl bundle met] at inactive
        cases inactive

/-- Three operations that bind a bundle, read its roster and submit one metric. -/
def enablingLoad (config : Config) : Program (List (Outcome Unit)) :=
  (unbound config).session [.start, .enable [], .enable [("load", .text "0.1")]]

/-- Where the service keeps the bundle active, three bundles are met and all that is held is
active. -/
theorem holds_active_iff_enabling :
    let bundle : Bundle :=
      { Bundle.blank with cid := "/check_bundle/1", status := Bundle.activeStatus }
    let world := World.quiet (Api.Memory.fresh.insertBundle bundle) Storage.FileSystem.empty
    let config := { Config.standard with
      bundleId := some "1", enableNewMetrics := true, stateDir := some "." }
    (world.record Api.Memory.answer (enablingLoad config)).bundles.length = 3 ∧
      (∀ updated ∈ (world.record Api.Memory.answer (enablingLoad config)).updates,
        updated.isActive = true) ∧
      ∀ outcome ∈ (world.run Api.Memory.answer (enablingLoad config)).1,
        outcome.2.holdsActive = true := by
  intro bundle world config
  have answered : ∀ updated ∈ (world.record Api.Memory.answer (enablingLoad config)).updates,
      updated.isActive = true := by decide +kernel
  refine ⟨by decide +kernel, answered, ?_⟩
  exact (holds_active_iff (world.course_run (enablingLoad config))).1.mpr answered

/-- A service in memory where a bundle is suspended once its roster was read. -/
def suspendingOnceRead (cid : String) (memory : Api.Memory) :
    (call : Api.Call) → call.Answer × Api.Memory
  | .get path =>
      let (answer, after) := memory.answer (.get path)
      match after.bundle? cid with
      | some bundle => (answer, after.insertBundle { bundle with status := "suspended" })
      | none => (answer, after)
  | call => memory.answer call

/-- An enabling succeeds and leaves a bundle held that is not active. -/
theorem suspended_bundle_held :
    let bundle : Bundle :=
      { Bundle.blank with cid := "/check_bundle/1", status := Bundle.activeStatus }
    let world := World.quiet (Api.Memory.fresh.insertBundle bundle) Storage.FileSystem.empty
    let config := { Config.standard with
      bundleId := some "1", enableNewMetrics := true, stateDir := some "." }
    Course (enablingLoad config)
        (world.record (suspendingOnceRead bundle.cid) (enablingLoad config))
        (world.run (suspendingOnceRead bundle.cid) (enablingLoad config)).1 ∧
      ∃ outcome ∈ (world.run (suspendingOnceRead bundle.cid) (enablingLoad config)).1,
        outcome.1.isOk = true ∧ outcome.2.holdsActive = false := by
  intro bundle world config
  exact ⟨world.course_run (enablingLoad config), by decide +kernel⟩

end Controller
end CheckBinding
