import CheckBinding.Proofs.Courses

/-!
How managing metrics goes on, and how it ends.

A controller manages metrics as long as it has a store. A request to the files that fails while the
store is written ends this for good, and does nothing else: the operation succeeds, and those that
follow only fetch the bundle. The service and the files answer at will.
-/

namespace CheckBinding

open Program

variable {transcript : Transcript}

/-! ### Failed writes -/

def Exchange.misses : Exchange → Bool
  | ⟨.storage _, .error _⟩ => true
  | _ => false

def Transcript.misses (transcript : Transcript) : Bool :=
  transcript.any Exchange.misses

@[simp]
theorem Transcript.misses_append (first second : Transcript) :
    misses (first ++ second) = (first.misses || second.misses) :=
  List.any_append

theorem misses_of_storage {operation : Storage.Operation}
    {reply : Except Storage.Fault operation.Result}
    (course : Course (Program.storage operation) transcript reply) :
    transcript.misses = !reply.isOk := by
  obtain rfl := course_ask.mp course
  cases reply <;> rfl

/-- A save fails just when one of its requests does. -/
theorem StateFile.misses_of_save {path : String} {states : States}
    {result : Except CheckFault Unit} (course : Course (save path states) transcript result) :
    transcript.misses = !result.isOk := by
  rw [save] at course
  obtain ⟨opened, first, later, rfl, opening, course⟩ := course_bind.mp course
  rw [Transcript.misses_append, misses_of_storage opening]
  cases opened with
  | error fault =>
      obtain ⟨rfl, rfl⟩ := course_pure.mp course
      rfl
  | ok _ =>
      obtain ⟨written, second, later, rfl, writing, course⟩ := course_bind.mp course
      rw [Transcript.misses_append, misses_of_storage writing]
      cases written with
      | error fault =>
          obtain ⟨rfl, rfl⟩ := course_pure.mp course
          rfl
      | ok _ =>
          obtain ⟨synced, third, later, rfl, syncing, course⟩ := course_bind.mp course
          rw [Transcript.misses_append, misses_of_storage syncing]
          cases synced with
          | error fault =>
              obtain ⟨rfl, rfl⟩ := course_pure.mp course
              rfl
          | ok _ =>
              obtain ⟨moved, fourth, later, rfl, moving, course⟩ := course_bind.mp course
              rw [Transcript.misses_append, misses_of_storage moving]
              cases moved with
              | error fault =>
                  obtain ⟨rfl, rfl⟩ := course_pure.mp course
                  rfl
              | ok _ =>
                  obtain ⟨rfl, rfl⟩ := course_pure.mp course
                  rfl

namespace MetricStore

variable {store fresh : MetricStore} {cid : String}

theorem misses_of_persist {persisted : Bool} (course : Course store.persist transcript persisted) :
    transcript.misses = !persisted := by
  rw [persist] at course
  split at course
  · obtain ⟨rfl, rfl⟩ := course_pure.mp course
    rfl
  · obtain ⟨saved, first, later, rfl, saving, course⟩ := course_bind.mp course
    rw [Transcript.misses_append, StateFile.misses_of_save saving]
    cases saved with
    | error fault =>
        obtain ⟨rfl, rfl⟩ := course_pure.mp course
        rfl
    | ok _ =>
        obtain ⟨rfl, rfl⟩ := course_pure.mp course
        rfl

theorem Refreshing.misses_of_error {fault : CheckFault}
    (refreshing : store.Refreshing cid transcript fresh (.error fault)) :
    transcript.misses = false := by
  cases refreshing with
  | unread failed => rfl

theorem Refreshing.misses_of_ok {persisted : Bool}
    (refreshing : store.Refreshing cid transcript fresh (.ok persisted)) :
    transcript.misses = !persisted := by
  cases refreshing with
  | @read bytes metrics now writes persisted decoded written =>
      change writes.misses = _
      exact misses_of_persist written

end MetricStore

namespace Controller

variable {config : Config} {controller : Controller}

/-! ### What goes together -/

/-- Metrics are managed just when there is a store, and then a bundle is held. Of the bundle held
the metrics are not kept. -/
structure Coherent (controller : Controller) : Prop where
  store : controller.managing = controller.store.isSome
  bound : controller.managing = true → controller.bundle.isSome = true
  bare : ∀ held, controller.bundle = some held → held.metrics = []

theorem coherent_unbound (config : Config) : (unbound config).Coherent :=
  ⟨rfl, (fun managing => nomatch managing), (fun _ bound => nomatch bound)⟩

theorem Coherent.bind (coherent : controller.Coherent) (bundle : Bundle) :
    (controller.bind bundle).Coherent := by
  refine ⟨coherent.store, fun _ => rfl, fun held bound => ?_⟩
  cases bound
  rfl

theorem Coherent.stopManaging (coherent : controller.Coherent) :
    controller.stopManaging.Coherent :=
  ⟨rfl, (fun managing => nomatch managing), coherent.bare⟩

theorem Coherent.keep (coherent : controller.Coherent) (managing : controller.managing = true)
    (store : MetricStore) : { controller with store := some store }.Coherent :=
  ⟨managing, coherent.bound, coherent.bare⟩

theorem Coherent.settleStore (coherent : controller.Coherent)
    (managing : controller.managing = true) (store : MetricStore) (persisted : Bool) :
    (controller.settleStore store persisted).Coherent := by
  cases persisted with
  | true => exact coherent.keep managing store
  | false => exact coherent.stopManaging

theorem Coherent.starting {outcome : Outcome Unit} (coherent : controller.Coherent)
    (starting : Starting controller transcript outcome) : outcome.2.Coherent := by
  cases starting with
  | unneeded unneeded => exact coherent
  | unresolved resolving => exact coherent
  | bound resolving unmanaged => exact coherent.bind _
  | prepared resolving managed preparing =>
      refine ⟨rfl, fun _ => rfl, fun held bound => ?_⟩
      cases bound
      rfl

theorem Coherent.refetching {outcome : Outcome Unit} (coherent : controller.Coherent)
    (refetching : Refetching controller transcript outcome) : outcome.2.Coherent := by
  cases refetching with
  | rebound bound active alone => exact coherent.bind _
  | refreshed bound active managing kept refreshing =>
      exact (coherent.settleStore managing _ _).bind _
  | _ => exact coherent

theorem Coherent.submitting {store : MetricStore} {cid : String} {added : List MetricDefinition}
    {outcome : Outcome Unit} (coherent : controller.Coherent)
    (managing : controller.managing = true)
    (submitting : Submitting controller store cid added transcript outcome) :
    outcome.2.Coherent := by
  have pending := coherent.keep managing store.markPending
  cases submitting with
  | unfetched => exact pending
  | refused => exact pending
  | accepted written => exact (pending.bind _).settleStore managing _ _

theorem Coherent.enabling {collected : Collected} {outcome : Outcome Unit}
    (coherent : controller.Coherent)
    (enabling : Enabling controller collected transcript outcome) : outcome.2.Coherent := by
  cases enabling with
  | idle idle => exact coherent
  | unseeded managing empty refreshing => exact coherent
  | seeded managing empty refreshing => exact coherent.settleStore managing.managing _ _
  | unread managing loaded due refreshing => exact coherent
  | unwritten managing loaded due refreshing => exact coherent.stopManaging
  | known managing loaded current nothing => exact coherent.keep managing.managing _
  | submitted managing loaded current new submitting =>
      exact coherent.submitting managing.managing submitting

theorem Coherent.of_course {operation : Operation} {outcome : Outcome Unit}
    (coherent : controller.Coherent)
    (course : Course (operation.program controller) transcript outcome) : outcome.2.Coherent := by
  cases operation with
  | start => exact coherent.starting (starting_of_course course)
  | refresh => exact coherent.refetching (refetching_of_course course)
  | enable collected => exact coherent.enabling (enabling_of_course course)

/-! ### What excuses a fault -/

/-- What a fault of a refresh or an enabling can be due to: nothing is bound, a call that the
service turned down, a roster that cannot be decoded, or a fetched bundle that is not active. -/
inductive Excused (operation : Operation) (controller : Controller) (transcript : Transcript) :
    CheckFault → Prop
  | unbound (refreshes : operation = .refresh) (unbound : controller.bundle = none) :
      Excused operation controller transcript .uninitialized
  | refused {activity : Activity} {source refusal : Api.Fault} {call : Api.Call}
      (answered : transcript.Answered call (.error refusal)) :
      Excused operation controller transcript (.api activity source)
  | undecoded {activity : Activity} {source : Api.Fault} {path : String} {bytes : ByteArray}
      {reason : Json.Fault} (answered : transcript.Answered (.get path) (.ok bytes))
      (undecoded : Json.decodeBytes MetricStore.rosterOfJson bytes = .error reason) :
      Excused operation controller transcript (.api activity source)
  | inactive {cid : String} {bundle : Bundle} (refreshes : operation = .refresh)
      (answered : transcript.Answered (.fetchBundle cid) (.ok bundle))
      (inactive : bundle.isActive = false) :
      Excused operation controller transcript
        (.notActive bundle.cid bundle.checks bundle.status)

theorem Excused.append {operation : Operation} {fault : CheckFault} (first : Transcript)
    {second : Transcript} (excused : Excused operation controller second fault) :
    Excused operation controller (first ++ second) fault := by
  cases excused with
  | unbound refreshes unbound => exact .unbound refreshes unbound
  | refused answered => exact .refused (List.mem_append_right first answered)
  | undecoded answered reason => exact .undecoded (List.mem_append_right first answered) reason
  | inactive refreshes answered status =>
      exact .inactive refreshes (List.mem_append_right first answered) status

theorem excused_of_refreshing {operation : Operation} {store fresh : MetricStore} {cid : String}
    {fault : CheckFault} (refreshing : store.Refreshing cid transcript fresh (.error fault)) :
    Excused operation controller transcript fault := by
  cases refreshing with
  | @unread answer activity source failed =>
      cases answer with
      | error refusal => exact .refused (List.mem_singleton_self _)
      | ok bytes =>
          obtain ⟨reason, undecoded⟩ := failed bytes rfl
          exact .undecoded (List.mem_singleton_self _) undecoded

theorem Refetching.excused {outcome : Outcome Unit}
    (refetching : Refetching controller transcript outcome) {fault : CheckFault}
    (failed : outcome.1 = .error fault) : Excused .refresh controller transcript fault := by
  cases refetching with
  | unbound unbound =>
      cases failed
      exact .unbound rfl unbound
  | unfetched bound =>
      cases failed
      exact .refused (List.mem_singleton_self _)
  | inactive bound inactive =>
      cases failed
      exact .inactive rfl (List.mem_singleton_self _) inactive
  | unread bound active managing kept refreshing =>
      cases failed
      exact (excused_of_refreshing refreshing).append [_]
  | rebound bound active alone => cases failed
  | refreshed bound active managing kept refreshing => cases failed

theorem Enabling.excused {collected : Collected} {outcome : Outcome Unit}
    (enabling : Enabling controller collected transcript outcome) {fault : CheckFault}
    (failed : outcome.1 = .error fault) :
    Excused (.enable collected) controller transcript fault := by
  cases enabling with
  | unseeded managing empty refreshing =>
      cases failed
      exact excused_of_refreshing refreshing
  | unread managing loaded due refreshing =>
      cases failed
      exact (excused_of_refreshing refreshing).append [_]
  | submitted managing loaded current new submitting =>
      refine Excused.append _ ?_
      cases submitting with
      | unfetched =>
          cases failed
          exact .refused (List.mem_singleton_self _)
      | refused =>
          cases failed
          exact .refused (List.mem_cons_of_mem _ (List.mem_singleton_self _))
      | accepted written => cases failed
  | _ => cases failed

/-! ### How managing ends -/

/-- After a refresh or an enabling metrics are managed just when they were before and no request
to the files failed; and such a failure is no fault of the operation. -/
structure Settled (controller : Controller) (transcript : Transcript) (outcome : Outcome Unit) :
    Prop where
  managing : outcome.2.managing = (controller.managing && !transcript.misses)
  succeeds : transcript.misses = true → outcome.1 = .ok ()

theorem settled_of_error {outcome : Outcome Unit} (written : transcript.misses = false)
    (same : outcome.2.managing = controller.managing) :
    Settled controller transcript outcome := by
  refine ⟨?_, fun missed => ?_⟩
  · rw [written, same, Bool.not_false, Bool.and_true]
  · rw [written] at missed
    cases missed

theorem managing_settleStore (store : MetricStore) (persisted : Bool) :
    (controller.settleStore store persisted).managing = (controller.managing && persisted) := by
  cases persisted <;> simp [Controller.settleStore, stopManaging]

theorem Refetching.settled {outcome : Outcome Unit}
    (refetching : Refetching controller transcript outcome) :
    Settled controller transcript outcome := by
  cases refetching with
  | unread bound active managing kept refreshing =>
      exact settled_of_error refreshing.misses_of_error rfl
  | @refreshed held bundle store fresh transcript persisted bound active managing kept
      refreshing =>
      refine ⟨?_, fun _ => rfl⟩
      change (controller.settleStore fresh persisted).managing = (_ && !transcript.misses)
      rw [refreshing.misses_of_ok, Bool.not_not, managing_settleStore]
  | _ => exact settled_of_error rfl rfl

theorem Current.misses_eq {store fresh : MetricStore} {cid : String}
    (current : Current store cid transcript fresh) : transcript.misses = false := by
  cases current with
  | already fresh => rfl
  | refreshed due refreshing => exact refreshing.misses_of_ok

theorem Submitting.settled {store : MetricStore} {cid : String} {added : List MetricDefinition}
    {outcome : Outcome Unit}
    (submitting : Submitting controller store cid added transcript outcome) :
    Settled controller transcript outcome := by
  cases submitting with
  | unfetched => exact settled_of_error rfl rfl
  | refused => exact settled_of_error rfl rfl
  | @accepted fresh updated now writes persisted written =>
      refine ⟨?_, fun _ => rfl⟩
      have missed : Transcript.misses (writes ++ [⟨.count .metricsEnabled added.length, ()⟩]) =
          !persisted := by
        rw [Transcript.misses_append, MetricStore.misses_of_persist written]
        exact Bool.or_false _
      rw [managing_settleStore]
      change _ = (_ && !(Transcript.misses (writes ++ _)))
      rw [missed, Bool.not_not]
      rfl

theorem Enabling.settled {collected : Collected} {outcome : Outcome Unit}
    (enabling : Enabling controller collected transcript outcome) :
    Settled controller transcript outcome := by
  cases enabling with
  | idle idle => exact settled_of_error rfl rfl
  | unseeded managing empty refreshing => exact settled_of_error refreshing.misses_of_error rfl
  | seeded managing empty refreshing =>
      refine ⟨?_, fun _ => rfl⟩
      rw [refreshing.misses_of_ok, Bool.not_not, managing_settleStore]
  | unread managing loaded due refreshing =>
      exact settled_of_error refreshing.misses_of_error rfl
  | @unwritten held store fresh transcript now managing loaded due refreshing =>
      refine ⟨?_, fun _ => rfl⟩
      change false = (_ && !transcript.misses)
      rw [refreshing.misses_of_ok, Bool.not_not, Bool.and_false]
  | known managing loaded current nothing => exact settled_of_error current.misses_eq rfl
  | submitted managing loaded current new submitting =>
      have settled := submitting.settled
      constructor
      · rw [Transcript.misses_append, current.misses_eq, Bool.false_or]
        exact settled.managing
      · rw [Transcript.misses_append, current.misses_eq, Bool.false_or]
        exact settled.succeeds

theorem settled_of_course {operation : Operation} {outcome : Outcome Unit}
    (tends : operation ≠ .start)
    (course : Course (operation.program controller) transcript outcome) :
    Settled controller transcript outcome := by
  cases operation with
  | start => exact absurd rfl tends
  | refresh => exact (refetching_of_course course).settled
  | enable collected => exact (enabling_of_course course).settled

/-- Without managing, an operation asks for the bundle at most. -/
theorem fetches_of_course {operation : Operation} {outcome : Outcome Unit}
    (tends : operation ≠ .start) (unmanaged : controller.managing = false)
    (course : Course (operation.program controller) transcript outcome) :
    ∀ exchange ∈ transcript, ∃ cid, exchange.effect = .call (.fetchBundle cid) := by
  have idle : ∀ {held store}, ¬ controller.Managing held store := by
    intro held store managing
    cases unmanaged.symm.trans managing.managing
  cases operation with
  | start => exact absurd rfl tends
  | refresh =>
      cases refetching_of_course course with
      | unread bound active managing kept refreshing => cases unmanaged.symm.trans managing
      | refreshed bound active managing kept refreshing => cases unmanaged.symm.trans managing
      | _ => simp
  | enable collected =>
      cases enabling_of_course course with
      | idle idle => simp
      | unseeded managing empty refreshing => exact absurd managing idle
      | seeded managing empty refreshing => exact absurd managing idle
      | unread managing loaded due refreshing => exact absurd managing idle
      | unwritten managing loaded due refreshing => exact absurd managing idle
      | known managing loaded current nothing => exact absurd managing idle
      | submitted managing loaded current new submitting => exact absurd managing idle

/-- Where metrics are not managed, nothing but a start changes that. -/
theorem Proceeds.fetches {entries : List Entry} (proceeds : Proceeds controller entries)
    (unmanaged : controller.managing = false)
    (tends : ∀ entry ∈ entries, entry.operation ≠ .start) :
    ∀ entry ∈ entries, ∀ exchange ∈ entry.transcript,
      ∃ cid, exchange.effect = .call (.fetchBundle cid) := by
  induction proceeds with
  | rests => simp
  | continues course later ih =>
      obtain ⟨tendsNow, tendsLater⟩ := List.forall_mem_cons.mp tends
      have still := (settled_of_course tendsNow course).managing
      rw [unmanaged, Bool.false_and] at still
      exact List.forall_mem_cons.mpr
        ⟨fetches_of_course tendsNow unmanaged course, ih still tendsLater⟩

/-! ### Runs -/

inductive Reached (config : Config) : Controller → Prop
  | begins : Reached config (.unbound config)
  | operates {controller : Controller} {operation : Operation} {transcript : Transcript}
      {outcome : Outcome Unit} (before : Reached config controller)
      (course : Course (operation.program controller) transcript outcome) :
      Reached config outcome.2

theorem Reached.coherent (reached : Reached config controller) : controller.Coherent := by
  induction reached with
  | begins => exact coherent_unbound config
  | operates before course ih => exact ih.of_course course

/-- In every state that is reached, managing goes with a store and a bundle held without its
metrics. A refresh or an enabling fails only with an excuse, never for the state file, and metrics
are managed after it as before unless a request to the files failed. Then it succeeds, the store is
gone, and as long as there is no other start all that is asked for is the bundle. -/
theorem failed_write_ends_managing (reached : Reached config controller) :
    controller.Coherent ∧
    ∀ operation transcript outcome, operation ≠ .start →
      Course (operation.program controller) transcript outcome →
        (∀ fault, outcome.1 = .error fault →
          Excused operation controller transcript fault ∧ ∀ path why, fault ≠ .state path why) ∧
        outcome.2.managing = (controller.managing && !transcript.misses) ∧
        (transcript.misses = true →
          outcome.1 = .ok () ∧ outcome.2.managing = false ∧ outcome.2.store = none ∧
          ∀ entries, Proceeds outcome.2 entries → (∀ entry ∈ entries, entry.operation ≠ .start) →
            ∀ entry ∈ entries, ∀ exchange ∈ entry.transcript,
              ∃ cid, exchange.effect = .call (.fetchBundle cid)) := by
  have coherent := reached.coherent
  refine ⟨coherent, fun operation transcript outcome tends course => ?_⟩
  have settled := settled_of_course tends course
  refine ⟨fun fault failed => ?_, settled.managing, fun missed => ?_⟩
  · have excused : Excused operation controller transcript fault := by
      cases operation with
      | start => exact absurd rfl tends
      | refresh => exact (refetching_of_course course).excused failed
      | enable collected => exact (enabling_of_course course).excused failed
    refine ⟨excused, ?_⟩
    rintro path why rfl
    cases excused
  · have ended : outcome.2.managing = false := by
      rw [settled.managing, missed, Bool.not_true, Bool.and_false]
    have kept := (coherent.of_course course).store
    rw [ended] at kept
    have gone : outcome.2.store = none :=
      Option.isNone_iff_eq_none.mp (Option.isSome_eq_false_iff.mp kept.symm)
    exact ⟨settled.succeeds missed, ended, gone,
      fun entries proceeds others => proceeds.fetches ended others⟩

/-- A directory stands where the state is drafted. The first enabling after the start succeeds all
the same and is the last to look at the metrics. -/
theorem failed_write_ends_managing_enabling :
    let world := World.quiet
      (Api.Memory.fresh.insertBundle
        { Bundle.blank with cid := "/check_bundle/1", status := Bundle.activeStatus })
      ⟨[(["metrics.json"], .file (StateFile.bytes (NameMap.ofList [("cpu", "active")]))),
        (["metrics.json.tmp"], .directory)], []⟩
    let config := { Config.standard with
      bundleId := some "1", enableNewMetrics := true, stateDir := some "." }
    let started := world.run Api.Memory.answer (unbound config).start
    let enabling := started.1.2.enableNewMetrics [("load", .text "0.1")]
    let enabled := started.2.run Api.Memory.answer enabling
    let entries := enabled.1.2.entriesIn Api.Memory.answer enabled.2
      [.refresh, .enable [("load", .text "0.1")], .refresh]
    started.1.2.managing = true ∧ (started.2.record Api.Memory.answer enabling).misses = true ∧
      enabled.1.1 = .ok () ∧ enabled.1.2.managing = false ∧ enabled.1.2.store = none ∧
      entries.map (fun entry => entry.transcript.length) = [1, 0, 1] ∧
      ∀ entry ∈ entries, ∀ exchange ∈ entry.transcript,
        ∃ cid, exchange.effect = .call (.fetchBundle cid) := by
  intro world config started enabling enabled entries
  have reached : Reached config started.1.2 :=
    @Reached.operates config _ .start _ _ .begins (world.course_run (unbound config).start)
  have missed : (started.2.record Api.Memory.answer enabling).misses = true := by decide +kernel
  obtain ⟨-, -, ends⟩ := (failed_write_ends_managing reached).2 (.enable [("load", .text "0.1")])
    _ _ Operation.noConfusion (started.2.course_run enabling)
  obtain ⟨succeeds, ended, gone, fetches⟩ := ends missed
  exact ⟨by decide +kernel, missed, succeeds, ended, gone, by decide +kernel,
    fetches entries (proceeds_entriesIn Api.Memory.answer enabled.2 enabled.1.2 _)
      (tends_entriesIn Api.Memory.answer enabled.2 enabled.1.2 (by simp))⟩

end Controller
end CheckBinding
