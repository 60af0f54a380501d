import CheckBinding.Proofs.Memories
import CheckBinding.Proofs.Operations
import CheckBinding.Proofs.Transcripts

/-!
Every way through the operations of a controller.

For each operation a relation lists its ways through, one constructor for each: what is asked, what
was replied, what the operation comes to, and the controller after it. Every course of the operation
is one of them. A property of the operations is then a matter of going through the list, and one of
the sessions, operations in a row, follows by induction on the session.
-/

namespace CheckBinding

open Program

variable {transcript : Transcript}

/-! ### Asking the service -/

namespace Resolution

theorem course_ask {activity : Activity} {call : Api.Call}
    {outcome : Except CheckFault call.Payload} :
    Course (ask activity call) transcript outcome ↔
      ∃ answer : call.Answer,
        transcript = [⟨.call call, answer⟩] ∧ outcome = answer.mapError (.api activity) := by
  rw [ask]
  constructor
  · intro course
    obtain ⟨answer, first, rest, rfl, asked, given⟩ := course_bind.mp course
    obtain rfl := Program.course_ask.mp asked
    obtain ⟨rfl, rfl⟩ := course_pure.mp given
    exact ⟨answer, rfl, rfl⟩
  · rintro ⟨answer, rfl, rfl⟩
    exact course_bind.mpr ⟨answer, [⟨.call call, answer⟩], [], rfl, Program.course_ask.mpr rfl,
      course_pure.mpr ⟨rfl, rfl⟩⟩

end Resolution

/-! ### Refreshing a store -/

namespace MetricStore

/-- A roster that could not be read leaves a store as it is; one that was read is merged into it,
and the store is written. -/
inductive Refreshing (store : MetricStore) (cid : String) :
    Transcript → MetricStore → Except CheckFault Bool → Prop
  | unread {answer : (Api.Call.get (Cid.rosterOf cid)).Answer} {activity : Activity}
      {source : Api.Fault}
      (failed : ∀ bytes, answer = .ok bytes →
        ∃ reason, Json.decodeBytes rosterOfJson bytes = .error reason) :
      Refreshing store cid [⟨.call (.get (Cid.rosterOf cid)), answer⟩] store
        (.error (.api activity source))
  | read {bytes : ByteArray} {metrics : List MetricDefinition} {now : Nat} {writes : Transcript}
      {persisted : Bool} (decoded : Json.decodeBytes rosterOfJson bytes = .ok metrics)
      (written : Course (store.merge metrics now).persist writes persisted) :
      Refreshing store cid
        (⟨.call (.get (Cid.rosterOf cid)), .ok bytes⟩ :: ⟨.clock, now⟩ :: writes)
        (store.merge metrics now) (.ok persisted)

theorem course_absorbKnown {store : MetricStore} {metrics : List MetricDefinition}
    {result : MetricStore × Bool} (course : Course (store.absorbKnown metrics) transcript result) :
    ∃ now writes, transcript = ⟨.clock, now⟩ :: writes ∧ result.1 = store.merge metrics now ∧
      Course (store.merge metrics now).persist writes result.2 := by
  rw [absorbKnown] at course
  obtain ⟨now, first, rest, rfl, clock, later⟩ := course_bind.mp course
  obtain rfl := course_ask.mp clock
  obtain ⟨persisted, writes, nothing, rfl, written, done⟩ := course_bind.mp later
  obtain ⟨rfl, rfl⟩ := course_pure.mp done
  exact ⟨now, writes, by simp, rfl, written⟩

theorem refreshing_of_course {store : MetricStore} {cid : String}
    {result : MetricStore × Except CheckFault Bool}
    (course : Course (store.refreshFromRemote cid none) transcript result) :
    Refreshing store cid transcript result.1 result.2 := by
  rw [refreshFromRemote] at course
  obtain ⟨outcome, asked, rest, rfl, fetching, later⟩ := course_bind.mp course
  rw [fetchRoster] at fetching
  obtain ⟨answered, first, second, rfl, asking, decoding⟩ := course_bind.mp fetching
  obtain ⟨answer, rfl, rfl⟩ := Resolution.course_ask.mp asking
  cases answer with
  | error refused =>
      obtain ⟨rfl, rfl⟩ := course_pure.mp decoding
      obtain ⟨rfl, rfl⟩ := course_pure.mp later
      exact .unread (fun bytes arrived => by cases arrived)
  | ok bytes =>
      obtain ⟨rfl, rfl⟩ := course_pure.mp decoding
      cases decoded : Json.decodeBytes rosterOfJson bytes with
      | error reason =>
          rw [decoded] at later
          obtain ⟨rfl, rfl⟩ := course_pure.mp later
          refine .unread (fun others arrived => ?_)
          cases arrived
          exact ⟨reason, decoded⟩
      | ok metrics =>
          rw [decoded] at later
          obtain ⟨stored, merging, nothing, rfl, absorbing, done⟩ := course_bind.mp later
          obtain ⟨rfl, rfl⟩ := course_pure.mp done
          obtain ⟨now, writes, rfl, merged, written⟩ := course_absorbKnown absorbing
          simp only [List.append_nil]
          rw [merged]
          exact .read decoded written

end MetricStore

namespace Controller

variable {controller : Controller}

/-! ### Starting -/

inductive Starting (controller : Controller) : Transcript → Outcome Unit → Prop
  | unneeded (unneeded : controller.config.isRequired = false) :
      Starting controller [] (.ok (), controller)
  | unresolved {transcript : Transcript} {fault : CheckFault}
      (resolving : Course (Resolution.resolve controller.config) transcript (.error fault)) :
      Starting controller transcript (.error fault, controller)
  | bound {transcript : Transcript} {bundle : Bundle}
      (resolving : Course (Resolution.resolve controller.config) transcript (.ok bundle))
      (unmanaged : controller.config.enableNewMetrics = false) :
      Starting controller transcript (.ok (), controller.bind bundle)
  | prepared {first second : Transcript} {bundle : Bundle} {store : Option MetricStore}
      (resolving : Course (Resolution.resolve controller.config) first (.ok bundle))
      (managed : controller.config.enableNewMetrics = true)
      (preparing : Course (prepareStore controller.config) second store) :
      Starting controller (first ++ second)
        (.ok (), { controller with store, managing := store.isSome }.bind bundle)

theorem starting_of_course {outcome : Outcome Unit}
    (course : Course controller.start transcript outcome) :
    Starting controller transcript outcome := by
  rw [start] at course
  cases required : controller.config.isRequired with
  | false =>
      rw [required] at course
      obtain ⟨rfl, rfl⟩ := course_pure.mp course
      exact .unneeded required
  | true =>
      rw [required] at course
      obtain ⟨resolved, first, rest, rfl, resolving, later⟩ := course_bind.mp course
      cases resolved with
      | error fault =>
          obtain ⟨rfl, rfl⟩ := course_pure.mp later
          rw [List.append_nil]
          exact .unresolved resolving
      | ok bundle =>
          cases managed : controller.config.enableNewMetrics with
          | false =>
              simp only [managed] at later
              obtain ⟨rfl, rfl⟩ := course_pure.mp later
              rw [List.append_nil]
              exact .bound resolving managed
          | true =>
              simp only [managed] at later
              obtain ⟨store, second, nothing, rfl, preparing, done⟩ := course_bind.mp later
              obtain ⟨rfl, rfl⟩ := course_pure.mp done
              rw [List.append_nil]
              exact .prepared resolving managed preparing

/-! ### Refreshing -/

inductive Refetching (controller : Controller) : Transcript → Outcome Unit → Prop
  | unbound (unbound : controller.bundle = none) :
      Refetching controller [] (.error .uninitialized, controller)
  | unfetched {held : Bundle} {fault : Api.Fault} (bound : controller.bundle = some held) :
      Refetching controller [⟨.call (.fetchBundle held.cid), .error fault⟩]
        (.error (.api (.refreshingBundle held.cid) fault), controller)
  | inactive {held bundle : Bundle} (bound : controller.bundle = some held)
      (inactive : bundle.isActive = false) :
      Refetching controller [⟨.call (.fetchBundle held.cid), .ok bundle⟩]
        (.error (.notActive bundle.cid bundle.checks bundle.status), controller)
  | unread {held bundle : Bundle} {store fresh : MetricStore} {transcript : Transcript}
      {fault : CheckFault} (bound : controller.bundle = some held)
      (active : bundle.isActive = true) (managing : controller.managing = true)
      (kept : controller.store = some store)
      (refreshing : store.Refreshing held.cid transcript fresh (.error fault)) :
      Refetching controller (⟨.call (.fetchBundle held.cid), .ok bundle⟩ :: transcript)
        (.error fault, controller)
  | rebound {held bundle : Bundle} (bound : controller.bundle = some held)
      (active : bundle.isActive = true)
      (alone : controller.managing = false ∨ controller.store = none) :
      Refetching controller [⟨.call (.fetchBundle held.cid), .ok bundle⟩]
        (.ok (), controller.bind bundle)
  | refreshed {held bundle : Bundle} {store fresh : MetricStore} {transcript : Transcript}
      {persisted : Bool} (bound : controller.bundle = some held)
      (active : bundle.isActive = true) (managing : controller.managing = true)
      (kept : controller.store = some store)
      (refreshing : store.Refreshing held.cid transcript fresh (.ok persisted)) :
      Refetching controller (⟨.call (.fetchBundle held.cid), .ok bundle⟩ :: transcript)
        (.ok (), (controller.settleStore fresh persisted).bind bundle)

theorem refetching_of_course {outcome : Outcome Unit}
    (course : Course controller.refresh transcript outcome) :
    Refetching controller transcript outcome := by
  rw [refresh] at course
  cases bound : controller.bundle with
  | none =>
      rw [bound] at course
      obtain ⟨rfl, rfl⟩ := course_pure.mp course
      exact .unbound bound
  | some held =>
      rw [bound] at course
      obtain ⟨fetched, first, rest, rfl, asking, later⟩ := course_bind.mp course
      obtain ⟨answer, rfl, rfl⟩ := Resolution.course_ask.mp asking
      cases answer with
      | error fault =>
          obtain ⟨rfl, rfl⟩ := course_pure.mp later
          exact .unfetched bound
      | ok bundle =>
          dsimp only [Except.mapError, Except.bind] at later
          cases active : bundle.isActive with
          | false =>
              rw [Resolution.ensureActive_of_inactive active] at later
              obtain ⟨rfl, rfl⟩ := course_pure.mp later
              exact .inactive bound active
          | true =>
              rw [Resolution.ensureActive_eq_ok.mpr ⟨rfl, active⟩] at later
              obtain ⟨settled, middle, last, rfl, refreshing, done⟩ := course_bind.mp later
              rw [refreshStore] at refreshing
              cases managing : controller.managing with
              | false =>
                  rw [managing] at refreshing
                  obtain ⟨rfl, rfl⟩ := course_pure.mp refreshing
                  obtain ⟨rfl, rfl⟩ := course_pure.mp done
                  exact .rebound bound active (Or.inl managing)
              | true =>
                  rw [managing] at refreshing
                  cases kept : controller.store with
                  | none =>
                      rw [kept] at refreshing
                      obtain ⟨rfl, rfl⟩ := course_pure.mp refreshing
                      obtain ⟨rfl, rfl⟩ := course_pure.mp done
                      exact .rebound bound active (Or.inr kept)
                  | some store =>
                      rw [kept] at refreshing
                      obtain ⟨result, reading, nothing, rfl, read, settling⟩ :=
                        course_bind.mp refreshing
                      have refreshed := MetricStore.refreshing_of_course read
                      obtain ⟨fresh, outcome⟩ := result
                      cases outcome with
                      | error fault =>
                          obtain ⟨rfl, rfl⟩ := course_pure.mp settling
                          obtain ⟨rfl, rfl⟩ := course_pure.mp done
                          simp only [List.append_nil]
                          exact .unread bound active managing kept refreshed
                      | ok persisted =>
                          obtain ⟨rfl, rfl⟩ := course_pure.mp settling
                          obtain ⟨rfl, rfl⟩ := course_pure.mp done
                          simp only [List.append_nil]
                          exact .refreshed bound active managing kept refreshed

/-! ### Enabling -/

/-- A controller that manages the metrics of a bundle in a store. -/
structure Managing (controller : Controller) (held : Bundle) (store : MetricStore) : Prop where
  managing : controller.managing = true
  bound : controller.bundle = some held
  kept : controller.store = some store

def pending (controller : Controller) (store : MetricStore) : Controller :=
  { controller with store := some store.markPending }

inductive Submitting (controller : Controller) (store : MetricStore) (cid : String)
    (added : List MetricDefinition) : Transcript → Outcome Unit → Prop
  | unfetched {fault : Api.Fault} :
      Submitting controller store cid added [⟨.call (.fetchBundle cid), .error fault⟩]
        (.error (.api (.fetchingBundle cid) fault), controller.pending store)
  | refused {fresh : Bundle} {fault : Api.Fault} :
      Submitting controller store cid added
        [⟨.call (.fetchBundle cid), .ok fresh⟩,
          ⟨.call (.update (fresh.extendedBy added)), .error fault⟩]
        (.error (.api (.updatingBundle cid) fault), controller.pending store)
  | accepted {fresh updated : Bundle} {now : Nat} {writes : Transcript} {persisted : Bool}
      (written : Course (store.markPending.merge updated.metrics now).persist writes persisted) :
      Submitting controller store cid added
        (⟨.call (.fetchBundle cid), .ok fresh⟩ ::
          ⟨.call (.update (fresh.extendedBy added)), .ok updated⟩ :: ⟨.clock, now⟩ ::
            (writes ++ [⟨.count .metricsEnabled added.length, ()⟩]))
        (.ok (), ((controller.pending store).bind updated).settleStore
          (store.markPending.merge updated.metrics now) persisted)

theorem submitting_of_course {store : MetricStore} {cid : String} {added : List MetricDefinition}
    {outcome : Outcome Unit}
    (course : Course (controller.submit store cid added) transcript outcome) :
    Submitting controller store cid added transcript outcome := by
  rw [submit] at course
  obtain ⟨fetched, first, rest, rfl, asking, later⟩ := course_bind.mp course
  obtain ⟨answer, rfl, rfl⟩ := Resolution.course_ask.mp asking
  cases answer with
  | error fault =>
      obtain ⟨rfl, rfl⟩ := course_pure.mp later
      exact .unfetched
  | ok fresh =>
      obtain ⟨answered, second, last, rfl, updating, settling⟩ := course_bind.mp later
      obtain ⟨answer, rfl, rfl⟩ := Resolution.course_ask.mp updating
      cases answer with
      | error fault =>
          obtain ⟨rfl, rfl⟩ := course_pure.mp settling
          exact .refused
      | ok updated =>
          obtain ⟨stored, merging, counting, rfl, absorbing, counted⟩ := course_bind.mp settling
          obtain ⟨now, writes, rfl, merged, written⟩ := MetricStore.course_absorbKnown absorbing
          obtain ⟨_, count, nothing, rfl, asked, done⟩ := course_bind.mp counted
          obtain rfl := course_ask.mp asked
          obtain ⟨rfl, rfl⟩ := course_pure.mp done
          simp only [List.append_nil]
          rw [merged]
          exact .accepted written

/-- A store is brought up to date as far as the clock says that this is due. -/
inductive Current (store : MetricStore) (cid : String) : Transcript → MetricStore → Prop
  | already {now : Nat} (fresh : store.needsRefreshAt now = false) :
      Current store cid [⟨.clock, now⟩] store
  | refreshed {now : Nat} {transcript : Transcript} {fresh : MetricStore}
      (due : store.needsRefreshAt now = true)
      (refreshing : store.Refreshing cid transcript fresh (.ok true)) :
      Current store cid (⟨.clock, now⟩ :: transcript) fresh

inductive Enabling (controller : Controller) (collected : Collected) :
    Transcript → Outcome Unit → Prop
  | idle (idle : ∀ held store, ¬ controller.Managing held store) :
      Enabling controller collected [] (.ok (), controller)
  | unseeded {held : Bundle} {store fresh : MetricStore} {transcript : Transcript}
      {fault : CheckFault} (managing : controller.Managing held store)
      (empty : store.isLoaded = false)
      (refreshing : store.Refreshing held.cid transcript fresh (.error fault)) :
      Enabling controller collected transcript (.error fault, controller)
  | seeded {held : Bundle} {store fresh : MetricStore} {transcript : Transcript}
      {persisted : Bool} (managing : controller.Managing held store)
      (empty : store.isLoaded = false)
      (refreshing : store.Refreshing held.cid transcript fresh (.ok persisted)) :
      Enabling controller collected transcript (.ok (), controller.settleStore fresh persisted)
  | unread {held : Bundle} {store fresh : MetricStore} {transcript : Transcript} {now : Nat}
      {fault : CheckFault} (managing : controller.Managing held store)
      (loaded : store.isLoaded = true) (due : store.needsRefreshAt now = true)
      (refreshing : store.Refreshing held.cid transcript fresh (.error fault)) :
      Enabling controller collected (⟨.clock, now⟩ :: transcript) (.error fault, controller)
  | unwritten {held : Bundle} {store fresh : MetricStore} {transcript : Transcript} {now : Nat}
      (managing : controller.Managing held store) (loaded : store.isLoaded = true)
      (due : store.needsRefreshAt now = true)
      (refreshing : store.Refreshing held.cid transcript fresh (.ok false)) :
      Enabling controller collected (⟨.clock, now⟩ :: transcript) (.ok (), controller.stopManaging)
  | known {held : Bundle} {store fresh : MetricStore} {transcript : Transcript}
      (managing : controller.Managing held store) (loaded : store.isLoaded = true)
      (current : Current store held.cid transcript fresh)
      (nothing : fresh.unknownMetrics collected controller.config.activeMetricStatus = []) :
      Enabling controller collected transcript (.ok (), { controller with store := some fresh })
  | submitted {held : Bundle} {store fresh : MetricStore} {first second : Transcript}
      {outcome : Outcome Unit} (managing : controller.Managing held store)
      (loaded : store.isLoaded = true) (current : Current store held.cid first fresh)
      (new : fresh.unknownMetrics collected controller.config.activeMetricStatus ≠ [])
      (submitting : Submitting controller fresh held.cid
        (fresh.unknownMetrics collected controller.config.activeMetricStatus) second outcome) :
      Enabling controller collected (first ++ second) outcome

theorem enabling_of_current {collected : Collected} {held : Bundle} {store fresh : MetricStore}
    {first second : Transcript} {outcome : Outcome Unit}
    (managing : controller.Managing held store) (loaded : store.isLoaded = true)
    (current : Current store held.cid first fresh)
    (course : Course (controller.submitUnknown fresh held.cid collected) second outcome) :
    Enabling controller collected (first ++ second) outcome := by
  rw [submitUnknown] at course
  by_cases nothing : fresh.unknownMetrics collected controller.config.activeMetricStatus = []
  · simp only [nothing] at course
    obtain ⟨rfl, rfl⟩ := course_pure.mp course
    rw [List.append_nil]
    exact .known managing loaded current nothing
  · have some : (fresh.unknownMetrics collected
        controller.config.activeMetricStatus).isEmpty = false :=
      List.isEmpty_eq_false_iff.mpr nothing
    simp only [some] at course
    exact .submitted managing loaded current nothing (submitting_of_course course)

theorem enabling_of_course {collected : Collected} {outcome : Outcome Unit}
    (course : Course (controller.enableNewMetrics collected) transcript outcome) :
    Enabling controller collected transcript outcome := by
  rw [enableNewMetrics] at course
  split at course
  · next held store managing bound kept =>
    have manages : controller.Managing held store := ⟨managing, bound, kept⟩
    cases loaded : store.isLoaded with
    | false =>
        simp only [loaded] at course
        obtain ⟨result, first, rest, rfl, read, settling⟩ := course_bind.mp course
        have refreshing := MetricStore.refreshing_of_course read
        obtain ⟨fresh, outcome⟩ := result
        cases outcome with
        | error fault =>
            obtain ⟨rfl, rfl⟩ := course_pure.mp settling
            rw [List.append_nil]
            exact .unseeded manages loaded refreshing
        | ok persisted =>
            obtain ⟨rfl, rfl⟩ := course_pure.mp settling
            rw [List.append_nil]
            exact .seeded manages loaded refreshing
    | true =>
        simp only [loaded] at course
        obtain ⟨now, clock, rest, rfl, asked, later⟩ := course_bind.mp course
        obtain rfl := course_ask.mp asked
        cases due : store.needsRefreshAt now with
        | false =>
            simp only [due] at later
            exact enabling_of_current manages loaded (.already due) later
        | true =>
            simp only [due] at later
            obtain ⟨result, first, last, rfl, read, submitting⟩ := course_bind.mp later
            have refreshing := MetricStore.refreshing_of_course read
            obtain ⟨fresh, outcome⟩ := result
            match outcome with
            | .error fault =>
                obtain ⟨rfl, rfl⟩ := course_pure.mp submitting
                rw [List.append_nil]
                exact .unread manages loaded due refreshing
            | .ok false =>
                obtain ⟨rfl, rfl⟩ := course_pure.mp submitting
                rw [List.append_nil]
                exact .unwritten manages loaded due refreshing
            | .ok true =>
                rw [← List.append_assoc]
                exact enabling_of_current manages loaded (.refreshed due refreshing) submitting
  · next other =>
    obtain ⟨rfl, rfl⟩ := course_pure.mp course
    exact .idle (fun held store manages =>
      other held store manages.managing manages.bound manages.kept)

/-! ### Operations -/

structure Entry where
  operation : Operation
  transcript : Transcript
  outcome : Outcome Unit

inductive Proceeds : Controller → List Entry → Prop
  | rests {controller : Controller} : Proceeds controller []
  | continues {controller : Controller} {entry : Entry} {entries : List Entry}
      (course : Course (entry.operation.program controller) entry.transcript entry.outcome)
      (later : Proceeds entry.outcome.2 entries) : Proceeds controller (entry :: entries)

/-- What a controller does in a world when it is to carry out operations. -/
def entriesIn {Service : Type} (serve : Service → (call : Api.Call) → call.Answer × Service)
    (world : World Service) (controller : Controller) : List Operation → List Entry
  | [] => []
  | operation :: operations =>
      let ran := world.run serve (operation.program controller)
      ⟨operation, world.record serve (operation.program controller), ran.1⟩ ::
        ran.1.2.entriesIn serve ran.2 operations

theorem proceeds_entriesIn {Service : Type}
    (serve : Service → (call : Api.Call) → call.Answer × Service) (world : World Service)
    (controller : Controller) (operations : List Operation) :
    Proceeds controller (controller.entriesIn serve world operations) := by
  induction operations generalizing world controller with
  | nil => exact .rests
  | cons operation operations ih => exact .continues (world.course_run _) (ih _ _)

theorem operations_entriesIn {Service : Type}
    (serve : Service → (call : Api.Call) → call.Answer × Service) (world : World Service)
    (controller : Controller) (operations : List Operation) :
    (controller.entriesIn serve world operations).map Entry.operation = operations := by
  induction operations generalizing world controller with
  | nil => rfl
  | cons operation operations ih => exact congrArg (operation :: ·) (ih _ _)

theorem tends_entriesIn {Service : Type}
    (serve : Service → (call : Api.Call) → call.Answer × Service) (world : World Service)
    (controller : Controller) {operations : List Operation} (tends : .start ∉ operations) :
    ∀ entry ∈ controller.entriesIn serve world operations, entry.operation ≠ .start := by
  intro entry member started
  have among := List.mem_map_of_mem (f := Entry.operation) member
  rw [operations_entriesIn, started] at among
  exact tends among

theorem config_settleStore (store : MetricStore) (persisted : Bool) :
    (controller.settleStore store persisted).config = controller.config := by
  cases persisted <;> rfl

/-- No operation changes the configuration of a controller. -/
theorem config_of_course {operation : Operation} {outcome : Outcome Unit}
    (course : Course (operation.program controller) transcript outcome) :
    outcome.2.config = controller.config := by
  cases operation with
  | start => cases starting_of_course course <;> rfl
  | refresh =>
      cases refetching_of_course course with
      | @refreshed _ bundle _ fresh _ persisted => exact config_settleStore fresh persisted
      | _ => rfl
  | enable collected =>
      cases enabling_of_course course with
      | @seeded _ _ fresh _ persisted => exact config_settleStore fresh persisted
      | submitted managing loaded current new submitting =>
          cases submitting with
          | accepted written => exact config_settleStore _ _
          | _ => rfl
      | _ => rfl

/-! ### Sessions -/

def session (controller : Controller) : List Operation → Program (List (Outcome Unit))
  | [] => return []
  | operation :: operations => do
      let outcome ← operation.program controller
      return outcome :: (← outcome.2.session operations)

theorem course_session_cons {operation : Operation} {operations : List Operation}
    {outcomes : List (Outcome Unit)}
    (course : Course (controller.session (operation :: operations)) transcript outcomes) :
    ∃ outcome others first rest, outcomes = outcome :: others ∧ transcript = first ++ rest ∧
      Course (operation.program controller) first outcome ∧
      Course (outcome.2.session operations) rest others := by
  rw [session] at course
  obtain ⟨outcome, first, last, rfl, here, later⟩ := course_bind.mp course
  obtain ⟨others, rest, nothing, rfl, there, done⟩ := course_bind.mp later
  obtain ⟨rfl, rfl⟩ := course_pure.mp done
  rw [List.append_nil]
  exact ⟨outcome, others, first, rest, rfl, rfl, here, there⟩

end Controller

/-! ### Supplying a store -/

/-- An effect of bringing a store up to date: reading the roster, looking at the clock and dealing
with files. -/
def Effect.Supplies : Effect → Prop
  | .call (.get _) => True
  | .storage _ => True
  | .clock => True
  | _ => False

theorem Effect.Stores.supplies {effect : Effect} (stores : effect.Stores) : effect.Supplies := by
  cases effect with
  | storage operation => trivial
  | _ => exact stores.elim

namespace MetricStore

theorem supplies_of_persist {store : MetricStore} {persisted : Bool}
    (written : Course store.persist transcript persisted) :
    ∀ exchange ∈ transcript, exchange.effect.Supplies :=
  fun exchange member =>
    (((persist_stores store).course written).1 exchange member).supplies

theorem Refreshing.supplies {store fresh : MetricStore} {cid : String}
    {outcome : Except CheckFault Bool}
    (refreshing : store.Refreshing cid transcript fresh outcome) :
    ∀ exchange ∈ transcript, exchange.effect.Supplies := by
  cases refreshing with
  | unread failed => simp [Effect.Supplies]
  | read decoded written => simpa [Effect.Supplies] using supplies_of_persist written

end MetricStore

theorem Controller.Current.supplies {store fresh : MetricStore} {cid : String}
    (current : Controller.Current store cid transcript fresh) :
    ∀ exchange ∈ transcript, exchange.effect.Supplies := by
  cases current with
  | already upToDate => simp [Effect.Supplies]
  | refreshed due refreshing => simpa [Effect.Supplies] using refreshing.supplies

/-- Supplying a store neither meets nor updates a bundle. -/
theorem Effect.Supplies.silent {exchange : Exchange} (supplies : exchange.effect.Supplies) :
    exchange.bundle? = none ∧ exchange.update? = none := by
  obtain ⟨effect, reply⟩ := exchange
  cases effect with
  | call call =>
      cases call with
      | get path => exact ⟨rfl, rfl⟩
      | _ => exact supplies.elim
  | storage operation => exact ⟨rfl, rfl⟩
  | clock => exact ⟨rfl, rfl⟩
  | _ => exact supplies.elim

namespace Transcript

theorem calls_of_stores (stores : ∀ exchange ∈ transcript, exchange.effect.Stores) :
    transcript.calls = [] := by
  refine List.filterMap_eq_nil_iff.mpr (fun exchange member => ?_)
  have stored := stores exchange member
  obtain ⟨effect, reply⟩ := exchange
  cases effect with
  | call call => exact stored.elim
  | _ => rfl

theorem bundles_of_supplies (supplies : ∀ exchange ∈ transcript, exchange.effect.Supplies) :
    transcript.bundles = [] :=
  List.filterMap_eq_nil_iff.mpr (fun exchange member => (supplies exchange member).silent.1)

theorem updates_of_supplies (supplies : ∀ exchange ∈ transcript, exchange.effect.Supplies) :
    transcript.updates = [] :=
  List.filterMap_eq_nil_iff.mpr (fun exchange member => (supplies exchange member).silent.2)

theorem not_mem_calls_of_supplies (supplies : ∀ exchange ∈ transcript, exchange.effect.Supplies)
    (bundle : Bundle) : .update bundle ∉ transcript.calls := by
  intro called
  obtain ⟨answer, member⟩ := mem_calls.mp called
  exact supplies _ member

end Transcript

/-! ### Tending to a bundle -/

/-- An effect of tending to a bundle that is bound: no search, no look at the brokers, no creation,
and no resolution. -/
def Effect.Tends : Effect → Prop
  | .call (.fetchBundle _) => True
  | .call (.get _) => True
  | .call (.update _) => True
  | .storage _ => True
  | .clock => True
  | .count .metricsEnabled _ => True
  | _ => False

theorem Effect.Supplies.tends {effect : Effect} (supplies : effect.Supplies) : effect.Tends := by
  cases effect with
  | call call =>
      cases call with
      | get path => trivial
      | _ => exact supplies.elim
  | storage operation => trivial
  | clock => trivial
  | _ => exact supplies.elim

def Effect.Spares : Effect → Prop
  | .call (.create _) => False
  | .call (.update _) => False
  | _ => True

theorem Effect.Supplies.spares {effect : Effect} (supplies : effect.Supplies) : effect.Spares := by
  cases effect with
  | call call =>
      cases call with
      | get path => trivial
      | _ => exact supplies.elim
  | _ => trivial

namespace Controller

variable {controller : Controller}

theorem Refetching.spares {outcome : Outcome Unit}
    (refetching : Refetching controller transcript outcome) :
    ∀ exchange ∈ transcript, exchange.effect.Spares := by
  cases refetching with
  | unread bound active managing kept refreshing =>
      have spares := fun exchange member => (refreshing.supplies exchange member).spares
      simpa [Effect.Spares] using spares
  | refreshed bound active managing kept refreshing =>
      have spares := fun exchange member => (refreshing.supplies exchange member).spares
      simpa [Effect.Spares] using spares
  | _ => simp [Effect.Spares]

theorem Refetching.tends {outcome : Outcome Unit}
    (refetching : Refetching controller transcript outcome) :
    ∀ exchange ∈ transcript, exchange.effect.Tends := by
  cases refetching with
  | unread bound active managing kept refreshing =>
      have tends := fun exchange member => (refreshing.supplies exchange member).tends
      simpa [Effect.Tends] using tends
  | refreshed bound active managing kept refreshing =>
      have tends := fun exchange member => (refreshing.supplies exchange member).tends
      simpa [Effect.Tends] using tends
  | _ => simp [Effect.Tends]

theorem Submitting.tends {store : MetricStore} {cid : String} {added : List MetricDefinition}
    {outcome : Outcome Unit}
    (submitting : Submitting controller store cid added transcript outcome) :
    ∀ exchange ∈ transcript, exchange.effect.Tends := by
  cases submitting with
  | accepted written =>
      have tends := fun exchange member =>
        (MetricStore.supplies_of_persist written exchange member).tends
      simpa [Effect.Tends, or_imp, forall_and] using tends
  | _ => simp [Effect.Tends]

theorem Enabling.tends {collected : Collected} {outcome : Outcome Unit}
    (enabling : Enabling controller collected transcript outcome) :
    ∀ exchange ∈ transcript, exchange.effect.Tends := by
  cases enabling with
  | idle idle => simp
  | unseeded managing empty refreshing =>
      exact fun exchange member => (refreshing.supplies exchange member).tends
  | seeded managing empty refreshing =>
      exact fun exchange member => (refreshing.supplies exchange member).tends
  | unread managing loaded due refreshing =>
      have tends := fun exchange member => (refreshing.supplies exchange member).tends
      simpa [Effect.Tends] using tends
  | unwritten managing loaded due refreshing =>
      have tends := fun exchange member => (refreshing.supplies exchange member).tends
      simpa [Effect.Tends] using tends
  | known managing loaded current nothing =>
      exact fun exchange member => (current.supplies exchange member).tends
  | submitted managing loaded current new submitting =>
      intro exchange member
      rcases List.mem_append.mp member with before | after
      · exact (current.supplies exchange before).tends
      · exact submitting.tends exchange after

/-- Without a start, a session only tends to what is bound. -/
theorem session_tends {operations : List Operation} {outcomes : List (Outcome Unit)}
    (started : .start ∉ operations)
    (course : Course (controller.session operations) transcript outcomes) :
    ∀ exchange ∈ transcript, exchange.effect.Tends := by
  induction operations generalizing controller transcript outcomes with
  | nil =>
      obtain ⟨rfl, -⟩ := course_pure.mp course
      simp
  | cons operation operations ih =>
      obtain ⟨outcome, others, first, rest, -, rfl, here, later⟩ := course_session_cons course
      have tends : ∀ exchange ∈ first, exchange.effect.Tends := by
        cases operation with
        | start => exact absurd List.mem_cons_self started
        | refresh => exact (refetching_of_course here).tends
        | enable collected => exact (enabling_of_course here).tends
      have tendsLater := ih (fun member => started (List.mem_cons_of_mem _ member)) later
      intro exchange member
      rcases List.mem_append.mp member with now | after
      · exact tends exchange now
      · exact tendsLater exchange after

end Controller
end CheckBinding
