import CheckBinding.Proofs.SharedTargets

/-!
The copy of a bundle that a controller holds, and the bundle as it is stored.

Whatever an exchange with the service brings is stored after it, and only accepted creations and
updates put something else in place. A controller takes over the last bundle that it is brought, or
it keeps its copy and has nothing put in place. So its copy stays that of the bundle stored, however
its operations end.
-/

namespace CheckBinding

open Program

/-! ### Putting bundles in place -/

/-- The bundle that an exchange puts in place: a draft that is created, or a bundle as it is after
an update. -/
def Exchange.stored? : Exchange → Option Bundle
  | ⟨.call (.create _), .ok bundle⟩ => some bundle
  | ⟨.call (.update _), .ok bundle⟩ => some bundle
  | _ => none

def Transcript.Idle (transcript : Transcript) : Prop :=
  ∀ exchange ∈ transcript, exchange.stored? = none

def Transcript.CreatesActive (transcript : Transcript) : Prop :=
  ∀ draft made, transcript.Answered (.create draft) (.ok made) → draft.isActive = true →
    made.isActive = true

variable {transcript first second : Transcript}

theorem Exchange.stored?_of_spares {exchange : Exchange} (spares : exchange.effect.Spares) :
    exchange.stored? = none := by
  obtain ⟨effect, reply⟩ := exchange
  cases effect with
  | call call =>
      cases call with
      | create draft => exact spares.elim
      | update bundle => exact spares.elim
      | _ => rfl
  | _ => rfl

/-- An exchange that brings a bundle fetches it, finds it alone, creates it or updates it. -/
theorem Exchange.cases_of_bundle? {exchange : Exchange} {bundle : Bundle}
    (brought : exchange.bundle? = some bundle) :
    (∃ cid, exchange = ⟨.call (.fetchBundle cid), .ok bundle⟩) ∨
      (∃ criteria filter, exchange = ⟨.call (.search criteria filter), .ok [bundle]⟩) ∨
      (∃ draft, exchange = ⟨.call (.create draft), .ok bundle⟩) ∨
      ∃ submitted, exchange = ⟨.call (.update submitted), .ok bundle⟩ := by
  unfold Exchange.bundle? at brought
  split at brought
  · cases brought
    exact Or.inl ⟨_, rfl⟩
  · cases brought
    exact Or.inr (Or.inl ⟨_, _, rfl⟩)
  · cases brought
    exact Or.inr (Or.inr (Or.inl ⟨_, rfl⟩))
  · cases brought
    exact Or.inr (Or.inr (Or.inr ⟨_, rfl⟩))
  · cases brought

namespace Transcript

theorem idle_of_spares (spares : ∀ exchange ∈ transcript, exchange.effect.Spares) :
    transcript.Idle :=
  fun exchange member => Exchange.stored?_of_spares (spares exchange member)

theorem idle_of_stores (stores : ∀ exchange ∈ transcript, exchange.effect.Stores) :
    transcript.Idle :=
  idle_of_spares (fun exchange member => (stores exchange member).supplies.spares)

theorem idle_nil : Idle [] := by
  intro exchange member
  cases member

theorem idle_cons {exchange : Exchange} :
    Idle (exchange :: transcript) ↔ exchange.stored? = none ∧ transcript.Idle :=
  List.forall_mem_cons

theorem idle_append : Idle (first ++ second) ↔ first.Idle ∧ second.Idle :=
  List.forall_mem_append

end Transcript

/-! ### The service -/

namespace Api.Memory

variable {memory before after : Memory} {exchange : Exchange}

/-- The service as surroundings: it may become unavailable and available again before any call. All
else is replied to at will. -/
def wavering : Surroundings Memory :=
  fun before effect =>
    match effect with
    | .call call => fun reply after =>
        ∃ unavailable, { before with unavailable }.answer call = (reply, after)
    | _ => fun _ after => after = before

/-- A service that answers searches from its bundles, each of which it keeps under its own canonical
identifier. -/
structure Genuine (memory : Memory) : Prop extends memory.WellKept where
  unprepared : memory.searchOverride = none

theorem searchOverride_answer (memory : Memory) (call : Call) :
    (memory.answer call).2.searchOverride = memory.searchOverride := by
  rw [answer]
  split
  · rfl
  · cases call with
    | fetchBundle cid =>
        rw [carryOut]
        split <;> rfl
    | create draft =>
        rw [carryOut, create]
        split <;> rfl
    | update bundle =>
        rw [carryOut, update]
        split <;> rfl
    | _ => rfl

theorem Genuine.answer (genuine : memory.Genuine) (call : Call) :
    (memory.answer call).2.Genuine :=
  ⟨genuine.toWellKept.answer call, (searchOverride_answer memory call).trans genuine.unprepared⟩

theorem Genuine.wavered (genuine : memory.Genuine) (unavailable : Bool) :
    { memory with unavailable }.Genuine :=
  ⟨⟨genuine.own, genuine.canonical⟩, genuine.unprepared⟩

theorem Genuine.of_wavering (genuine : before.Genuine)
    (possible : wavering before exchange.effect exchange.reply after) : after.Genuine := by
  obtain ⟨effect, reply⟩ := exchange
  cases effect with
  | call call =>
      obtain ⟨unavailable, answered⟩ := possible
      have kept := (genuine.wavered unavailable).answer call
      rw [answered] at kept
      exact kept
  | _ =>
      obtain rfl : after = before := possible
      exact genuine

theorem Genuine.stored_of_found (genuine : memory.Genuine) {criteria : String} {bundle : Bundle}
    (found : bundle ∈ memory.found criteria) : memory.bundle? bundle.cid = some bundle := by
  rw [Memory.found, genuine.unprepared] at found
  obtain ⟨cid, stored⟩ := NameMap.mem_values_iff.mp (List.mem_of_mem_filter found)
  rw [genuine.own cid bundle stored]
  exact stored

theorem found_of_answer {criteria : String} {filter : Option SearchFilter} {found : List Bundle}
    (answered : (memory.answer (.search criteria filter)).1 = .ok found) :
    memory.found criteria = found := by
  rw [answer] at answered
  split at answered
  · cases answered
  · exact Except.ok.inj answered

theorem bundles_answer_of_spares {call : Call} (spares : (Effect.call call).Spares) :
    (memory.answer call).2.bundles = memory.bundles := by
  rw [answer_of_spares spares]
  rfl

theorem bundles_of_idle {call : Call}
    (idle : (⟨.call call, (memory.answer call).1⟩ : Exchange).stored? = none) :
    (memory.answer call).2.bundles = memory.bundles := by
  cases call with
  | create draft =>
      rw [answer] at idle ⊢
      split
      · rfl
      · next available =>
        rw [if_neg available, carryOut, create] at idle
        rw [carryOut, create]
        split
        · rfl
        · next complete =>
          rw [if_neg complete] at idle
          cases idle
  | update submitted =>
      rw [answer] at idle ⊢
      split
      · rfl
      · next available =>
        rw [if_neg available, carryOut, update] at idle
        rw [carryOut, update]
        split
        · next present =>
          rw [if_pos present] at idle
          cases idle
        · rfl
  | _ => exact bundles_answer_of_spares trivial

theorem bundle?_of_create {draft made : Bundle}
    (accepted : (memory.answer (.create draft)).1 = .ok made) :
    (∃ number, made = assigned number draft) ∧
      (memory.answer (.create draft)).2.bundle? made.cid = some made := by
  rw [answer] at accepted ⊢
  split at accepted
  · cases accepted
  · next available =>
    rw [if_neg available]
    rw [carryOut, create] at accepted ⊢
    split at accepted
    · cases accepted
    · next complete =>
      rw [if_neg complete]
      cases accepted
      exact ⟨⟨_, rfl⟩, (bundle?_insertBundle _ _ _).trans (if_pos rfl)⟩

/-- What an exchange brings is stored after it. -/
theorem Genuine.stored_of_brought (genuine : before.Genuine)
    (possible : wavering before exchange.effect exchange.reply after) {bundle : Bundle}
    (brought : exchange.bundle? = some bundle) : after.bundle? bundle.cid = some bundle := by
  rcases Exchange.cases_of_bundle? brought with
    ⟨cid, rfl⟩ | ⟨criteria, filter, rfl⟩ | ⟨draft, rfl⟩ | ⟨submitted, rfl⟩
  · obtain ⟨unavailable, answered⟩ := possible
    obtain ⟨accepted, rfl⟩ := Prod.ext_iff.mp answered
    have spares : (Effect.call (.fetchBundle cid)).Spares := trivial
    have stored := bundle?_of_answer accepted
    rw [genuine.own cid bundle stored, bundle?, bundles_answer_of_spares spares]
    exact stored
  · obtain ⟨unavailable, answered⟩ := possible
    obtain ⟨accepted, rfl⟩ := Prod.ext_iff.mp answered
    have spares : (Effect.call (.search criteria filter)).Spares := trivial
    have found := found_of_answer accepted
    rw [bundle?, bundles_answer_of_spares spares]
    exact (genuine.wavered unavailable).stored_of_found (found ▸ List.mem_singleton_self bundle)
  · obtain ⟨unavailable, answered⟩ := possible
    obtain ⟨accepted, rfl⟩ := Prod.ext_iff.mp answered
    exact (bundle?_of_create accepted).2
  · obtain ⟨unavailable, answered⟩ := possible
    obtain ⟨accepted, rfl⟩ := Prod.ext_iff.mp answered
    obtain rfl := eq_of_update accepted
    exact (bundle?_of_update accepted _).trans (if_pos rfl)

/-- An exchange that puts nothing in place leaves the bundles as they are. -/
theorem bundles_of_wavering (possible : wavering before exchange.effect exchange.reply after)
    (idle : exchange.stored? = none) : after.bundles = before.bundles := by
  obtain ⟨effect, reply⟩ := exchange
  cases effect with
  | call call =>
      obtain ⟨unavailable, answered⟩ := possible
      obtain ⟨rfl, rfl⟩ := Prod.ext_iff.mp answered
      exact bundles_of_idle idle
  | _ =>
      obtain rfl : after = before := possible
      rfl

/-! ### Transcripts with the service -/

theorem Genuine.of_replied (genuine : before.Genuine)
    (replied : Replied wavering before transcript after) : after.Genuine :=
  replied.keeps (fun _ _ _ _ kept possible => kept.of_wavering possible) genuine

theorem bundles_of_replied (replied : Replied wavering before transcript after)
    (idle : transcript.Idle) : after.bundles = before.bundles := by
  have step : ∀ exchange ∈ transcript, ∀ between later : Memory,
      between.bundles = before.bundles → wavering between exchange.effect exchange.reply later →
        later.bundles = before.bundles := by
    intro exchange member between later same possible
    exact (bundles_of_wavering possible (idle exchange member)).trans same
  exact replied.keeps step rfl

/-- The last bundle that a transcript brings is stored after it, if nothing is put in place
later. -/
theorem Genuine.stored_of_replied (genuine : before.Genuine)
    (replied : Replied wavering before (first ++ exchange :: second) after) {bundle : Bundle}
    (brought : exchange.bundle? = some bundle) (idle : second.Idle) :
    after.bundle? bundle.cid = some bundle := by
  obtain ⟨between, replied, next, possible, later⟩ := replied_append.mp replied
  have stored := (genuine.of_replied replied).stored_of_brought possible brought
  rw [bundle?, bundles_of_replied later idle]
  exact stored

theorem isActive_assigned {draft : Bundle} (active : draft.isActive = true) (number : UInt64) :
    (assigned number draft).isActive = true := by
  have given : draft.status = Bundle.activeStatus := of_decide_eq_true active
  have unchanged : (assigned number draft).status = draft.status := by
    rw [assigned, given]
    rfl
  rw [Bundle.isActive, unchanged]
  exact active

theorem createsActive_of_replied (replied : Replied wavering before transcript after) :
    transcript.CreatesActive := by
  intro draft made created active
  obtain ⟨first, second, rfl⟩ := List.append_of_mem created
  obtain ⟨between, -, next, ⟨unavailable, answered⟩, -⟩ := replied_append.mp replied
  obtain ⟨accepted, rfl⟩ := Prod.ext_iff.mp answered
  obtain ⟨⟨number, rfl⟩, -⟩ := bundle?_of_create accepted
  exact isActive_assigned active number

end Api.Memory

/-! ### What a resolution brings -/

namespace Resolution

variable {config : Config} {method : ResolutionMethod} {outcome : Except CheckFault Bundle}

theorem idle_of_choosing {brokers : List Broker} {choosing : Transcript}
    {chosen : Except CheckFault String}
    (course : Course (brokerFor config brokers) choosing chosen) : choosing.Idle :=
  Transcript.idle_of_spares (fun exchange member =>
    (((brokerFor_probes config brokers).course course).1 exchange member).spares)

theorem Path.idle (path : Path config transcript method outcome)
    (creates : transcript.CreatesActive) {fault : CheckFault} (failed : outcome = .error fault) :
    transcript.Idle := by
  cases path with
  | refused given invalid => exact Transcript.idle_nil
  | fetched given valid => exact Transcript.idle_of_spares (by simp [Effect.Spares])
  | untargeted free empty => exact Transcript.idle_nil
  | searched free targeted settled =>
      exact Transcript.idle_of_spares (by simp [Effect.Spares])
  | unlisted free targeted creates =>
      exact Transcript.idle_of_spares (by simp [Effect.Spares])
  | unchosen free targeted creates unchosen =>
      exact Transcript.idle_cons.mpr ⟨rfl, Transcript.idle_cons.mpr
        ⟨rfl, idle_of_choosing unchosen⟩⟩
  | @created brokers choosing broker answer free targeted creating chosen =>
      have refused : (⟨.call (.create (draft config broker)), answer⟩ : Exchange).stored? =
          none := by
        cases answer with
        | error refusal => rfl
        | ok made =>
            have answered : Exchange.mk (.call (.create (draft config broker))) (.ok made) ∈
                choosing ++ [⟨.call (.create (draft config broker)), .ok made⟩] :=
              List.mem_append_right choosing (List.mem_singleton_self _)
            have active : made.isActive = true := creates (draft config broker) made
              (List.mem_cons_of_mem _ (List.mem_cons_of_mem _ answered)) rfl
            rw [show ((Except.ok made : Except Api.Fault Bundle).mapError _).bind ensureActive =
              ensureActive made from rfl, ensureActive_eq_ok.mpr ⟨rfl, active⟩] at failed
            cases failed
      exact Transcript.idle_cons.mpr ⟨rfl, Transcript.idle_cons.mpr ⟨rfl,
        Transcript.idle_append.mpr ⟨idle_of_choosing chosen,
          Transcript.idle_cons.mpr ⟨refused, Transcript.idle_nil⟩⟩⟩⟩

/-- The bundle that a path comes to is what its last exchange brings. -/
theorem Path.brings {bundle : Bundle} (path : Path config transcript method outcome)
    (resolved : outcome = .ok bundle) :
    ∃ first exchange, transcript = first ++ [exchange] ∧ exchange.bundle? = some bundle := by
  cases path with
  | fetched given valid =>
      cases bundle_of_asked resolved
      exact ⟨[], _, rfl, rfl⟩
  | searched free targeted settled =>
      cases bundle_met_of_judged resolved
      exact ⟨[], _, rfl, rfl⟩
  | created free targeted creates chosen =>
      cases bundle_of_asked resolved
      exact ⟨_ :: _ :: _, _, rfl, rfl⟩
  | _ => cases resolved

end Resolution

/-! ### The copy held -/

namespace Controller

variable {controller : Controller} {outcome : Outcome Unit}

/-- Where the bundle comes from that is held after a transcript: it was held before and nothing was
put in place, or it is the last one that was brought, without its metrics. -/
inductive Holding (controller : Controller) (held : Option Bundle) : Transcript → Prop
  | kept {transcript : Transcript} (same : held = controller.bundle) (idle : transcript.Idle) :
      Holding controller held transcript
  | taken {first last : Transcript} {exchange : Exchange} {bundle : Bundle}
      (brought : exchange.bundle? = some bundle) (idle : last.Idle)
      (same : held = some bundle.withoutMetrics) :
      Holding controller held (first ++ exchange :: last)

theorem bundle_settleStore (store : MetricStore) (persisted : Bool) :
    (controller.settleStore store persisted).bundle = controller.bundle := by
  cases persisted <;> rfl

/-- What a resolution comes to is taken over, whatever is done to files afterwards. -/
theorem holding_of_resolved {first second : Transcript} {bundle : Bundle} {held : Option Bundle}
    (resolving : Course (Resolution.resolve controller.config) first (.ok bundle))
    (idle : second.Idle) (same : held = some bundle.withoutMetrics) :
    Holding controller held (first ++ second) := by
  obtain ⟨path, method, taken, rfl⟩ := Resolution.exists_path resolving
  obtain ⟨before, exchange, rfl, brought⟩ := taken.brings rfl
  rw [List.append_assoc, List.append_assoc, List.singleton_append]
  exact .taken brought (Transcript.idle_append.mpr
    ⟨Transcript.idle_cons.mpr ⟨rfl, Transcript.idle_nil⟩, idle⟩) same

theorem Starting.holding (starting : Starting controller transcript outcome)
    (creates : transcript.CreatesActive) : Holding controller outcome.2.bundle transcript := by
  cases starting with
  | unneeded unneeded => exact .kept rfl Transcript.idle_nil
  | unresolved resolving =>
      obtain ⟨path, method, taken, rfl⟩ := Resolution.exists_path resolving
      have createsHere : path.CreatesActive := fun draft made created =>
        creates draft made (List.mem_append_left _ created)
      exact .kept rfl (Transcript.idle_append.mpr
        ⟨taken.idle createsHere rfl, Transcript.idle_cons.mpr ⟨rfl, Transcript.idle_nil⟩⟩)
  | bound resolving unmanaged =>
      rw [← List.append_nil transcript]
      exact holding_of_resolved resolving Transcript.idle_nil rfl
  | prepared resolving managed preparing =>
      have stores := ((prepareStore_stores controller.config).course preparing).1
      exact holding_of_resolved resolving (Transcript.idle_of_stores stores) rfl

theorem Refetching.holding (refetching : Refetching controller transcript outcome) :
    Holding controller outcome.2.bundle transcript := by
  have idle := Transcript.idle_of_spares refetching.spares
  cases refetching with
  | @rebound held bundle bound active alone =>
      exact @Holding.taken _ _ [] [] _ bundle rfl Transcript.idle_nil rfl
  | @refreshed held bundle store fresh reading persisted bound active managing kept refreshing =>
      exact @Holding.taken _ _ [] reading _ bundle rfl (Transcript.idle_cons.mp idle).2 rfl
  | _ => exact .kept rfl idle

theorem Submitting.holding {store : MetricStore} {cid : String} {added : List MetricDefinition}
    (submitting : Submitting controller store cid added transcript outcome) (before : Transcript)
    (idle : before.Idle) : Holding controller outcome.2.bundle (before ++ transcript) := by
  cases submitting with
  | unfetched =>
      exact .kept rfl (Transcript.idle_append.mpr
        ⟨idle, Transcript.idle_cons.mpr ⟨rfl, Transcript.idle_nil⟩⟩)
  | refused =>
      exact .kept rfl (Transcript.idle_append.mpr ⟨idle, Transcript.idle_cons.mpr
        ⟨rfl, Transcript.idle_cons.mpr ⟨rfl, Transcript.idle_nil⟩⟩⟩)
  | @accepted fresh updated now writes persisted written =>
      have supplied := Transcript.idle_of_spares (fun exchange member =>
        (MetricStore.supplies_of_persist written exchange member).spares)
      have counted : Transcript.Idle [⟨.count .metricsEnabled added.length, ()⟩] :=
        Transcript.idle_cons.mpr ⟨rfl, Transcript.idle_nil⟩
      have later := Transcript.idle_append.mpr ⟨supplied, counted⟩
      rw [List.append_cons]
      refine Holding.taken rfl (Transcript.idle_cons.mpr ⟨rfl, later⟩) ?_
      rw [bundle_settleStore]
      rfl

theorem Enabling.holding {collected : Collected}
    (enabling : Enabling controller collected transcript outcome) :
    Holding controller outcome.2.bundle transcript := by
  have supplied : ∀ {reading : Transcript}, (∀ exchange ∈ reading, exchange.effect.Supplies) →
      reading.Idle := fun supplies =>
    Transcript.idle_of_spares (fun exchange member => (supplies exchange member).spares)
  cases enabling with
  | idle idle => exact .kept rfl Transcript.idle_nil
  | unseeded managing empty refreshing => exact .kept rfl (supplied refreshing.supplies)
  | seeded managing empty refreshing =>
      exact .kept (bundle_settleStore _ _) (supplied refreshing.supplies)
  | unread managing loaded due refreshing =>
      exact .kept rfl (Transcript.idle_cons.mpr ⟨rfl, supplied refreshing.supplies⟩)
  | unwritten managing loaded due refreshing =>
      exact .kept rfl (Transcript.idle_cons.mpr ⟨rfl, supplied refreshing.supplies⟩)
  | known managing loaded current nothing => exact .kept rfl (supplied current.supplies)
  | submitted managing loaded current new submitting =>
      exact submitting.holding _ (supplied current.supplies)

theorem holding_of_course {operation : Operation} (creates : transcript.CreatesActive)
    (course : Course (operation.program controller) transcript outcome) :
    Holding controller outcome.2.bundle transcript := by
  cases operation with
  | start => exact (starting_of_course course).holding creates
  | refresh => exact (refetching_of_course course).holding
  | enable collected => exact (enabling_of_course course).holding

/-! ### Runs -/

/-- The bundle held, if any, is the one that is stored under its identifier, without its metrics. -/
def Tracks (controller : Controller) (memory : Api.Memory) : Prop :=
  ∀ held, controller.bundle = some held →
    ∃ stored, memory.bundle? held.cid = some stored ∧ held = stored.withoutMetrics

variable {config : Config} {initial before after memory : Api.Memory}

theorem Tracks.of_course {operation : Operation} (tracks : controller.Tracks before)
    (genuine : before.Genuine)
    (course : Course (operation.program controller) transcript outcome)
    (replied : Replied Api.Memory.wavering before transcript after) :
    outcome.2.Tracks after := by
  intro held bound
  have creates := Api.Memory.createsActive_of_replied replied
  cases holding_of_course creates course with
  | kept same idle =>
      obtain ⟨stored, found, rest⟩ := tracks held (same.symm.trans bound)
      refine ⟨stored, ?_, rest⟩
      rw [Api.Memory.bundle?, Api.Memory.bundles_of_replied replied idle]
      exact found
  | @taken first last exchange bundle brought idle same =>
      cases bound.symm.trans same
      exact ⟨bundle, genuine.stored_of_replied replied brought idle, rfl⟩

/-- A controller and the service after any operations of the controller. Nobody else edits bundles;
the service may become unavailable and available again before any call and between the
operations. -/
inductive Served (config : Config) (initial : Api.Memory) : Controller → Api.Memory → Prop
  | begins : Served config initial (.unbound config) initial
  | wavers {controller : Controller} {memory : Api.Memory} (unavailable : Bool)
      (earlier : Served config initial controller memory) :
      Served config initial controller { memory with unavailable }
  | operates {controller : Controller} {before after : Api.Memory} {operation : Operation}
      {transcript : Transcript} {outcome : Outcome Unit}
      (earlier : Served config initial controller before)
      (course : Course (operation.program controller) transcript outcome)
      (replied : Replied Api.Memory.wavering before transcript after) :
      Served config initial outcome.2 after

theorem Served.genuine (served : Served config initial controller memory)
    (genuine : initial.Genuine) : memory.Genuine := by
  induction served with
  | begins => exact genuine
  | wavers unavailable earlier ih => exact ih.wavered unavailable
  | operates earlier course replied ih => exact ih.of_replied replied

/-- Whatever the operations of a controller come to, the bundle that it holds is the one that the
service stores under the same identifier, without its metrics. -/
theorem held_tracks_stored (genuine : initial.Genuine)
    (served : Served config initial controller memory) :
    ∀ held, controller.bundle = some held →
      ∃ stored, memory.bundle? held.cid = some stored ∧ held = stored.withoutMetrics := by
  change controller.Tracks memory
  induction served with
  | begins =>
      intro held bound
      cases bound
  | wavers unavailable earlier ih => exact ih
  | operates earlier course replied ih =>
      exact ih.of_course (earlier.genuine genuine) course replied

def faltering (unavailable : Nat → Bool) (memory : Api.Memory) (call : Api.Call) :
    call.Answer × Api.Memory :=
  { memory with unavailable := unavailable memory.calls }.answer call

theorem Served.run {world : World Api.Memory} {unavailable : Nat → Bool} {operation : Operation}
    {ran : Outcome Unit × World Api.Memory}
    (earlier : Served config initial controller world.service)
    (run : world.run (faltering unavailable) (operation.program controller) = ran) :
    Served config initial ran.1.2 ran.2.service := by
  rw [← run]
  refine .operates earlier (world.course_run _)
    (Program.replied_run World.service (fun state effect => ?_) _ world)
  cases effect with
  | call call => exact ⟨unavailable state.service.calls, rfl⟩
  | _ => rfl

/-- The service refuses the update of the first metric, and the next refresh as well. After the
second attempt the copy shows the update, but not the metric. -/
theorem held_tracks_stored_faltering :
    let near := BrokerNode.mk "" (some "near") 0 none ["json"] none "active"
    let memory := { Api.Memory.fresh with brokers := [⟨"/broker/1", "", "circonus", [near]⟩] }
    let world := { World.quiet memory Storage.FileSystem.empty with latency := fun _ => some ⟨5⟩ }
    let config := { Config.standard with
      target := "web1", create := true, enableNewMetrics := true, stateDir := some "." }
    let serve := faltering (fun calls => calls ∈ [5, 6])
    let started := world.run serve (Operation.start.program (unbound config))
    let seeded := started.2.run serve ((Operation.enable []).program started.1.2)
    let failed := seeded.2.run serve
      ((Operation.enable [("cpu", .text "1")]).program seeded.1.2)
    let missed := failed.2.run serve (Operation.refresh.program failed.1.2)
    let enabled := missed.2.run serve
      ((Operation.enable [("cpu", .text "1")]).program missed.1.2)
    memory.Genuine ∧
      [started.1.1, seeded.1.1, failed.1.1, missed.1.1, enabled.1.1].map Resolution.succeeded =
        [true, true, false, false, true] ∧
      ∃ held stored, enabled.1.2.bundle = some held ∧
        enabled.2.service.bundle? held.cid = some stored ∧ held = stored.withoutMetrics ∧
        stored.lastModified = some 1 ∧ stored.metrics.map MetricDefinition.name = ["cpu"] := by
  intro near memory world config serve started seeded failed missed enabled
  have genuine : memory.Genuine := ⟨⟨Api.Memory.wellKept_fresh.own,
    Api.Memory.wellKept_fresh.canonical⟩, rfl⟩
  have begun : Served config memory (unbound config) world.service := .begins
  have afterStart : Served config memory started.1.2 started.2.service := begun.run rfl
  have afterSeed : Served config memory seeded.1.2 seeded.2.service := afterStart.run rfl
  have afterFailure : Served config memory failed.1.2 failed.2.service := afterSeed.run rfl
  have afterMiss : Served config memory missed.1.2 missed.2.service := afterFailure.run rfl
  have afterAll : Served config memory enabled.1.2 enabled.2.service := afterMiss.run rfl
  obtain ⟨held, bound⟩ : ∃ held, enabled.1.2.bundle = some held :=
    Option.isSome_iff_exists.mp (by decide +kernel)
  obtain ⟨stored, found, same⟩ := held_tracks_stored genuine afterAll held bound
  have only : enabled.2.service.bundles.values.map (fun bundle =>
      (bundle.lastModified, bundle.metrics.map MetricDefinition.name)) = [(some 1, ["cpu"])] := by
    decide +kernel
  have listed := List.mem_map_of_mem
    (f := fun bundle => (bundle.lastModified, bundle.metrics.map MetricDefinition.name))
    (NameMap.mem_values_iff.mpr ⟨held.cid, found⟩)
  rw [only, List.mem_singleton] at listed
  obtain ⟨modified, names⟩ := Prod.mk.inj listed
  exact ⟨genuine, by decide +kernel, held, stored, bound, found, same, modified, names⟩

end Controller
end CheckBinding
