import CheckBinding.Proofs.Bindings
import CheckBinding.Proofs.FailedOperations
import CheckBinding.Proofs.Hosting
import CheckBinding.Proofs.Validation

/-!
A controller does not tell a hosted service from a memory.

A client makes the same answer of a hosted call as the memory gives, as long as the call is a proper
one. What a controller calls is proper if the bundles that it was answered with are portable: it
submits them back, and it asks for their identifiers. So along a transcript each exchange vouches
for the calls behind it, and the replies of one service are those of the other.
-/

namespace CheckBinding

open Program

section

variable [Pattern.Engine]

/-! ### Proper calls along a transcript -/

def Exchange.Proper (exchange : Exchange) : Prop :=
  ∀ call, exchange.call? = some call → call.Proper

def Exchange.Trusted (exchange : Exchange) : Prop :=
  ∀ bundle, exchange.bundle? = some bundle → bundle.Portable

namespace Transcript

variable {first second transcript : Transcript}

def Trusted (transcript : Transcript) : Prop :=
  ∀ bundle ∈ transcript.bundles, bundle.Portable

/-- Every exchange makes a proper call, provided that those before it can be trusted. -/
def Guarded : Transcript → Prop
  | [] => True
  | exchange :: rest => exchange.Proper ∧ (exchange.Trusted → Guarded rest)

theorem trusted_append : Trusted (first ++ second) ↔ first.Trusted ∧ second.Trusted := by
  unfold Trusted
  rw [bundles_append]
  exact List.forall_mem_append

theorem trusted_cons {exchange : Exchange} :
    Trusted (exchange :: transcript) ↔ exchange.Trusted ∧ transcript.Trusted := by
  unfold Trusted Exchange.Trusted bundles
  rw [List.filterMap_cons]
  cases exchange.bundle? <;> simp

theorem guarded_append :
    Guarded (first ++ second) ↔ first.Guarded ∧ (first.Trusted → second.Guarded) := by
  induction first with
  | nil =>
      have trusted : Trusted [] := fun bundle none => by cases none
      exact ⟨fun guarded => ⟨trivial, fun _ => guarded⟩, fun guarded => guarded.2 trusted⟩
  | cons exchange first ih =>
      rw [List.cons_append, Guarded, ih, Guarded, trusted_cons, imp_and, and_imp, and_assoc]

theorem guarded_of_proper (proper : ∀ call ∈ transcript.calls, call.Proper) :
    transcript.Guarded := by
  induction transcript with
  | nil => trivial
  | cons exchange rest ih =>
      constructor
      · intro call called
        exact proper call (List.mem_filterMap.mpr ⟨exchange, List.mem_cons_self, called⟩)
      · intro _
        refine ih (fun call called => ?_)
        obtain ⟨other, member, asked⟩ := List.mem_filterMap.mp called
        exact proper call (List.mem_filterMap.mpr ⟨other, List.mem_cons_of_mem _ member, asked⟩)

end Transcript

/-! ### What a controller calls -/

def Config.Filtered (config : Config) : Prop :=
  ∀ filter ∈ config.metricFilters.getD Filter.defaults, filter.Accepted

theorem Resolution.draft_transferable {config : Config} (filtered : config.Filtered)
    (broker : String) : (draft config broker).Transferable := by
  have timeout : (draft config broker).timeout = newTimeout := by rw [draft]
  have finite : newTimeout.isFinite = true := by decide +kernel
  rw [← timeout] at finite
  exact ⟨filtered, finite⟩

theorem Resolution.Sequence.proper {config : Config} {calls : List Api.Call}
    (sequence : Sequence config calls) (filtered : config.Filtered) :
    ∀ call ∈ calls, call.Proper := by
  intro call called
  cases sequence with
  | refused given number canonical => cases called
  | untargeted free empty => cases called
  | fetch given valid =>
      rw [List.mem_singleton.mp called]
      exact Cid.isCanonical_of_normalize valid
  | search free targeted =>
      rw [List.mem_singleton.mp called]
      trivial
  | list free targeted creates =>
      simp only [List.mem_cons, List.not_mem_nil, or_false] at called
      rcases called with rfl | rfl <;> trivial
  | create free targeted creates =>
      simp only [List.mem_cons, List.not_mem_nil, or_false] at called
      rcases called with rfl | rfl | rfl
      · trivial
      · trivial
      · exact ⟨draft_transferable filtered _, targeted, List.cons_ne_nil _ _⟩

theorem Bundle.Portable.extendedBy {bundle : Bundle} (portable : bundle.Portable)
    (added : List MetricDefinition) : (bundle.extendedBy added).Portable :=
  ⟨portable.canonical, portable.transferable.filters, portable.transferable.finite⟩

namespace Controller

variable {controller : Controller} {transcript : Transcript}

/-- A controller that can ask for what it is bound to, and whose drafts can be sent. -/
structure Sound (controller : Controller) : Prop where
  filtered : controller.config.Filtered
  bound : ∀ held, controller.bundle = some held →
    Cid.isCanonical .checkBundle held.cid = true

theorem sound_unbound {config : Config} (filtered : config.Filtered) : (unbound config).Sound :=
  ⟨filtered, fun held none => by cases none⟩

theorem Sound.bind (sound : controller.Sound) {bundle : Bundle} (portable : bundle.Portable) :
    (controller.bind bundle).Sound := by
  refine ⟨sound.filtered, ?_⟩
  intro held bound
  cases bound
  exact portable.canonical

theorem Sound.settleStore (sound : controller.Sound) (store : MetricStore) (persisted : Bool) :
    (controller.settleStore store persisted).Sound := by
  cases persisted <;> exact ⟨sound.filtered, sound.bound⟩

theorem get_rosterOf_proper {cid : String} (canonical : Cid.isCanonical .checkBundle cid = true) :
    (Api.Call.get (Cid.rosterOf cid)).Proper :=
  Cid.after?_rosterOf canonical

theorem guarded_of_refreshing {store fresh : MetricStore} {cid : String}
    {outcome : Except CheckFault Bool} (canonical : Cid.isCanonical .checkBundle cid = true)
    (refreshing : store.Refreshing cid transcript fresh outcome) : transcript.Guarded := by
  refine Transcript.guarded_of_proper (fun call called => ?_)
  rw [calls_of_refreshing refreshing] at called
  rw [List.mem_singleton.mp called]
  exact get_rosterOf_proper canonical

theorem guarded_of_current {store fresh : MetricStore} {cid : String}
    (canonical : Cid.isCanonical .checkBundle cid = true)
    (current : Current store cid transcript fresh) : transcript.Guarded := by
  refine Transcript.guarded_of_proper (fun call called => ?_)
  rw [calls_of_current current called]
  exact get_rosterOf_proper canonical

theorem Starting.guarded {outcome : Outcome Unit}
    (starting : Starting controller transcript outcome) (sound : controller.Sound) :
    transcript.Guarded := by
  refine Transcript.guarded_of_proper (fun call called => ?_)
  rcases starting.calls with silent | sequence
  · rw [silent] at called
    cases called
  · exact sequence.proper sound.filtered call called

theorem Starting.sound {outcome : Outcome Unit}
    (starting : Starting controller transcript outcome) (sound : controller.Sound)
    (trusted : transcript.Trusted) : outcome.2.Sound := by
  have resolved : ∀ {part : Transcript} {bundle : Bundle},
      Course (Resolution.resolve controller.config) part (.ok bundle) → part.Trusted →
        bundle.Portable := by
    intro part bundle resolving vouched
    obtain ⟨path, method, taken, rfl⟩ := Resolution.exists_path resolving
    exact (Transcript.trusted_append.mp vouched).1 bundle taken.meets
  cases starting with
  | unneeded unneeded => exact sound
  | unresolved resolving => exact sound
  | bound resolving unmanaged => exact sound.bind (resolved resolving trusted)
  | @prepared first second bundle store resolving managed preparing =>
      have portable := resolved resolving (Transcript.trusted_append.mp trusted).1
      have prepared : Sound { controller with store, managing := store.isSome } :=
        ⟨sound.filtered, sound.bound⟩
      exact prepared.bind portable

theorem Refetching.guarded {outcome : Outcome Unit}
    (refetching : Refetching controller transcript outcome) (sound : controller.Sound) :
    transcript.Guarded := by
  -- What comes after the fetch reads the roster at most.
  have fetches : ∀ {held : Bundle} {answer : (Api.Call.fetchBundle held.cid).Answer}
      {rest : Transcript}, controller.bundle = some held → rest.Guarded →
      Transcript.Guarded (⟨.call (.fetchBundle held.cid), answer⟩ :: rest) := by
    intro held answer rest bound guarded
    refine ⟨fun call called => ?_, fun _ => guarded⟩
    cases called
    exact sound.bound held bound
  cases refetching with
  | unbound unbound => trivial
  | unfetched bound => exact fetches bound trivial
  | inactive bound turned => exact fetches bound trivial
  | rebound bound active alone => exact fetches bound trivial
  | unread bound active managing kept refreshing =>
      exact fetches bound (guarded_of_refreshing (sound.bound _ bound) refreshing)
  | refreshed bound active managing kept refreshing =>
      exact fetches bound (guarded_of_refreshing (sound.bound _ bound) refreshing)

theorem Refetching.sound {outcome : Outcome Unit}
    (refetching : Refetching controller transcript outcome) (sound : controller.Sound)
    (trusted : transcript.Trusted) : outcome.2.Sound := by
  cases refetching with
  | @rebound held bundle bound active alone =>
      exact sound.bind (trusted bundle List.mem_cons_self)
  | @refreshed held bundle store fresh rest persisted bound active managing kept refreshing =>
      exact (sound.settleStore fresh persisted).bind (trusted bundle List.mem_cons_self)
  | _ => exact sound

theorem Submitting.guarded {store : MetricStore} {cid : String} {added : List MetricDefinition}
    {outcome : Outcome Unit} (canonical : Cid.isCanonical .checkBundle cid = true)
    (submitting : Submitting controller store cid added transcript outcome) :
    transcript.Guarded := by
  -- The copy that was fetched is sent back with metrics added to it.
  have fetches : ∀ {answer : (Api.Call.fetchBundle cid).Answer} {rest : Transcript},
      ((⟨.call (.fetchBundle cid), answer⟩ : Exchange).Trusted → rest.Guarded) →
      Transcript.Guarded (⟨.call (.fetchBundle cid), answer⟩ :: rest) := by
    intro answer rest guarded
    refine ⟨fun call called => ?_, guarded⟩
    cases called
    exact canonical
  have updates : ∀ {fresh : Bundle} {answer : (Api.Call.update (fresh.extendedBy added)).Answer}
      {rest : Transcript}, fresh.Portable → rest.Guarded →
      Transcript.Guarded (⟨.call (.update (fresh.extendedBy added)), answer⟩ :: rest) := by
    intro fresh answer rest portable guarded
    refine ⟨fun call called => ?_, fun _ => guarded⟩
    cases called
    exact portable.extendedBy added
  cases submitting with
  | unfetched => exact fetches (fun _ => trivial)
  | @refused fresh fault => exact fetches (fun trusted => updates (trusted fresh rfl) trivial)
  | @accepted fresh updated now writes persisted written =>
      have stores := ((MetricStore.persist_stores _).course written).1
      have uncalled : Transcript.calls (⟨.clock, now⟩ ::
          (writes ++ [⟨.count .metricsEnabled added.length, ()⟩])) = [] := by
        change Transcript.calls (writes ++ [⟨.count .metricsEnabled added.length, ()⟩]) = []
        rw [Transcript.calls_append, Transcript.calls_of_stores stores]
        rfl
      refine fetches (fun trusted => updates (trusted fresh rfl) ?_)
      refine Transcript.guarded_of_proper (fun call called => ?_)
      rw [uncalled] at called
      cases called

theorem Submitting.sound {store : MetricStore} {cid : String} {added : List MetricDefinition}
    {outcome : Outcome Unit} (sound : controller.Sound)
    (submitting : Submitting controller store cid added transcript outcome)
    (trusted : transcript.Trusted) : outcome.2.Sound := by
  have pending : (controller.pending store).Sound := ⟨sound.filtered, sound.bound⟩
  cases submitting with
  | @accepted fresh updated now writes persisted written =>
      have portable : updated.Portable :=
        trusted updated (List.mem_cons_of_mem _ List.mem_cons_self)
      exact (pending.bind portable).settleStore _ persisted
  | _ => exact pending

theorem Enabling.guarded {collected : Collected} {outcome : Outcome Unit}
    (enabling : Enabling controller collected transcript outcome) (sound : controller.Sound) :
    transcript.Guarded := by
  have clocked : ∀ {now : Nat} {rest : Transcript}, rest.Guarded →
      Transcript.Guarded (⟨.clock, now⟩ :: rest) :=
    fun guarded => ⟨fun call called => (by cases called), fun _ => guarded⟩
  cases enabling with
  | idle idle => trivial
  | unseeded managing empty refreshing =>
      exact guarded_of_refreshing (sound.bound _ managing.bound) refreshing
  | seeded managing empty refreshing =>
      exact guarded_of_refreshing (sound.bound _ managing.bound) refreshing
  | unread managing loaded due refreshing =>
      exact clocked (guarded_of_refreshing (sound.bound _ managing.bound) refreshing)
  | unwritten managing loaded due refreshing =>
      exact clocked (guarded_of_refreshing (sound.bound _ managing.bound) refreshing)
  | known managing loaded current nothing =>
      exact guarded_of_current (sound.bound _ managing.bound) current
  | submitted managing loaded current new submitting =>
      have canonical := sound.bound _ managing.bound
      exact Transcript.guarded_append.mpr
        ⟨guarded_of_current canonical current, fun _ => submitting.guarded canonical⟩

theorem Enabling.sound {collected : Collected} {outcome : Outcome Unit}
    (enabling : Enabling controller collected transcript outcome) (sound : controller.Sound)
    (trusted : transcript.Trusted) : outcome.2.Sound := by
  cases enabling with
  | @seeded held store fresh rest persisted managing empty refreshing =>
      exact sound.settleStore fresh persisted
  | submitted managing loaded current new submitting =>
      exact submitting.sound sound (Transcript.trusted_append.mp trusted).2
  | _ => exact ⟨sound.filtered, sound.bound⟩

/-- A sound controller makes proper calls while it can trust the answers, and stays sound. -/
theorem Sound.operation (sound : controller.Sound) {operation : Operation}
    {outcome : Outcome Unit}
    (course : Course (operation.program controller) transcript outcome) :
    transcript.Guarded ∧ (transcript.Trusted → outcome.2.Sound) := by
  cases operation with
  | start =>
      have starting := starting_of_course course
      exact ⟨starting.guarded sound, starting.sound sound⟩
  | refresh =>
      have refetching := refetching_of_course course
      exact ⟨refetching.guarded sound, refetching.sound sound⟩
  | enable collected =>
      have enabling := enabling_of_course course
      exact ⟨enabling.guarded sound, enabling.sound sound⟩

theorem Sound.session (sound : controller.Sound) {operations : List Operation}
    {outcomes : List (Outcome Unit)}
    (course : Course (controller.session operations) transcript outcomes) :
    transcript.Guarded := by
  induction operations generalizing controller transcript outcomes with
  | nil =>
      obtain ⟨rfl, -⟩ := course_pure.mp course
      trivial
  | cons operation operations ih =>
      obtain ⟨outcome, others, first, rest, -, rfl, here, later⟩ := course_session_cons course
      obtain ⟨guarded, soundLater⟩ := sound.operation here
      exact Transcript.guarded_append.mpr
        ⟨guarded, fun trusted => ih (soundLater trusted) later⟩

end Controller

end

/-! ### One service in place of the other -/

/-- Surroundings in which a service answers the calls, and others everything else. -/
def beside {Service Rest : Type} (serve : Service → (call : Api.Call) → call.Answer × Service)
    (others : Surroundings Rest) : Surroundings (Service × Rest)
  | before, .call call, reply, after =>
      serve before.1 call = (reply, after.1) ∧ after.2 = before.2
  | before, effect, reply, after => after.1 = before.1 ∧ others before.2 effect reply after.2

namespace Api

section

variable [Pattern.Engine] {Rest : Type} {others : Surroundings Rest} {memory : Memory}
  {rest : Rest}

theorem trusted_of_replies {call : Call} {answer : call.Answer} (replies : Replies call answer) :
    (⟨.call call, answer⟩ : Exchange).Trusted := by
  intro bundle brought
  cases replies with
  | @found payload bears =>
      cases call with
      | search criteria filter =>
          match payload, bears, brought with
          | [only], bears, rfl => exact bears only List.mem_cons_self
      | fetchBrokers => cases brought
      | get path => cases brought
      | _ =>
          cases brought
          exact bears
  | missing => cases call <;> cases brought
  | unavailable => cases call <;> cases brought

/-- A memory of portable bundles stays one, and its answers can be trusted. -/
theorem trusted_of_beside (portable : memory.Portable) {exchange : Exchange}
    (proper : exchange.Proper) {after : Memory × Rest}
    (possible : beside Memory.answer others (memory, rest) exchange.effect exchange.reply after) :
    exchange.Trusted ∧ after.1.Portable := by
  obtain ⟨effect, reply⟩ := exchange
  cases effect with
  | call call =>
      obtain ⟨answered, -⟩ := possible
      obtain ⟨replies, kept⟩ := portable.answer (proper call rfl).admissible
      rw [answered] at replies kept
      exact ⟨trusted_of_replies replies, kept⟩
  | _ =>
      refine ⟨fun bundle none => (by cases none), ?_⟩
      rw [possible.1]
      exact portable

theorem beside_iff {client : Http.Client} {transport : Http.Transport Memory}
    (provides : Http.Provides client.baseUrl transport) (portable : memory.Portable)
    {exchange : Exchange} (proper : exchange.Proper) {after : Memory × Rest} :
    beside (client.answer transport) others (memory, rest) exchange.effect exchange.reply after ↔
      beside Memory.answer others (memory, rest) exchange.effect exchange.reply after := by
  obtain ⟨effect, reply⟩ := exchange
  cases effect with
  | call call =>
      have asked := proper call rfl
      have same := Http.answer_eq_of_hosts portable asked.admissible
        (provides memory portable call asked)
      change (client.answer transport memory call = (reply, after.1) ∧ after.2 = rest) ↔
        (memory.answer call = (reply, after.1) ∧ after.2 = rest)
      rw [same]
  | _ => exact Iff.rfl

/-- The replies along a guarded transcript are those of either service. -/
theorem replied_iff {client : Http.Client} {transport : Http.Transport Memory}
    (provides : Http.Provides client.baseUrl transport) {transcript : Transcript}
    (guarded : transcript.Guarded) (portable : memory.Portable) {final : Memory × Rest} :
    Replied (beside (client.answer transport) others) (memory, rest) transcript final ↔
      Replied (beside Memory.answer others) (memory, rest) transcript final := by
  induction transcript generalizing memory rest with
  | nil => exact Iff.rfl
  | cons exchange transcript ih =>
      obtain ⟨proper, guardedLater⟩ := guarded
      refine exists_congr (fun between => ?_)
      rw [beside_iff provides portable proper]
      refine and_congr_right (fun possible => ?_)
      obtain ⟨trusted, kept⟩ := trusted_of_beside portable proper possible
      exact ih (guardedLater trusted) kept

end

/-- A client of a hosted memory answers as the memory itself does, and no session of a controller
tells one from the other: the same outcomes with the same controllers, the same memory and the same
files can come of it. -/
theorem providers_agree [Pattern.Engine] :
    (∀ (client : Http.Client) (transport : Http.Transport Memory) (memory : Memory) (call : Call),
      memory.Portable → call.Admissible → Http.Hosts client.baseUrl transport memory call →
        client.answer transport memory call = memory.answer call) ∧
    ∀ (client : Http.Client) (transport : Http.Transport Memory),
      Http.Provides client.baseUrl transport →
      ∀ (config : Config) (operations : List Controller.Operation), config.Filtered →
      ∀ {Rest : Type} (others : Surroundings Rest) (memory : Memory) (rest : Rest)
        (outcomes : List (Controller.Outcome Unit)) (final : Memory × Rest), memory.Portable →
        (Yields (beside (client.answer transport) others)
            ((Controller.unbound config).session operations) (memory, rest) outcomes final ↔
          Yields (beside Memory.answer others)
            ((Controller.unbound config).session operations) (memory, rest) outcomes final) := by
  constructor
  · intro client transport memory call portable admissible hosts
    exact Http.answer_eq_of_hosts portable admissible hosts
  · intro client transport provides config operations filtered Rest others memory rest outcomes
      final portable
    rw [yields_iff_course, yields_iff_course]
    refine exists_congr (fun transcript => and_congr_right (fun course => ?_))
    have guarded := (Controller.sound_unbound filtered).session course
    exact replied_iff provides guarded portable

/-- What a world does with its service and its files. -/
theorem yields_world {Service Result : Type}
    (serve : Service → (call : Call) → call.Answer × Service) (world : World Service)
    (program : Program Result) :
    Yields (beside serve (Persistence.undisturbed .sound)) program (world.service, world.files)
      (world.run serve program).1
      ((world.run serve program).2.service, (world.run serve program).2.files) := by
  have allowed : ∀ (before : World Service) (effect : Effect),
      beside serve (Persistence.undisturbed .sound) (before.service, before.files) effect
        (before.answer serve effect).1
        ((before.answer serve effect).2.service, (before.answer serve effect).2.files) := by
    intro before effect
    have undisturbed := @Persistence.undisturbed_world .sound _ serve before effect
    cases effect with
    | call call => exact ⟨rfl, rfl⟩
    | _ => exact ⟨rfl, undisturbed⟩
  exact yields_run (fun before => (before.service, before.files)) allowed program world

/-- A bundle is created through a server and one metric of it is enabled. -/
theorem providers_agree_serving :
    let client : Http.Client := ⟨"http://localhost", "token", "agent", Duration.ofSeconds 10⟩
    let world := World.quiet
      { Memory.fresh with brokers := [⟨"/broker/1", "local", "enterprise", []⟩] }
      ⟨[(["metrics.json"], .file (StateFile.bytes (NameMap.ofList [("cpu", "active")])))], []⟩
    let config := { Config.standard with
      target := "web1", create := true, broker := .id "/broker/1", enableNewMetrics := true,
      stateDir := some "." }
    let session := (Controller.unbound config).session
      [.start, .enable [("load", .text "0.1")], .refresh]
    ((world.run Memory.answer session).1.map Prod.fst = [.ok (), .ok (), .ok ()] ∧
        (world.run Memory.answer session).2.service.updated.map Bundle.cid =
          ["/check_bundle/1000"]) ∧
      client.answer (Http.serving client.baseUrl) world.service .fetchBrokers =
        world.service.answer .fetchBrokers ∧
      Yields
        (beside (client.answer (Http.serving client.baseUrl)) (Persistence.undisturbed .sound))
        session (world.service, world.files) (world.run Memory.answer session).1
        ((world.run Memory.answer session).2.service,
          (world.run Memory.answer session).2.files) := by
  intro client world config session
  have fresh := Memory.portable_fresh
  have portable : world.service.Portable :=
    ⟨⟨fresh.wellKept.own, fresh.wellKept.canonical⟩, fresh.stored, fresh.forced⟩
  have accepted : ∀ filter ∈ Filter.defaults, filter.Accepted := by decide +kernel
  have filtered : config.Filtered := accepted
  have provides := Http.provides_serving client.baseUrl
  obtain ⟨calls, sessions⟩ := providers_agree
  refine ⟨by decide +kernel, ?_, ?_⟩
  · exact calls client _ world.service .fetchBrokers portable trivial
      (provides world.service portable .fetchBrokers trivial)
  · exact (sessions client _ provides config _ filtered _ _ _ _ _ portable).mpr
      (yields_world Memory.answer world session)

end Api
end CheckBinding
