import CheckBinding.Proofs.Resolution
import CheckBinding.Proofs.Searches

/-!
Several agents that seek the bundle of one target.

The agents start one after the other, each at its own time, and refresh and enable metrics in
between. All that matters of the service is which bundles the search of the agents finds. Tending to
a bundle leaves that as it is. A start that succeeds leaves exactly one bundle to be found, so the
next one finds it.
-/

namespace CheckBinding

open Program

variable {transcript : Transcript}

/-! ### Creations -/

def Exchange.creation? : Exchange → Option Bundle
  | ⟨.call (.create _), .ok bundle⟩ => some bundle
  | _ => none

def Transcript.creations (transcript : Transcript) : List Bundle :=
  transcript.filterMap Exchange.creation?

theorem Transcript.creations_append (first second : Transcript) :
    creations (first ++ second) = creations first ++ creations second :=
  List.filterMap_append

theorem Effect.Probes.spares {effect : Effect} (probes : effect.Probes) : effect.Spares := by
  cases effect with
  | call call => exact probes.elim
  | _ => trivial

namespace Transcript

theorem creations_of_uncalled (uncalled : ∀ draft, .create draft ∉ transcript.calls) :
    transcript.creations = [] := by
  refine List.filterMap_eq_nil_iff.mpr (fun exchange member => ?_)
  obtain ⟨effect, reply⟩ := exchange
  cases effect with
  | call call =>
      cases call with
      | create draft => exact absurd (mem_calls.mpr ⟨reply, member⟩) (uncalled draft)
      | _ => rfl
  | _ => rfl

theorem creations_of_tends (tends : ∀ exchange ∈ transcript, exchange.effect.Tends) :
    transcript.creations = [] := by
  refine creations_of_uncalled (fun draft called => ?_)
  obtain ⟨answer, member⟩ := mem_calls.mp called
  exact tends _ member

theorem creations_of_spares (spares : ∀ exchange ∈ transcript, exchange.effect.Spares) :
    transcript.creations = [] := by
  refine creations_of_uncalled (fun draft called => ?_)
  obtain ⟨answer, member⟩ := mem_calls.mp called
  exact spares _ member

end Transcript

namespace Api.Memory

variable {memory before after : Memory} {criteria : String}

/-! ### What a search finds -/

def foundCids (memory : Memory) (criteria : String) : List String :=
  (memory.found criteria).map Bundle.cid

theorem InService.mem_foundCids (inService : memory.InService) {cid : String} :
    cid ∈ memory.foundCids criteria ↔
      ∃ bundle, memory.bundle? cid = some bundle ∧ matchesCriteria criteria bundle = true := by
  rw [foundCids, List.mem_map]
  constructor
  · rintro ⟨bundle, found, rfl⟩
    exact ⟨bundle, inService.mem_found.mp found⟩
  · rintro ⟨bundle, stored, meets⟩
    obtain rfl := inService.own cid bundle stored
    exact ⟨bundle, inService.mem_found.mpr ⟨stored, meets⟩, rfl⟩

/-- What is found is a matter of which identifiers are found. -/
theorem InService.foundCids_eq (inService : memory.InService) {cids : List String}
    (sorted : cids.Pairwise (fun left right => left < right))
    (same : ∀ cid, cid ∈ memory.foundCids criteria ↔ cid ∈ cids) :
    memory.foundCids criteria = cids := by
  have ordered : (memory.foundCids criteria).Pairwise (fun left right => left < right) :=
    List.pairwise_map.mpr (inService.found_sorted criteria)
  have distinct : ∀ {listed : List String},
      listed.Pairwise (fun left right => left < right) → listed.Nodup := by
    intro listed pairwise
    refine pairwise.imp (fun less same => ?_)
    rw [same] at less
    exact String.lt_irrefl _ less
  refine List.Perm.eq_of_pairwise ?_ ordered sorted
    ((List.perm_ext_iff_of_nodup (distinct ordered) (distinct sorted)).mpr same)
  intro left right _ _ less greater
  exact absurd greater (String.lt_asymm less)

theorem InService.mem_foundCids_insertBundle (inService : memory.InService) {bundle : Bundle}
    {cid : String} :
    cid ∈ (memory.insertBundle bundle).foundCids criteria ↔
      if cid = bundle.cid then matchesCriteria criteria bundle = true
      else cid ∈ memory.foundCids criteria := by
  rw [(inService.insertBundle bundle).mem_foundCids, bundle?_insertBundle]
  by_cases same : cid = bundle.cid
  · simp [same]
  · simp [same, inService.mem_foundCids]

/-! ### Services that serve alike -/

structure Alike (criteria : String) (before after : Memory) : Prop where
  inService : after.InService
  cids : after.foundCids criteria = before.foundCids criteria

theorem Alike.refl (inService : memory.InService) : Alike criteria memory memory :=
  ⟨inService, rfl⟩

theorem Alike.trans {between : Memory} (first : Alike criteria before between)
    (second : Alike criteria between after) : Alike criteria before after :=
  ⟨second.inService, second.cids.trans first.cids⟩

theorem InService.counted (inService : memory.InService) : memory.counted.InService :=
  ⟨inService.available, inService.unprepared, inService.own⟩

theorem InService.mergeRoster (inService : memory.InService) (cid : String)
    (metrics : List MetricDefinition) : (memory.mergeRoster cid metrics).InService :=
  ⟨inService.available, inService.unprepared, inService.own⟩

theorem answer_of_spares {call : Call} (spares : (Effect.call call).Spares) :
    (memory.answer call).2 = memory.counted := by
  rw [answer]
  split
  · rfl
  · cases call with
    | create draft => exact spares.elim
    | update bundle => exact spares.elim
    | fetchBundle cid =>
        rw [carryOut]
        split <;> rfl
    | _ => rfl

theorem matchesCriteria_revised (fresh : Bundle) (added : List MetricDefinition) :
    matchesCriteria criteria (revised (fresh.extendedBy added)) =
      matchesCriteria criteria fresh :=
  rfl

/-- An update that extends the bundle stored lets a search find what it found. -/
theorem InService.alike_update (inService : memory.InService) {fresh : Bundle}
    (stored : memory.bundle? fresh.cid = some fresh) (added : List MetricDefinition) :
    Alike criteria memory (memory.answer (.update (fresh.extendedBy added))).2 := by
  have present : memory.bundles.contains (fresh.extendedBy added).cid = true :=
    NameMap.contains_iff.mpr ⟨fresh, stored⟩
  let logged : Memory := { memory.counted with
    updated := memory.counted.updated ++ [fresh.extendedBy added] }
  have counted : logged.InService := ⟨inService.available, inService.unprepared, inService.own⟩
  have merged := counted.mergeRoster fresh.cid (fresh.extendedBy added).metrics
  have result : (memory.answer (.update (fresh.extendedBy added))).2 =
      (logged.mergeRoster fresh.cid (fresh.extendedBy added).metrics).insertBundle
        (revised (fresh.extendedBy added)) := by
    rw [answer_update inService.available present]
    rfl
  rw [result]
  have kept := merged.insertBundle (revised (fresh.extendedBy added))
  -- The bundle takes the place of the one it extends, and neither its status nor its type nor its
  -- target is another one.
  refine ⟨kept, kept.foundCids_eq ?_ (fun cid => ?_)⟩
  · exact List.pairwise_map.mpr (inService.found_sorted criteria)
  · have own : (revised (fresh.extendedBy added)).cid = fresh.cid := rfl
    rw [merged.mem_foundCids_insertBundle, own]
    by_cases same : cid = fresh.cid
    · rw [if_pos same, matchesCriteria_revised, inService.mem_foundCids, same, stored]
      simp
    · rw [if_neg same, merged.mem_foundCids, inService.mem_foundCids]
      rfl

/-- A draft that is created is all that a search for it finds, if nothing was found before. -/
theorem InService.foundCids_create (inService : memory.InService) {draft : Bundle}
    (targeted : draft.target ≠ "") (brokered : draft.brokers ≠ [])
    (meets : ∀ number, matchesCriteria criteria (assigned number draft) = true)
    (nothing : memory.foundCids criteria = []) :
    ∃ made, (memory.answer (.create draft)).1 = .ok made ∧
      matchesCriteria criteria made = true ∧ (memory.answer (.create draft)).2.InService ∧
      (memory.answer (.create draft)).2.foundCids criteria = [made.cid] := by
  let made := assigned memory.nextId draft
  let numbered : Memory := { memory.counted with
    nextId := memory.nextId + 1, created := memory.created ++ [draft] }
  have counted : numbered.InService := ⟨inService.available, inService.unprepared, inService.own⟩
  have merged := counted.mergeRoster made.cid made.metrics
  have result : memory.answer (.create draft) =
      (.ok made, (numbered.mergeRoster made.cid made.metrics).insertBundle made) := by
    rw [answer, inService.available]
    change create memory.counted draft = _
    rw [create, if_neg (by simp [targeted, brokered])]
    rfl
  have kept := merged.insertBundle made
  rw [result]
  refine ⟨made, rfl, meets memory.nextId, kept,
    kept.foundCids_eq (List.pairwise_singleton _ _) (fun cid => ?_)⟩
  rw [merged.mem_foundCids_insertBundle, List.mem_singleton]
  -- If the number was taken already, the bundle that it belonged to is gone; it was not found
  -- anyway.
  by_cases same : cid = made.cid
  · rw [if_pos same]
    exact iff_of_true (meets memory.nextId) same
  · rw [if_neg same]
    have elsewhere : cid ∉ memory.foundCids criteria := by
      rw [nothing]
      exact List.not_mem_nil
    rw [inService.mem_foundCids] at elsewhere
    rw [merged.mem_foundCids]
    exact iff_of_false elsewhere same

/-! ### Surroundings -/

def serving : Surroundings Memory :=
  fun before effect =>
    match effect with
    | .call call => fun reply after => before.answer call = (reply, after)
    | _ => fun _ after => after = before

theorem alike_of_spares (inService : before.InService)
    (replied : Replied serving before transcript after)
    (spares : ∀ exchange ∈ transcript, exchange.effect.Spares) : Alike criteria before after := by
  refine replied.keeps (fun exchange member between later alike possible => ?_)
    (Alike.refl inService)
  have spared := spares exchange member
  obtain ⟨effect, reply⟩ := exchange
  cases effect with
  | call call =>
      have served : (between.answer call).2 = later := congrArg Prod.snd possible
      rw [← served, answer_of_spares spared]
      exact ⟨alike.inService.counted, alike.cids⟩
  | _ =>
      obtain rfl : later = between := possible
      exact alike

end Api.Memory

open Api.Memory (Alike serving)

variable {before between after : Api.Memory} {criteria : String}

/-! ### Looking for one bundle -/

inductive Settling (criteria : String) (before : Api.Memory) (transcript : Transcript)
    (after : Api.Memory) : Except CheckFault String → Prop
  | undecided {fault : CheckFault} (unclear : ∀ cid, before.foundCids criteria ≠ [cid])
      (nothing : transcript.creations = []) (alike : Alike criteria before after) :
      Settling criteria before transcript after (.error fault)
  | found {cid : String} (found : before.foundCids criteria = [cid])
      (only : transcript.calls = [.search criteria none])
      (nothing : transcript.creations = []) (alike : Alike criteria before after) :
      Settling criteria before transcript after (.ok cid)
  | created {cid : String} (missing : before.foundCids criteria = [])
      (one : transcript.creations.length = 1) (inService : after.InService)
      (found : after.foundCids criteria = [cid]) :
      Settling criteria before transcript after (.ok cid)

theorem Settling.append {first second : Transcript} {result : Except CheckFault String}
    (settling : Settling criteria before first between result)
    (uncalled : second.calls = []) (uncreated : second.creations = [])
    (alike : between.InService → Alike criteria between after) :
    Settling criteria before (first ++ second) after result := by
  have creations : Transcript.creations (first ++ second) = first.creations := by
    rw [Transcript.creations_append, uncreated, List.append_nil]
  cases settling with
  | undecided unclear nothing same =>
      exact .undecided unclear (creations.trans nothing) (same.trans (alike same.inService))
  | found found only nothing same =>
      refine .found found ?_ (creations.trans nothing) (same.trans (alike same.inService))
      rw [Transcript.calls_append, uncalled, List.append_nil]
      exact only
  | created missing one inService found =>
      have same := alike inService
      exact .created missing (by rw [creations, one]) same.inService (same.cids.trans found)

namespace Resolution

variable {config : Config}

abbrev query (config : Config) : String :=
  Resolution.criteria config.checkType config.target

/-- A configuration whose search is understood, and which may create what it does not find. -/
structure Seeks (config : Config) : Prop where
  free : config.bundleId = none
  creates : config.create = true
  targeted : config.target ≠ ""
  plainType : Plain config.checkType
  plainTarget : Plain config.target

theorem Seeks.matches_draft (seeks : Seeks config) (broker : String) (number : UInt64) :
    Api.Memory.matchesCriteria (query config)
      (Api.Memory.assigned number (draft config broker)) = true :=
  (Api.Memory.matchesCriteria_criteria seeks.plainType seeks.plainTarget).mpr ⟨rfl, rfl, rfl⟩

theorem Seeks.ensureActive (seeks : Seeks config) {bundle : Bundle}
    (meets : Api.Memory.matchesCriteria (query config) bundle = true) :
    ensureActive bundle = .ok bundle :=
  have active := (Api.Memory.matchesCriteria_criteria seeks.plainType seeks.plainTarget).mp meets
  ensureActive_eq_ok.mpr ⟨rfl, active.1⟩

theorem found_of_replied (inService : before.InService) {answer : (searchCall config).Answer}
    (replied : Replied serving before (⟨.call (searchCall config), answer⟩ :: transcript) after) :
    answer = .ok (before.found (query config)) := by
  obtain ⟨between, served, -⟩ := replied
  have answered := inService.answer_search (query config) none
  exact (congrArg Prod.fst served).symm.trans (congrArg Prod.fst answered)

theorem nothing_of_replied (inService : before.InService)
    (replied : Replied serving before (⟨.call (searchCall config), .ok []⟩ :: transcript) after) :
    before.foundCids (query config) = [] := by
  have nothing : [] = before.found (query config) :=
    Except.ok.inj (found_of_replied inService replied)
  rw [Api.Memory.foundCids, ← nothing]
  rfl

theorem choosing_spares {brokers : List Broker} {choosing : Transcript}
    {chosen : Except CheckFault String}
    (course : Course (brokerFor config brokers) choosing chosen) :
    ∀ exchange ∈ choosing, exchange.effect.Spares :=
  fun exchange member =>
    (((brokerFor_probes config brokers).course course).1 exchange member).spares

theorem Seeks.settling_searched (seeks : Seeks config) (inService : before.InService)
    {answer : (searchCall config).Answer} (settled : answer ≠ .ok [])
    (replied : Replied serving before [⟨.call (searchCall config), answer⟩] after) :
    Settling (query config) before [⟨.call (searchCall config), answer⟩] after
      ((judged config answer).map Bundle.cid) := by
  have alike : Alike (query config) before after :=
    Api.Memory.alike_of_spares inService replied (by simp [Effect.Spares])
  obtain rfl := found_of_replied inService replied
  rcases found : before.found (query config) with _ | ⟨bundle, _ | ⟨second, others⟩⟩
  · exact absurd (congrArg Except.ok found) settled
  · have member : bundle ∈ before.found (query config) := by
      rw [found]
      exact List.mem_singleton_self bundle
    have judgement : judged config (.ok [bundle]) = .ok bundle :=
      seeks.ensureActive (inService.mem_found.mp member).2
    rw [judgement]
    refine .found ?_ rfl rfl alike
    rw [Api.Memory.foundCids, found]
    rfl
  · refine .undecided (fun cid => ?_) rfl alike
    rw [Api.Memory.foundCids, found]
    simp

theorem Seeks.settling_created (seeks : Seeks config) (inService : before.InService)
    (nothing : before.foundCids (query config) = []) {broker : String}
    {answer : (Api.Call.create (draft config broker)).Answer}
    (spares : ∀ exchange ∈ transcript, exchange.effect.Spares)
    (replied : Replied serving before
      (transcript ++ [⟨.call (.create (draft config broker)), answer⟩]) after) :
    Settling (query config) before
      (transcript ++ [⟨.call (.create (draft config broker)), answer⟩]) after
      (((answer.mapError (.api (.creatingBundle config.target))).bind
        Resolution.ensureActive).map Bundle.cid) := by
  obtain ⟨between, prior, _, creating, rfl⟩ := replied_append.mp replied
  have alike : Alike (query config) before between :=
    Api.Memory.alike_of_spares inService prior spares
  obtain ⟨made, accepted, meets, kept, found⟩ := alike.inService.foundCids_create
    (by exact seeks.targeted) (by exact List.cons_ne_nil broker []) (seeks.matches_draft broker)
    (alike.cids.trans nothing)
  have served : between.answer (.create (draft config broker)) = (answer, after) := creating
  rw [served] at accepted kept found
  cases accepted
  have outcome : ((Except.ok made : (Api.Call.create (draft config broker)).Answer).mapError
      (CheckFault.api (.creatingBundle config.target))).bind Resolution.ensureActive =
        .ok made := seeks.ensureActive meets
  rw [outcome]
  refine .created nothing ?_ kept found
  rw [Transcript.creations_append, Transcript.creations_of_spares spares]
  rfl

theorem Path.settling (seeks : Seeks config) {method : ResolutionMethod}
    {outcome : Except CheckFault Bundle} (path : Path config transcript method outcome)
    (inService : before.InService) (replied : Replied serving before transcript after) :
    Settling (query config) before transcript after (outcome.map Bundle.cid) := by
  -- A resolution that stops behind its search finds nothing and leaves the service as it is.
  have undecided : ∀ {rest : Transcript} {fault : CheckFault},
      Replied serving before (⟨.call (searchCall config), .ok []⟩ :: rest) after →
      (∀ exchange ∈ rest, exchange.effect.Spares) →
      Settling (query config) before (⟨.call (searchCall config), .ok []⟩ :: rest) after
        (.error fault) := by
    intro rest fault replied spares
    have allSpare : ∀ exchange ∈ (⟨.call (searchCall config), .ok []⟩ :: rest : Transcript),
        exchange.effect.Spares := by simpa [Effect.Spares] using spares
    refine .undecided (fun cid => ?_) (Transcript.creations_of_spares allSpare)
      (Api.Memory.alike_of_spares inService replied allSpare)
    rw [nothing_of_replied inService replied]
    exact (List.cons_ne_nil cid []).symm
  cases path with
  | refused given invalid => cases seeks.free.symm.trans given
  | fetched given valid => cases seeks.free.symm.trans given
  | untargeted free empty => exact absurd empty seeks.targeted
  | searched free targeted settled =>
      refine seeks.settling_searched inService (fun nothing => ?_) replied
      cases seeks.creates.symm.trans (settled nothing)
  | unlisted free targeted creates =>
      exact undecided replied (by simp [Effect.Spares])
  | unchosen free targeted creates unchosen =>
      have spares := choosing_spares unchosen
      exact undecided replied (by simpa [Effect.Spares] using spares)
  | @created brokers choosing broker answer free targeted creates chosen =>
      have choosingSpares := choosing_spares chosen
      have spares : ∀ exchange ∈ (⟨.call (searchCall config), .ok []⟩ ::
          ⟨.call .fetchBrokers, .ok brokers⟩ :: choosing : Transcript), exchange.effect.Spares := by
        simpa [Effect.Spares] using choosingSpares
      exact seeks.settling_created inService (nothing_of_replied inService replied) spares replied

theorem Seeks.settling (seeks : Seeks config) {outcome : Except CheckFault Bundle}
    (course : Course (resolve config) transcript outcome) (inService : before.InService)
    (replied : Replied serving before transcript after) :
    Settling (query config) before transcript after (outcome.map Bundle.cid) := by
  obtain ⟨part, method, path, rfl⟩ := exists_path course
  obtain ⟨between, resolving, counting⟩ := replied_append.mp replied
  refine (path.settling seeks inService resolving).append rfl rfl (fun kept => ?_)
  exact Api.Memory.alike_of_spares kept counting (by simp [Effect.Spares])

end Resolution

namespace Controller

open Resolution

variable {controller : Controller}

/-! ### Operations -/

theorem Starting.settling {outcome : Outcome Unit}
    (starting : Starting controller transcript outcome) (seeks : Seeks controller.config)
    (inService : before.InService) (replied : Replied serving before transcript after) :
    ∃ result, Settling (query controller.config) before transcript after result ∧
      outcome.1 = result.map (fun _ => ()) ∧ ∀ cid, result = .ok cid → outcome.2.cid = .ok cid := by
  cases starting with
  | unneeded unneeded =>
      rw [Config.isRequired, seeks.creates] at unneeded
      simp at unneeded
  | unresolved resolving =>
      exact ⟨_, seeks.settling resolving inService replied, rfl, fun cid given => by cases given⟩
  | bound resolving unmanaged =>
      refine ⟨_, seeks.settling resolving inService replied, rfl, fun cid given => ?_⟩
      cases given
      rfl
  | prepared resolving managed preparing =>
      obtain ⟨between, resolved, storing⟩ := replied_append.mp replied
      have stores := ((prepareStore_stores controller.config).course preparing).1
      have spares := fun exchange member => (stores exchange member).supplies.spares
      refine ⟨_, (seeks.settling resolving inService resolved).append
        (Transcript.calls_of_stores stores) (Transcript.creations_of_spares spares)
        (fun kept => Api.Memory.alike_of_spares kept storing spares), rfl, fun cid given => ?_⟩
      cases given
      rfl

theorem Submitting.alike {store : MetricStore} {cid : String} {added : List MetricDefinition}
    {outcome : Outcome Unit}
    (submitting : Submitting controller store cid added transcript outcome)
    (inService : before.InService) (replied : Replied serving before transcript after) :
    Alike criteria before after := by
  have sent : ∀ {fresh : Bundle} {answer : (Api.Call.update (fresh.extendedBy added)).Answer}
      {rest : Transcript},
      Replied serving before (⟨.call (.fetchBundle cid), .ok fresh⟩ ::
        ⟨.call (.update (fresh.extendedBy added)), answer⟩ :: rest) after →
      (∀ exchange ∈ rest, exchange.effect.Spares) → Alike criteria before after := by
    rintro fresh answer rest ⟨fetched, fetching, updated, updating, later⟩ spares
    have fetch : before.answer (.fetchBundle cid) = (.ok fresh, fetched) := fetching
    have update : fetched.answer (.update (fresh.extendedBy added)) = (answer, updated) := updating
    have stored := Api.Memory.bundle?_of_answer (congrArg Prod.fst fetch)
    have counted : before.counted = fetched :=
      (Api.Memory.answer_of_spares (by trivial)).symm.trans (congrArg Prod.snd fetch)
    have here : before.counted.bundle? fresh.cid = some fresh := by
      rw [inService.own cid fresh stored]
      exact stored
    have alike : Alike criteria before updated := by
      have changed : Alike criteria before.counted
          (before.counted.answer (.update (fresh.extendedBy added))).2 :=
        inService.counted.alike_update here added
      rw [counted, update] at changed
      exact ⟨changed.inService, changed.cids.trans (counted ▸ rfl)⟩
    exact alike.trans (Api.Memory.alike_of_spares alike.inService later spares)
  cases submitting with
  | unfetched => exact Api.Memory.alike_of_spares inService replied (by simp [Effect.Spares])
  | refused => exact sent replied (by simp)
  | accepted written =>
      have spares := fun exchange member =>
        (MetricStore.supplies_of_persist written exchange member).spares
      exact sent replied (by simpa [Effect.Spares, or_imp, forall_and] using spares)

theorem Enabling.alike {collected : Collected} {outcome : Outcome Unit}
    (enabling : Enabling controller collected transcript outcome)
    (inService : before.InService) (replied : Replied serving before transcript after) :
    Alike criteria before after := by
  cases enabling with
  | idle idle => exact Api.Memory.alike_of_spares inService replied (by simp)
  | unseeded managing empty refreshing =>
      exact Api.Memory.alike_of_spares inService replied
        (fun exchange member => (refreshing.supplies exchange member).spares)
  | seeded managing empty refreshing =>
      exact Api.Memory.alike_of_spares inService replied
        (fun exchange member => (refreshing.supplies exchange member).spares)
  | unread managing loaded due refreshing =>
      have spares := fun exchange member => (refreshing.supplies exchange member).spares
      exact Api.Memory.alike_of_spares inService replied (by simpa [Effect.Spares] using spares)
  | unwritten managing loaded due refreshing =>
      have spares := fun exchange member => (refreshing.supplies exchange member).spares
      exact Api.Memory.alike_of_spares inService replied (by simpa [Effect.Spares] using spares)
  | known managing loaded current nothing =>
      exact Api.Memory.alike_of_spares inService replied
        (fun exchange member => (current.supplies exchange member).spares)
  | submitted managing loaded current new submitting =>
      obtain ⟨between, reading, sending⟩ := replied_append.mp replied
      have read : Alike criteria before between := Api.Memory.alike_of_spares inService reading
        (fun exchange member => (current.supplies exchange member).spares)
      exact read.trans (submitting.alike read.inService sending)

/-- Tending to a bundle creates none, and lets every search find what it found. -/
theorem alike_of_tending {operation : Operation} {outcome : Outcome Unit}
    (course : Course (operation.program controller) transcript outcome)
    (tends : operation ≠ .start) (inService : before.InService)
    (replied : Replied serving before transcript after) :
    transcript.creations = [] ∧ Alike criteria before after := by
  cases operation with
  | start => exact absurd rfl tends
  | refresh =>
      have spares := (refetching_of_course course).spares
      exact ⟨Transcript.creations_of_spares spares,
        Api.Memory.alike_of_spares inService replied spares⟩
  | enable collected =>
      have enabling := enabling_of_course course
      exact ⟨Transcript.creations_of_tends enabling.tends, enabling.alike inService replied⟩

end Controller

/-! ### Fleets -/

/-- A service, the agents that it serves, and what they have done, in its order. -/
structure Fleet where
  service : Api.Memory
  agents : List Controller
  log : List Controller.Entry

namespace Fleet

open Controller Resolution

/-- What becomes of a service when agents that seek one target join in at any time and carry out
operations, one at a time. -/
inductive Reached (checkType target : String) (initial : Api.Memory) : Fleet → Prop
  | begins : Reached checkType target initial ⟨initial, [], []⟩
  | joins {fleet : Fleet} {config : Config} (reached : Reached checkType target initial fleet)
      (seeks : Seeks config) (ofType : config.checkType = checkType)
      (ofTarget : config.target = target) :
      Reached checkType target initial { fleet with agents := fleet.agents ++ [.unbound config] }
  | operates {service after : Api.Memory} {front back : List Controller} {agent : Controller}
      {log : List Entry} {operation : Operation} {transcript : Transcript} {outcome : Outcome Unit}
      (reached : Reached checkType target initial ⟨service, front ++ agent :: back, log⟩)
      (course : Course (operation.program agent) transcript outcome)
      (replied : Replied serving service transcript after) :
      Reached checkType target initial
        ⟨after, front ++ outcome.2 :: back, log ++ [⟨operation, transcript, outcome⟩]⟩

def creations (log : List Entry) : List Bundle :=
  log.flatMap (fun entry => entry.transcript.creations)

structure Follows (criteria : String) (earlier later : Entry) : Prop where
  succeeds : later.outcome.1 = .ok ()
  only : later.transcript.calls = [.search criteria none]
  same : ∃ cid, earlier.outcome.2.cid = .ok cid ∧ later.outcome.2.cid = .ok cid

/-- What has been done agrees with what a search finds. -/
structure Agreed (criteria : String) (service : Api.Memory) (log : List Entry) : Prop where
  created : creations log = [] ∨
    (creations log).length = 1 ∧ ∃ cid, service.foundCids criteria = [cid]
  bound : ∀ entry ∈ log, entry.operation = .start → entry.outcome.1 = .ok () →
    ∃ cid, entry.outcome.2.cid = .ok cid ∧ service.foundCids criteria = [cid]
  agree : log.Pairwise (fun earlier later => earlier.operation = .start →
    earlier.outcome.1 = .ok () → later.operation = .start → Follows criteria earlier later)

variable {service final : Api.Memory} {log : List Entry} {entry : Entry}

theorem creations_append (log : List Entry) (entry : Entry) :
    creations (log ++ [entry]) = creations log ++ entry.transcript.creations := by
  simp [creations]

theorem Agreed.append (agreed : Agreed criteria service log)
    (created : creations (log ++ [entry]) = [] ∨
      (creations (log ++ [entry])).length = 1 ∧ ∃ cid, final.foundCids criteria = [cid])
    (kept : ∀ other ∈ log, other.operation = .start → other.outcome.1 = .ok () →
      ∃ cid, other.outcome.2.cid = .ok cid ∧ final.foundCids criteria = [cid])
    (last : entry.operation = .start → entry.outcome.1 = .ok () →
      ∃ cid, entry.outcome.2.cid = .ok cid ∧ final.foundCids criteria = [cid])
    (follows : ∀ earlier ∈ log, earlier.operation = .start → earlier.outcome.1 = .ok () →
      entry.operation = .start → Follows criteria earlier entry) :
    Agreed criteria final (log ++ [entry]) := by
  refine ⟨created, fun other member => ?_, List.pairwise_append.mpr
    ⟨agreed.agree, List.pairwise_singleton _ _, fun earlier before later member => ?_⟩⟩
  · rcases List.mem_append.mp member with before | now
    · exact kept other before
    · rw [List.mem_singleton.mp now]
      exact last
  · rw [List.mem_singleton.mp member]
    exact follows earlier before

theorem Agreed.tended (agreed : Agreed criteria service log) (tends : entry.operation ≠ .start)
    (nothing : entry.transcript.creations = []) (alike : Alike criteria service final) :
    Agreed criteria final (log ++ [entry]) := by
  refine agreed.append ?_ ?_ (fun start => absurd start tends)
    (fun _ _ _ _ start => absurd start tends)
  · rw [creations_append, nothing, List.append_nil, alike.cids]
    exact agreed.created
  · rw [alike.cids]
    exact agreed.bound

/-- While a search does not find exactly one bundle, nothing has been created and no agent is
bound. -/
theorem Agreed.unsettled (agreed : Agreed criteria service log)
    (unclear : ∀ cid, service.foundCids criteria ≠ [cid]) :
    creations log = [] ∧
      ∀ entry ∈ log, entry.operation = .start → entry.outcome.1 ≠ .ok () := by
  constructor
  · rcases agreed.created with nothing | ⟨-, cid, found⟩
    · exact nothing
    · exact absurd found (unclear cid)
  · intro entry member start succeeded
    obtain ⟨cid, -, found⟩ := agreed.bound entry member start succeeded
    exact unclear cid found

theorem Agreed.started (agreed : Agreed criteria service log) {result : Except CheckFault String}
    (settling : Settling criteria service entry.transcript final result)
    (came : entry.outcome.1 = result.map (fun _ => ()))
    (named : ∀ cid, result = .ok cid → entry.outcome.2.cid = .ok cid) :
    Agreed criteria final (log ++ [entry]) := by
  cases settling with
  | undecided unclear nothing alike =>
      obtain ⟨uncreated, unbound⟩ := agreed.unsettled unclear
      refine agreed.append (Or.inl ?_)
        (fun other before start succeeded => absurd succeeded (unbound other before start))
        (fun _ succeeded => ?_)
        (fun other before start succeeded => absurd succeeded (unbound other before start))
      · rw [creations_append, uncreated, nothing]
        rfl
      · rw [came] at succeeded
        cases succeeded
  | @found cid found only nothing alike =>
      refine agreed.append ?_ ?_ (fun _ _ => ⟨cid, named cid rfl, by rw [alike.cids, found]⟩) ?_
      · rw [creations_append, nothing, List.append_nil, alike.cids]
        exact agreed.created
      · rw [alike.cids]
        exact agreed.bound
      · -- An agent that was bound before is bound to what a search finds, which is this bundle.
        intro earlier before start succeeded _
        obtain ⟨other, bound, listed⟩ := agreed.bound earlier before start succeeded
        have same : other = cid := List.singleton_inj.mp (listed.symm.trans found)
        exact ⟨came, only, cid, same ▸ bound, named cid rfl⟩
  | @created cid missing one inService found =>
      obtain ⟨uncreated, unbound⟩ := agreed.unsettled (fun cid listed => by
        rw [missing] at listed
        cases listed)
      refine agreed.append (Or.inr ⟨?_, cid, found⟩)
        (fun other before start succeeded => absurd succeeded (unbound other before start))
        (fun _ _ => ⟨cid, named cid rfl, found⟩)
        (fun other before start succeeded => absurd succeeded (unbound other before start))
      rw [creations_append, uncreated, List.nil_append, one]

structure Sound (checkType target : String) (fleet : Fleet) : Prop where
  inService : fleet.service.InService
  seeking : ∀ agent ∈ fleet.agents, Seeks agent.config ∧ agent.config.checkType = checkType ∧
    agent.config.target = target
  agreed : Agreed (Resolution.criteria checkType target) fleet.service fleet.log

variable {checkType target : String} {initial : Api.Memory} {fleet : Fleet}

theorem Sound.operates {front back : List Controller} {agent : Controller}
    (sound : Sound checkType target ⟨service, front ++ agent :: back, log⟩) {operation : Operation}
    {transcript : Transcript} {outcome : Outcome Unit}
    (course : Course (operation.program agent) transcript outcome)
    (replied : Replied serving service transcript final) :
    Sound checkType target
      ⟨final, front ++ outcome.2 :: back, log ++ [⟨operation, transcript, outcome⟩]⟩ := by
  have present : agent ∈ front ++ agent :: back :=
    List.mem_append_right front List.mem_cons_self
  have seeking : ∀ other ∈ front ++ outcome.2 :: back, Seeks other.config ∧
      other.config.checkType = checkType ∧ other.config.target = target := by
    intro other member
    rcases List.mem_append.mp member with before | rest
    · exact sound.seeking other (List.mem_append_left _ before)
    · rcases List.mem_cons.mp rest with rfl | behind
      · rw [config_of_course course]
        exact sound.seeking agent present
      · exact sound.seeking other (List.mem_append_right front (List.mem_cons_of_mem agent behind))
  by_cases start : operation = .start
  · subst start
    obtain ⟨seeks, rfl, rfl⟩ := sound.seeking agent present
    obtain ⟨result, settling, came, named⟩ :=
      (starting_of_course course).settling seeks sound.inService replied
    have kept : final.InService := by
      cases settling with
      | undecided unclear nothing alike => exact alike.inService
      | found found only nothing alike => exact alike.inService
      | created missing one inService found => exact inService
    exact ⟨kept, seeking, sound.agreed.started settling came named⟩
  · obtain ⟨nothing, alike⟩ := alike_of_tending course start sound.inService replied
    exact ⟨alike.inService, seeking, sound.agreed.tended start nothing alike⟩

theorem Reached.sound (inService : initial.InService)
    (reached : Reached checkType target initial fleet) : Sound checkType target fleet := by
  induction reached with
  | begins =>
      refine ⟨inService, ?_, Or.inl rfl, ?_, List.Pairwise.nil⟩
      · intro agent member
        cases member
      · intro entry member
        cases member
  | joins before seeks ofType ofTarget ih =>
      refine ⟨ih.inService, fun agent member => ?_, ih.agreed⟩
      rcases List.mem_append.mp member with already | new
      · exact ih.seeking agent already
      · rw [List.mem_singleton.mp new]
        exact ⟨seeks, ofType, ofTarget⟩
  | operates before course replied ih => exact ih.operates course replied

/-- Agents that seek one target create at most one bundle for it. Once one of them is bound, every
later start succeeds with the same bundle, and asks for nothing but the search. -/
theorem seekers_share_bundle (inService : initial.InService)
    (reached : Reached checkType target initial fleet) :
    (creations fleet.log).length ≤ 1 ∧
      fleet.log.Pairwise (fun earlier later => earlier.operation = .start →
        earlier.outcome.1 = .ok () → later.operation = .start →
          Follows (Resolution.criteria checkType target) earlier later) := by
  have agreed := (reached.sound inService).agreed
  refine ⟨?_, agreed.agree⟩
  rcases agreed.created with nothing | ⟨one, -⟩
  · rw [nothing]
    exact Nat.zero_le 1
  · rw [one]

theorem serving_record {Result : Type} (world : World Api.Memory) (program : Program Result) :
    Replied serving world.service (world.record Api.Memory.answer program)
      (world.run Api.Memory.answer program).2.service := by
  refine Program.replied_run World.service (fun state effect => ?_) program world
  cases effect <;> rfl

theorem Reached.run (world : World Api.Memory) (front back : List Controller) (agent : Controller)
    (operation : Operation)
    (reached : Reached checkType target initial ⟨world.service, front ++ agent :: back, log⟩)
    {ran : Outcome Unit × World Api.Memory}
    (run : world.run Api.Memory.answer (operation.program agent) = ran) :
    Reached checkType target initial ⟨ran.2.service, front ++ ran.1.2 :: back,
      log ++ [⟨operation, world.record Api.Memory.answer (operation.program agent), ran.1⟩]⟩ := by
  rw [← run]
  exact .operates reached (world.course_run _) (serving_record world _)

/-- The first of two agents creates the bundle and refreshes it, the second one finds it. -/
theorem seekers_share_bundle_of_two :
    let near := BrokerNode.mk "" (some "near") 0 none ["json"] none "active"
    let memory := { Api.Memory.fresh with brokers := [⟨"/broker/1", "", "circonus", [near]⟩] }
    ∃ fleet, memory.InService ∧ Reached "json:nad" "web1" memory fleet ∧
      fleet.agents.map Controller.cid = [.ok "/check_bundle/1000", .ok "/check_bundle/1000"] ∧
      fleet.log.map (fun entry => entry.transcript.calls.length) = [3, 1, 1] ∧
      (creations fleet.log).length ≤ 1 ∧
      fleet.log.Pairwise (fun earlier later => earlier.operation = .start →
        earlier.outcome.1 = .ok () → later.operation = .start →
          Follows (Resolution.criteria "json:nad" "web1") earlier later) := by
  intro near memory
  let world : World Api.Memory := { World.quiet memory .empty with latency := fun _ => some ⟨5⟩ }
  let config : Config := { Config.standard with target := "web1", create := true }
  have seeks : Seeks config :=
    ⟨rfl, rfl, by decide, ⟨by decide, by decide, by decide⟩, ⟨by decide, by decide, by decide⟩⟩
  have inService : memory.InService := ⟨rfl, rfl, fun cid bundle stored => by cases stored⟩
  have joined : Reached "json:nad" "web1" memory ⟨memory, [.unbound config, .unbound config], []⟩ :=
    (Reached.begins.joins seeks rfl rfl).joins seeks rfl rfl
  let agent : Controller := .unbound config
  let first := world.run Api.Memory.answer (Operation.start.program agent)
  let refreshed := first.2.run Api.Memory.answer (Operation.refresh.program first.1.2)
  have created := Reached.run world [] [agent] agent .start joined (Eq.refl first)
  have tended := Reached.run first.2 [] [agent] first.1.2 .refresh created (Eq.refl refreshed)
  have shared := Reached.run refreshed.2 [refreshed.1.2] [] agent .start tended rfl
  refine ⟨_, inService, shared, by decide +kernel, by decide +kernel, ?_⟩
  exact seekers_share_bundle inService shared

end Fleet
end CheckBinding
