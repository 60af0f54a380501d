import CheckBinding.Proofs.Memories
import CheckBinding.Proofs.MetricStores
import CheckBinding.Proofs.Operations

/-!
No metric is enabled twice, whatever gets lost.

The service of the surroundings is the one in memory, except that a call may fail and that the
answer to an update may be lost after it was carried out. It notes the updates that were carried
out. Others may edit anything as long as the roster of the bundle in question loses no name.

A name that was staged in an update stays on the roster. A store that is neither pending nor new
knows every such name; any other store is read from the roster before it is asked what is new.
-/

namespace CheckBinding.AtMostOnce

open Program Api

/-! ### The service -/

structure Submission where
  fetched : Bundle
  submitted : Bundle

def Submission.staged (submission : Submission) : List String :=
  (submission.submitted.metrics.drop submission.fetched.metrics.length).map MetricDefinition.name

/-- An update submits the copy with the metrics behind it that some store did not know. -/
def Submission.Traced (submission : Submission) : Prop :=
  ∃ (store : MetricStore) (collected : Collected) (status : String),
    submission.submitted = { submission.fetched with
      metrics := submission.fetched.metrics ++ store.unknownMetrics collected status }

structure Backend where
  memory : Memory
  fetched : Bundle
  applied : List Submission

def Backend.note (backend : Backend) (memory : Memory) : (call : Call) → call.Answer → Backend
  | .fetchBundle _, .ok bundle => { backend with memory, fetched := bundle }
  | .update submitted, .ok _ =>
      { backend with memory, applied := backend.applied ++ [⟨backend.fetched, submitted⟩] }
  | _, _ => { backend with memory }

def Backend.carryOut (backend : Backend) (call : Call) : Backend :=
  backend.note (backend.memory.answer call).2 call (backend.memory.answer call).1

/-- Others keep the identifiers in order and take no name off the roster of a bundle. -/
structure Edited (cid : String) (before after : Memory) : Prop where
  wellKept : before.WellKept → after.WellKept
  listed : ∀ name ∈ before.listedNames cid, name ∈ after.listedNames cid

inductive Serves (backend : Backend) : (call : Call) → call.Answer → Backend → Prop
  | answered (call : Call) :
      Serves backend call (backend.memory.answer call).1 (backend.carryOut call)
  | failed (call : Call) (fault : Api.Fault) : Serves backend call (.error fault) backend
  | lost (submitted : Bundle) (fault : Api.Fault) :
      Serves backend (.update submitted) (.error fault) (backend.carryOut (.update submitted))

theorem Serves.of_ok {backend after : Backend} {call : Call} {reply : call.Answer}
    {payload : call.Payload} (serves : Serves backend call reply after)
    (arrived : reply = .ok payload) :
    (backend.memory.answer call).1 = .ok payload ∧ after = backend.carryOut call := by
  cases serves with
  | answered => exact ⟨arrived, rfl⟩
  | failed => cases arrived
  | lost => cases arrived

/-- Surroundings with the service: others have their turn, then a call is served. Files, the clock
and all else answer at will. -/
def around (cid : String) : Surroundings Backend :=
  fun before effect =>
    match effect with
    | .call call => fun reply after =>
        ∃ memory, Edited cid before.memory memory ∧ Serves { before with memory } call reply after
    | _ => fun _ after =>
        ∃ memory, Edited cid before.memory memory ∧ after = { before with memory }

/-! ### What the service keeps -/

/-- A name was staged in an update of a bundle that was carried out. -/
def Enabled (cid : String) (applied : List Submission) (name : String) : Prop :=
  ∃ submission ∈ applied, submission.submitted.cid = cid ∧ name ∈ submission.staged

structure Sound (cid : String) (backend : Backend) : Prop where
  wellKept : backend.memory.WellKept
  traced : ∀ submission ∈ backend.applied, submission.Traced
  listed : ∀ name, Enabled cid backend.applied name → name ∈ backend.memory.listedNames cid
  apart : backend.applied.Pairwise (fun earlier later =>
    earlier.submitted.cid = cid → later.submitted.cid = cid →
      ∀ name ∈ earlier.staged, name ∉ later.staged)

theorem Edited.refl (cid : String) (memory : Memory) : Edited cid memory memory :=
  ⟨id, fun _ listed => listed⟩

theorem edited_answer (cid : String) (memory : Memory) (call : Call) :
    Edited cid memory (memory.answer call).2 :=
  ⟨fun wellKept => wellKept.answer call, fun _ listed => Memory.listedNames_answer call listed⟩

theorem Edited.trans {cid : String} {first second third : Memory}
    (left : Edited cid first second) (right : Edited cid second third) :
    Edited cid first third :=
  ⟨right.wellKept ∘ left.wellKept, fun name listed => right.listed name (left.listed name listed)⟩

/-- Nothing was carried out that had not been before, and nothing is out of order. -/
structure Steady (cid : String) (before after : Backend) : Prop where
  sound : Sound cid after
  applied : after.applied = before.applied

theorem Sound.edited {cid : String} {before after : Backend} (sound : Sound cid before)
    (edited : Edited cid before.memory after.memory) (applied : after.applied = before.applied) :
    Steady cid before after := by
  refine ⟨⟨edited.wellKept sound.wellKept, ?_, ?_, ?_⟩, applied⟩
  · rw [applied]
    exact sound.traced
  · rw [applied]
    exact fun name enabled => edited.listed name (sound.listed name enabled)
  · rw [applied]
    exact sound.apart

theorem carryOut_leaves {backend : Backend} {call : Call} (leaves : (Effect.call call).Leaves) :
    (backend.carryOut call).memory = (backend.memory.answer call).2 ∧
      (backend.carryOut call).applied = backend.applied := by
  rw [Backend.carryOut]
  cases call with
  | fetchBundle cid =>
      cases (backend.memory.answer (.fetchBundle cid)).1 <;> exact ⟨rfl, rfl⟩
  | update submitted => exact leaves.elim
  | _ => exact ⟨rfl, rfl⟩

/-- All but an update leaves the updates as they are. -/
theorem Sound.step {cid : String} {before after : Backend} {effect : Effect}
    {reply : effect.Answer} (sound : Sound cid before) (leaves : effect.Leaves)
    (possible : around cid before effect reply after) : Steady cid before after := by
  cases effect with
  | call call =>
      obtain ⟨memory, edited, serves⟩ := possible
      cases serves with
      | answered =>
          obtain ⟨answered, applied⟩ := @carryOut_leaves { before with memory } call leaves
          refine sound.edited ?_ applied
          rw [answered]
          exact edited.trans (edited_answer cid memory call)
      | failed => exact sound.edited edited rfl
      | lost => exact leaves.elim
  | _ =>
      obtain ⟨memory, edited, rfl⟩ := possible
      exact sound.edited edited rfl

theorem Steady.trans {cid : String} {first second third : Backend}
    (left : Steady cid first second) (right : Steady cid second third) :
    Steady cid first third :=
  ⟨right.sound, right.applied.trans left.applied⟩

/-- A program that updates no bundle leaves the updates as they are. -/
theorem Sound.ensures {Result : Type} {cid : String} {backend : Backend}
    {program : Program Result} {post : Result → Prop} (sound : Sound cid backend)
    (confined : Confined Effect.Leaves post program) :
    Ensures (around cid) (Sound cid)
      (fun result after => post result ∧ Steady cid backend after) program backend :=
  confined.ensures
    (fun _ leaves _ _ _ kept possible => kept.trans (kept.sound.step leaves possible))
    (fun _ kept => kept.sound) ⟨sound, rfl⟩

/-! ### Updates -/

theorem enabled_append {cid : String} {applied : List Submission} {submission : Submission}
    {name : String} :
    Enabled cid (applied ++ [submission]) name ↔
      Enabled cid applied name ∨
        (submission.submitted.cid = cid ∧ name ∈ submission.staged) := by
  constructor
  · rintro ⟨other, member, here, staged⟩
    rcases List.mem_append.mp member with before | last
    · exact Or.inl ⟨other, before, here, staged⟩
    · cases List.mem_singleton.mp last
      exact Or.inr ⟨here, staged⟩
  · rintro (⟨other, member, here, staged⟩ | ⟨here, staged⟩)
    · exact ⟨other, List.mem_append_left _ member, here, staged⟩
    · exact ⟨submission, List.mem_append_right _ (List.mem_singleton.mpr rfl), here, staged⟩

theorem staged_subset (submission : Submission) {name : String}
    (staged : name ∈ submission.staged) :
    name ∈ submission.submitted.metrics.map MetricDefinition.name := by
  obtain ⟨metric, dropped, rfl⟩ := List.mem_map.mp staged
  exact List.mem_map_of_mem (List.mem_of_mem_drop dropped)

theorem staged_extension (fetched : Bundle) (added : List MetricDefinition) :
    Submission.staged ⟨fetched, { fetched with metrics := fetched.metrics ++ added }⟩ =
      added.map MetricDefinition.name := by
  rw [Submission.staged, List.drop_left]

/-- What comes of an update that the service takes up: it is refused, or it is carried out, noted,
and answered with the bundle as it is stored. -/
theorem carryOut_update (backend : Backend) (submitted : Bundle) :
    ((∃ fault, (backend.memory.answer (.update submitted)).1 = .error fault) ∧
      (backend.carryOut (.update submitted)).applied = backend.applied ∧
      (backend.carryOut (.update submitted)).memory =
        (backend.memory.answer (.update submitted)).2) ∨
    ((backend.memory.answer (.update submitted)).1 = .ok (Memory.revised submitted) ∧
      (backend.carryOut (.update submitted)).applied =
        backend.applied ++ [⟨backend.fetched, submitted⟩] ∧
      (backend.carryOut (.update submitted)).memory =
        (backend.memory.answer (.update submitted)).2 ∧
      ∀ name ∈ submitted.metrics.map MetricDefinition.name,
        name ∈ (backend.memory.answer (.update submitted)).2.listedNames submitted.cid) := by
  rw [Backend.carryOut, Memory.answer]
  split
  · exact Or.inl ⟨⟨_, rfl⟩, rfl, rfl⟩
  · rw [Memory.carryOut, Memory.update]
    split
    · refine Or.inr ⟨rfl, rfl, rfl, fun name member => ?_⟩
      exact Memory.mem_listedNames_mergeRoster.mpr (Or.inl ⟨rfl, member⟩)
    · exact Or.inl ⟨⟨_, rfl⟩, rfl, rfl⟩

/-- Carrying out an update that stages only names that no update staged before. -/
theorem Sound.carryOut {cid : String} {backend : Backend} {submitted : Bundle}
    (sound : Sound cid backend) (traced : Submission.Traced ⟨backend.fetched, submitted⟩)
    (new : submitted.cid = cid → ∀ name, Enabled cid backend.applied name →
      name ∉ Submission.staged ⟨backend.fetched, submitted⟩) :
    Sound cid (backend.carryOut (.update submitted)) := by
  have edited : Edited cid backend.memory (backend.memory.answer (.update submitted)).2 :=
    edited_answer cid backend.memory (.update submitted)
  rcases carryOut_update backend submitted with
    ⟨-, applied, memory⟩ | ⟨-, applied, memory, listed⟩
  · refine (sound.edited ?_ applied).sound
    rw [memory]
    exact edited
  · constructor
    · rw [memory]
      exact edited.wellKept sound.wellKept
    · rw [applied]
      intro submission member
      rcases List.mem_append.mp member with before | last
      · exact sound.traced submission before
      · cases List.mem_singleton.mp last
        exact traced
    · -- What the update stages is on the roster: the service merges all that was submitted.
      rw [applied, memory]
      intro name enabled
      rcases enabled_append.mp enabled with before | ⟨here, staged⟩
      · exact edited.listed name (sound.listed name before)
      · rw [← here]
        exact listed name (staged_subset ⟨backend.fetched, submitted⟩ staged)
    · rw [applied, List.pairwise_append]
      refine ⟨sound.apart, List.pairwise_singleton _ _, ?_⟩
      intro earlier member later last earlierHere laterHere name staged
      cases List.mem_singleton.mp last
      exact new laterHere name ⟨earlier, member, earlierHere, staged⟩

/-- Such an update keeps everything in order, whether or not its answer arrives. -/
theorem Sound.update {cid : String} {before after : Backend} {submitted : Bundle}
    {reply : (Call.update submitted).Answer} (sound : Sound cid before)
    (traced : Submission.Traced ⟨before.fetched, submitted⟩)
    (new : submitted.cid = cid → ∀ name, Enabled cid before.applied name →
      name ∉ Submission.staged ⟨before.fetched, submitted⟩)
    (possible : around cid before (.call (.update submitted)) reply after) :
    Sound cid after ∧ ∀ updated, reply = .ok updated →
      updated = Memory.revised submitted ∧
        after.applied = before.applied ++ [⟨before.fetched, submitted⟩] := by
  obtain ⟨memory, edited, serves⟩ := possible
  have kept : Steady cid before { before with memory } := sound.edited edited rfl
  cases serves with
  | answered =>
      refine ⟨kept.sound.carryOut traced new, fun updated arrived => ?_⟩
      rcases carryOut_update { before with memory } submitted with
        ⟨⟨fault, refused⟩, -⟩ | ⟨accepted, applied, -⟩
      · cases refused.symm.trans arrived
      · cases accepted.symm.trans arrived
        exact ⟨rfl, applied⟩
  | failed fault => exact ⟨kept.sound, fun updated arrived => by cases arrived⟩
  | lost => exact ⟨kept.sound.carryOut traced new, fun updated arrived => by cases arrived⟩

/-! ### Reading -/

variable {cid : String} {backend : Backend}

/-- A bundle that is fetched is noted, and has the identifier that was asked for. -/
theorem Sound.ensures_fetch (sound : Sound cid backend) (activity : Activity) (asked : String) :
    Ensures (around cid) (Sound cid)
      (fun answer after => Steady cid backend after ∧ ∀ bundle, answer = .ok bundle →
        bundle.cid = asked ∧ after.fetched = bundle)
      (Resolution.ask activity (.fetchBundle asked)) backend := by
  rw [Resolution.ask]
  apply Ensures.bind
  apply ensures_ask
  intro reply after possible
  have steady := sound.step (by trivial) possible
  refine ⟨steady.sound, ensures_pure ⟨steady, fun bundle arrived => ?_⟩⟩
  cases reply with
  | error fault => cases arrived
  | ok fetched =>
      cases arrived
      obtain ⟨memory, edited, serves⟩ := possible
      obtain ⟨answered, rfl⟩ := serves.of_ok rfl
      have wellKept := edited.wellKept sound.wellKept
      refine ⟨wellKept.own asked bundle (Memory.bundle?_of_answer answered), ?_⟩
      rw [Backend.carryOut, answered]
      rfl

/-- A roster that is read names all that was enabled. -/
theorem Sound.ensures_fetchRoster (canonical : Cid.isCanonical .checkBundle cid = true)
    (sound : Sound cid backend) :
    Ensures (around cid) (Sound cid)
      (fun answer after => Steady cid backend after ∧ ∀ metrics, answer = .ok metrics →
        ∀ name, Enabled cid backend.applied name →
          name ∈ metrics.map MetricDefinition.name)
      (MetricStore.fetchRoster cid) backend := by
  rw [MetricStore.fetchRoster, Resolution.ask]
  apply Ensures.bind
  apply Ensures.bind
  apply ensures_ask
  intro reply after possible
  have steady := sound.step (by trivial) possible
  refine ⟨steady.sound, ensures_pure ?_⟩
  cases reply with
  | error fault => exact ensures_pure ⟨steady, fun metrics read => by cases read⟩
  | ok bytes =>
      refine ensures_pure ⟨steady, fun metrics read name enabled => ?_⟩
      obtain ⟨memory, edited, serves⟩ := possible
      obtain ⟨answered, -⟩ := serves.of_ok rfl
      have served := Memory.serve_of_answer answered
      rw [(edited.wellKept sound.wellKept).addressed.serve_rosterOf canonical] at served
      split at served
      · rw [← Except.ok.inj served, Memory.decodeBytes_rosterJson] at read
        rw [← Except.ok.inj read]
        exact edited.listed name (sound.listed name enabled)
      · cases served

/-! ### The store -/

def KnowsEnabled (cid : String) (backend : Backend) (store : MetricStore) : Prop :=
  ∀ name, Enabled cid backend.applied name → store.knows name = true

theorem KnowsEnabled.steady {after : Backend} {store : MetricStore}
    (knows : KnowsEnabled cid backend store) (steady : Steady cid backend after) :
    KnowsEnabled cid after store := by
  rw [KnowsEnabled, steady.applied]
  exact knows

/-- A store that was refreshed for the bundle knows all that was enabled. -/
theorem Sound.ensures_refresh (canonical : Cid.isCanonical .checkBundle cid = true)
    (sound : Sound cid backend) (store : MetricStore) (asked : String) :
    Ensures (around cid) (Sound cid)
      (fun result after => Steady cid backend after ∧ ∀ persisted, result.2 = .ok persisted →
        asked = cid → KnowsEnabled cid after result.1)
      (store.refreshFromRemote asked none) backend := by
  -- The roster of another bundle says nothing, and nothing is asked of it.
  have fetched : Ensures (around cid) (Sound cid)
      (fun answer after => Steady cid backend after ∧ ∀ metrics, answer = .ok metrics →
        asked = cid → ∀ name, Enabled cid backend.applied name →
          name ∈ metrics.map MetricDefinition.name)
      (MetricStore.fetchRoster asked) backend := by
    by_cases same : asked = cid
    · rw [same]
      exact (sound.ensures_fetchRoster canonical).mono
        (fun _ _ read => ⟨read.1, fun metrics arrived _ => read.2 metrics arrived⟩)
    · exact (sound.ensures (MetricStore.fetchRoster_looks asked).leaves).mono
        (fun _ _ read => ⟨read.2, fun _ _ here => absurd here same⟩)
  rw [MetricStore.refreshFromRemote]
  apply fetched.followed
  intro answer between read
  obtain ⟨steady, names⟩ := read
  cases answer with
  | error fault => exact ensures_pure ⟨steady, fun persisted refreshed => by cases refreshed⟩
  | ok metrics =>
      apply (steady.sound.ensures (MetricStore.absorbKnown_leaves store metrics)).followed
      intro result after merged
      obtain ⟨⟨now, taken⟩, further⟩ := merged
      refine ensures_pure ⟨steady.trans further, fun persisted _ here name enabled => ?_⟩
      rw [(steady.trans further).applied] at enabled
      rw [taken, MetricStore.knows_merge]
      exact Or.inr (names metrics rfl here name enabled)

/-! ### The controller -/

/-- A controller has a store only when it may enable metrics; and a store for the bundle knows all
that was enabled, unless it will be refreshed before it is used. -/
structure Ready (cid : String) (controller : Controller) (backend : Backend) : Prop where
  managed : ∀ store, controller.store = some store → controller.config.enableNewMetrics = true
  current : ∀ held store, controller.bundle = some held → controller.store = some store →
    held.cid = cid → store.pendingUpdate = false → store.lastRefresh ≠ none →
      KnowsEnabled cid backend store

structure Safe (cid : String) (controller : Controller) (backend : Backend) : Prop where
  sound : Sound cid backend
  ready : Ready cid controller backend

variable {controller : Controller}

theorem Safe.steady {after : Backend} (safe : Safe cid controller backend)
    (steady : Steady cid backend after) : Safe cid controller after :=
  ⟨steady.sound, safe.ready.managed, fun held store bound kept here still fresh =>
    (safe.ready.current held store bound kept here still fresh).steady steady⟩

theorem safe_of_store_eq_none (sound : Sound cid backend) (none : controller.store = none) :
    Safe cid controller backend := by
  refine ⟨sound, fun store held => ?_, fun held store _ kept => ?_⟩
  · cases none.symm.trans held
  · cases none.symm.trans kept

theorem safe_unbound (sound : Sound cid backend) (config : Config) :
    Safe cid (.unbound config) backend :=
  safe_of_store_eq_none sound rfl

/-- Binding again to the same bundle. -/
theorem Safe.bind (safe : Safe cid controller backend) {held bundle : Bundle}
    (bound : controller.bundle = some held) (same : bundle.cid = held.cid) :
    Safe cid (controller.bind bundle) backend := by
  refine ⟨safe.sound, safe.ready.managed, fun other store rebound kept here => ?_⟩
  cases rebound
  exact safe.ready.current held store bound kept (same.symm.trans here)

/-- A store that knows all that was enabled may be kept, or dropped. -/
theorem safe_settle (sound : Sound cid backend)
    (managed : controller.config.enableNewMetrics = true) {held : Bundle}
    (bound : controller.bundle = some held) {store : MetricStore}
    (knows : held.cid = cid → KnowsEnabled cid backend store) (persisted : Bool) :
    Safe cid (controller.settleStore store persisted) backend := by
  cases persisted with
  | false => exact safe_of_store_eq_none sound rfl
  | true =>
      refine ⟨sound, fun _ _ => managed, fun other kept rebound same here _ _ => ?_⟩
      cases bound.symm.trans rebound
      cases same
      exact knows here

abbrev AfterSafe (cid : String) (outcome : Controller.Outcome Unit) (after : Backend) : Prop :=
  Safe cid outcome.2 after

theorem Safe.start (safe : Safe cid controller backend) :
    Ensures (around cid) (Sound cid) (AfterSafe cid) controller.start backend := by
  rw [Controller.start]
  split
  · exact ensures_pure safe
  · apply (safe.sound.ensures (Resolution.resolve_looks controller.config).leaves).followed
    intro resolved between kept
    have still := safe.steady kept.2
    cases resolved with
    | error fault => exact ensures_pure still
    | ok bundle =>
        dsimp only
        split
        · next managed =>
          have leaves := (Controller.prepareStore_stores controller.config).allow
            (fun _ => Effect.Stores.leaves)
          apply (still.sound.ensures leaves).followed
          intro prepared after new
          obtain ⟨never, steady⟩ := new
          refine ensures_pure ⟨steady.sound, fun _ _ => managed, ?_⟩
          intro held store _ kept _ _ fresh
          exact absurd (never store kept).1 fresh
        · next unmanaged =>
          have none : controller.store = none := by
            cases held : controller.store with
            | none => rfl
            | some store => exact absurd (safe.ready.managed store held) unmanaged
          exact ensures_pure (safe_of_store_eq_none still.sound none)

theorem Safe.refreshStore (canonical : Cid.isCanonical .checkBundle cid = true)
    (safe : Safe cid controller backend) {held : Bundle} (bound : controller.bundle = some held) :
    Ensures (around cid) (Sound cid)
      (fun outcome after => AfterSafe cid outcome after ∧ Steady cid backend after ∧
        outcome.2.bundle = some held)
      (controller.refreshStore held.cid) backend := by
  rw [Controller.refreshStore]
  have steady : Steady cid backend backend := ⟨safe.sound, rfl⟩
  split
  · exact ensures_pure ⟨safe, steady, bound⟩
  · split
    · exact ensures_pure ⟨safe, steady, bound⟩
    · next store kept =>
      apply (safe.sound.ensures_refresh canonical store held.cid).followed
      intro result after refreshed
      obtain ⟨fresh, outcome⟩ := result
      cases outcome with
      | error fault => exact ensures_pure ⟨safe.steady refreshed.1, refreshed.1, bound⟩
      | ok persisted =>
          refine ensures_pure ⟨?_, refreshed.1, ?_⟩
          · exact safe_settle refreshed.1.sound (safe.ready.managed store kept) bound
              (refreshed.2 persisted rfl) persisted
          · cases persisted <;> exact bound

theorem Safe.refresh (canonical : Cid.isCanonical .checkBundle cid = true)
    (safe : Safe cid controller backend) :
    Ensures (around cid) (Sound cid) (AfterSafe cid) controller.refresh backend := by
  rw [Controller.refresh]
  split
  · exact ensures_pure safe
  · next held bound =>
    apply (safe.sound.ensures_fetch _ held.cid).followed
    intro fetched between found
    have still := safe.steady found.1
    split
    · exact ensures_pure still
    · next bundle active =>
      have same := (found.2 bundle (Resolution.bind_ensureActive_eq_ok.mp active).1).1
      apply (still.refreshStore canonical bound).followed
      intro outcome after refreshed
      obtain ⟨result, next⟩ := outcome
      cases result with
      | error fault => exact ensures_pure (still.steady refreshed.2.1)
      | ok _ => exact ensures_pure (refreshed.1.bind refreshed.2.2 same)

theorem Safe.seed (canonical : Cid.isCanonical .checkBundle cid = true)
    (safe : Safe cid controller backend) {held : Bundle} (bound : controller.bundle = some held)
    {store : MetricStore} (kept : controller.store = some store) :
    Ensures (around cid) (Sound cid) (AfterSafe cid) (controller.seed store held.cid) backend := by
  rw [Controller.seed]
  apply (safe.sound.ensures_refresh canonical store held.cid).followed
  intro result after refreshed
  obtain ⟨fresh, outcome⟩ := result
  cases outcome with
  | error fault => exact ensures_pure (safe.steady refreshed.1)
  | ok persisted =>
      exact ensures_pure (safe_settle refreshed.1.sound (safe.ready.managed store kept) bound
        (refreshed.2 persisted rfl) persisted)

/-- A controller whose store notes an update will refresh it first. -/
theorem safe_pending (sound : Sound cid backend)
    (managed : controller.config.enableNewMetrics = true) (store : MetricStore) :
    Safe cid { controller with store := some store.markPending } backend := by
  refine ⟨sound, fun _ _ => managed, fun held other _ kept _ still => ?_⟩
  cases kept
  cases still

/-- A store that takes the answer to an update in knows what it staged, too. -/
theorem KnowsEnabled.update {after : Backend} {store : MetricStore}
    (knows : KnowsEnabled cid backend store) {submission : Submission}
    (applied : after.applied = backend.applied ++ [submission])
    {metrics : List MetricDefinition} {now : Nat} (answered : ∀ name ∈ submission.staged,
      name ∈ metrics.map MetricDefinition.name) :
    KnowsEnabled cid after (store.markPending.merge metrics now) := by
  intro name enabled
  rw [applied] at enabled
  rw [MetricStore.knows_merge, MetricStore.knows_markPending]
  rcases enabled_append.mp enabled with before | ⟨-, staged⟩
  · exact Or.inl (knows name before)
  · exact Or.inr (answered name staged)

/-- Sending the copy with the metrics behind it that a store with all knowledge does not know. -/
theorem Sound.ensures_update (sound : Sound cid backend) {store : MetricStore}
    (knows : backend.fetched.cid = cid → KnowsEnabled cid backend store) (activity : Activity)
    (collected : Collected) (status : String) :
    let extended := backend.fetched.extendedBy (store.unknownMetrics collected status)
    Ensures (around cid) (Sound cid)
      (fun answer after => Sound cid after ∧ ∀ updated, answer = .ok updated →
        updated = Memory.revised extended ∧
          after.applied = backend.applied ++ [⟨backend.fetched, extended⟩])
      (Resolution.ask activity (.update extended)) backend := by
  intro extended
  have new : extended.cid = cid → ∀ name, Enabled cid backend.applied name →
      name ∉ Submission.staged ⟨backend.fetched, extended⟩ := by
    intro here name enabled staged
    have added : name ∈ (store.unknownMetrics collected status).map MetricDefinition.name := by
      rw [← staged_extension backend.fetched]
      exact staged
    have unknown := MetricStore.not_knows_of_mem_unknownMetrics added
    rw [knows here name enabled] at unknown
    cases unknown
  rw [Resolution.ask]
  apply Ensures.bind
  apply ensures_ask
  intro reply after possible
  obtain ⟨kept, carried⟩ := sound.update ⟨store, collected, status, rfl⟩ new possible
  refine ⟨kept, ensures_pure ⟨kept, fun updated arrived => ?_⟩⟩
  cases reply with
  | error fault => cases arrived
  | ok answered =>
      cases arrived
      exact carried _ rfl

theorem ensures_submit (sound : Sound cid backend)
    (managed : controller.config.enableNewMetrics = true) {held : Bundle} {store : MetricStore}
    (knows : held.cid = cid → KnowsEnabled cid backend store) (collected : Collected)
    (status : String) :
    Ensures (around cid) (Sound cid) (AfterSafe cid)
      (controller.submit store held.cid (store.unknownMetrics collected status)) backend := by
  rw [Controller.submit]
  apply (sound.ensures_fetch _ held.cid).followed
  intro fetched between found
  obtain ⟨steady, given⟩ := found
  cases fetched with
  | error fault => exact ensures_pure (safe_pending steady.sound managed store)
  | ok fresh =>
      obtain ⟨own, rfl⟩ := given fresh rfl
      have knowsStill : between.fetched.cid = cid → KnowsEnabled cid between store :=
        fun here => (knows (own.symm.trans here)).steady steady
      apply (steady.sound.ensures_update knowsStill _ collected status).followed
      intro answer after sent
      obtain ⟨soundAfter, carried⟩ := sent
      cases answer with
      | error fault => exact ensures_pure (safe_pending soundAfter managed store)
      | ok updated =>
          obtain ⟨rfl, applied⟩ := carried updated rfl
          apply (soundAfter.ensures (MetricStore.absorbKnown_leaves _ _)).followed
          intro result final merged
          obtain ⟨⟨now, taken⟩, further⟩ := merged
          apply Ensures.bind
          apply ensures_ask
          intro _ last possible
          have counted := further.sound.step (by trivial) possible
          refine ⟨counted.sound, ensures_pure ?_⟩
          refine safe_settle counted.sound (by exact managed) rfl (fun here => ?_) result.2
          rw [taken]
          refine KnowsEnabled.steady ?_ (further.trans counted)
          exact (knowsStill here).update applied (fun name member => staged_subset _ member)

theorem ensures_submitUnknown (sound : Sound cid backend)
    (managed : controller.config.enableNewMetrics = true) {held : Bundle}
    (bound : controller.bundle = some held) {store : MetricStore}
    (knows : held.cid = cid → KnowsEnabled cid backend store) (collected : Collected) :
    Ensures (around cid) (Sound cid) (AfterSafe cid)
      (controller.submitUnknown store held.cid collected) backend := by
  rw [Controller.submitUnknown]
  split
  · exact ensures_pure (safe_settle sound managed bound knows true)
  · exact ensures_submit sound managed knows collected _

theorem Safe.enableNewMetrics (canonical : Cid.isCanonical .checkBundle cid = true)
    (safe : Safe cid controller backend) (collected : Collected) :
    Ensures (around cid) (Sound cid) (AfterSafe cid)
      (controller.enableNewMetrics collected) backend := by
  rw [Controller.enableNewMetrics]
  split
  · next held store _ bound kept =>
    have managed := safe.ready.managed store kept
    split
    · exact safe.seed canonical bound kept
    · apply Ensures.bind
      apply ensures_ask
      intro moment between possible
      have steady := safe.sound.step (by trivial) possible
      refine ⟨steady.sound, ?_⟩
      split
      · apply (steady.sound.ensures_refresh canonical store held.cid).followed
        intro result after refreshed
        obtain ⟨fresh, outcome⟩ := result
        match outcome with
        | .error fault => exact ensures_pure (safe.steady (steady.trans refreshed.1))
        | .ok false => exact ensures_pure (safe_of_store_eq_none refreshed.1.sound rfl)
        | .ok true =>
            exact ensures_submitUnknown refreshed.1.sound managed bound
              (refreshed.2 true rfl) collected
      · next current =>
        -- The store was refreshed once and no update is under way: it may be relied on.
        rw [MetricStore.needsRefreshAt, Bool.or_eq_true, not_or] at current
        have still : store.pendingUpdate = false := by
          simpa using current.1
        have fresh : store.lastRefresh ≠ none := by
          intro never
          rw [never] at current
          exact current.2 rfl
        exact ensures_submitUnknown steady.sound managed bound (fun here =>
          (safe.ready.current held store bound kept here still fresh).steady steady) collected
  · exact ensures_pure safe

/-- Every operation leaves the controller and the service safe, wherever it stops. -/
theorem Safe.operation (canonical : Cid.isCanonical .checkBundle cid = true)
    (safe : Safe cid controller backend) (operation : Controller.Operation) :
    Ensures (around cid) (Sound cid) (AfterSafe cid) (operation.program controller) backend := by
  cases operation with
  | start => exact safe.start
  | refresh => exact safe.refresh canonical
  | enable collected => exact safe.enableNewMetrics canonical collected

/-! ### Runs -/

/-- What can happen to a bundle and the agents that look after it one after the other. An agent
may be stopped anywhere in an operation; the next one starts with any configuration, and finds any
files. -/
inductive Reachable (cid : String) : Controller → Backend → Prop
  | begins (config : Config) {memory : Memory} (fetched : Bundle) (wellKept : memory.WellKept) :
      Reachable cid (.unbound config) ⟨memory, fetched, []⟩
  | operates {controller after : Controller} {backend final : Backend}
      {operation : Controller.Operation} {result : Except CheckFault Unit}
      (before : Reachable cid controller backend)
      (run : Yields (around cid) (operation.program controller) backend (result, after) final) :
      Reachable cid after final
  | replaced {controller : Controller} {backend final : Backend}
      {operation : Controller.Operation} {rest : Program (Controller.Outcome Unit)}
      (before : Reachable cid controller backend)
      (stopped : Leads (around cid) (operation.program controller) backend rest final)
      (config : Config) : Reachable cid (.unbound config) final
  | waits {controller : Controller} {backend : Backend} {memory : Memory}
      (before : Reachable cid controller backend) (edited : Edited cid backend.memory memory) :
      Reachable cid controller { backend with memory }

theorem Reachable.safe (canonical : Cid.isCanonical .checkBundle cid = true)
    (reachable : Reachable cid controller backend) : Safe cid controller backend := by
  induction reachable with
  | begins config fetched wellKept =>
      refine safe_unbound ⟨wellKept, ?_, ?_, List.Pairwise.nil⟩ config
      · intro submission member
        cases member
      · rintro name ⟨submission, member, -⟩
        cases member
  | operates before run ih => exact ((ih.operation canonical _).of_yields ih.sound run).2
  | replaced before stopped config ih =>
      exact safe_unbound ((ih.operation canonical _).holds ih.sound stopped).1 config
  | waits before edited ih => exact ih.steady (ih.sound.edited edited rfl)

/-- No name is staged in two updates of a bundle that were carried out; and each of these updates
submitted the copy that was fetched for it, with the metrics behind it that a store did not know. -/
theorem staged_at_most_once (canonical : Cid.isCanonical .checkBundle cid = true)
    (reachable : Reachable cid controller backend) :
    backend.applied.Pairwise (fun earlier later =>
      earlier.submitted.cid = cid → later.submitted.cid = cid →
        ∀ name ∈ earlier.staged, name ∉ later.staged) ∧
    ∀ submission ∈ backend.applied, ∃ (store : MetricStore) (collected : Collected)
      (status : String), submission.submitted = { submission.fetched with
        metrics := submission.fetched.metrics ++ store.unknownMetrics collected status } :=
  have sound := (reachable.safe canonical).sound
  ⟨sound.apart, sound.traced⟩

/-- A run against a service that makes no choices is one of the things that can happen. -/
theorem Reachable.run (reachable : Reachable cid controller backend)
    {answer : Backend → (effect : Effect) → effect.Answer × Backend}
    (allowed : ∀ state effect, around cid state effect (answer state effect).1
      (answer state effect).2)
    (operation : Controller.Operation) :
    Reachable cid (Program.run answer (operation.program controller) backend).1.2
      (Program.run answer (operation.program controller) backend).2 :=
  .operates reachable (yields_run id allowed (operation.program controller) backend)

/-- A service that loses the answer to the first update, beside files that can be written to and
are never there. -/
def losingFirst (backend : Backend) : (effect : Effect) → effect.Answer × Backend
  | .call (.update submitted) =>
      (if backend.applied.isEmpty then .error (.http "connection reset")
        else (backend.memory.answer (.update submitted)).1,
        backend.carryOut (.update submitted))
  | .call call => ((backend.memory.answer call).1, backend.carryOut call)
  | .storage (.inspect _) => (.ok .directory, backend)
  | .storage (.read _) => (.error .notFound, backend)
  | .storage (.openEmpty _) => (.ok (), backend)
  | .storage (.append _ _) => (.ok (), backend)
  | .storage (.sync _) => (.ok (), backend)
  | .storage (.rename _ _) => (.ok (), backend)
  | .storage (.remove _) => (.ok (), backend)
  | .clock => (0, backend)
  | .probe _ _ _ => (none, backend)
  | .connect _ _ => (.refused, backend)
  | .sleep _ => ((), backend)
  | .choose _ => (⟨0, Nat.succ_pos _⟩, backend)
  | .listen _ => (true, backend)
  | .count _ _ => ((), backend)

theorem around_losingFirst (backend : Backend) (effect : Effect) :
    around cid backend effect (losingFirst backend effect).1 (losingFirst backend effect).2 := by
  have still : Edited cid backend.memory backend.memory := Edited.refl cid backend.memory
  cases effect with
  | call call =>
      refine ⟨backend.memory, still, ?_⟩
      cases call with
      | update submitted =>
          by_cases first : backend.applied.isEmpty = true
          · simp only [losingFirst, first, if_true]
            exact Serves.lost submitted _
          · simp only [losingFirst, first]
            exact Serves.answered (.update submitted)
      | _ => exact Serves.answered _
  | storage operation => cases operation <;> exact ⟨backend.memory, still, rfl⟩
  | _ => exact ⟨backend.memory, still, rfl⟩

/-- Where the answer to an update with one metric was lost, the next update adds only another. -/
theorem staged_at_most_once_after_loss :
    ∃ controller backend, Reachable "/check_bundle/1" controller backend ∧
      backend.applied.map Submission.staged = [["load"], ["users"]] ∧
      backend.applied.Pairwise (fun earlier later =>
        earlier.submitted.cid = "/check_bundle/1" → later.submitted.cid = "/check_bundle/1" →
          ∀ name ∈ earlier.staged, name ∉ later.staged) := by
  let bundle : Bundle :=
    { Bundle.blank with cid := "/check_bundle/1", status := Bundle.activeStatus }
  let config : Config := { Config.standard with
    bundleId := some "1", enableNewMetrics := true, stateDir := some "state" }
  have wellKept : (Memory.fresh.insertBundle bundle).WellKept :=
    Memory.wellKept_fresh.insertBundle (by decide +kernel)
  have begun : Reachable "/check_bundle/1" (.unbound config) ⟨_, Bundle.blank, []⟩ :=
    .begins config Bundle.blank wellKept
  have started := begun.run around_losingFirst .start
  have seeded := started.run around_losingFirst (.enable [])
  have lost := seeded.run around_losingFirst (.enable [("load", .text "0.1")])
  have seen := lost.run around_losingFirst
    (.enable [("load", .text "0.1"), ("users", .text "3")])
  refine ⟨_, _, seen, by decide +kernel, ?_⟩
  exact (staged_at_most_once (by decide +kernel) seen).1

end CheckBinding.AtMostOnce
