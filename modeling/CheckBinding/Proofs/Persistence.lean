import CheckBinding.Proofs.Operations
import CheckBinding.Proofs.StateFiles
import CheckBinding.Proofs.Storage.Disks

/-!
The state file agrees with the store of a managing controller.

The files are changed by the requests of the controller and by others. Others may do anything that
leaves the state file readable as it was, and its draft while that is being written. The disk may
refuse requests, but an opened draft takes what is written to it. The service, the clock and the
nodes answer at will.
-/

namespace CheckBinding.Persistence

open Program Storage Storage.FileSystem Storage.Path StateFile

/-! ### The surroundings -/

/-- Others leave what can be read in a file of a directory as it is. -/
def LeftAlone (name : String) (directory : Option String) (before after : FileSystem) : Prop :=
  ∀ here, directory = some here → ∀ content,
    before.read (join here name) = .ok content → after.read (join here name) = .ok content

/-- A request that goes on with a file that was opened: a draft is still to become the state
file. -/
def Continues : Operation → Prop
  | .append _ _ => True
  | .sync _ => True
  | .rename _ _ => True
  | _ => False

/-- Surroundings that act on files: others have their turn, and then the disk. All else gets any
answer. -/
def among (directory : Option String) (disk : Disk) : Surroundings FileSystem :=
  fun before effect =>
    match effect with
    | .storage operation => fun reply after =>
        ∃ between, LeftAlone fileName directory before between ∧
          (Continues operation → LeftAlone draftName directory before between) ∧
          disk.Acts between after operation reply
    | _ => fun _ after => LeftAlone fileName directory before after

variable {directory : Option String} {disk : Disk} {files : FileSystem}

/-- Looking at things keeps what others keep. -/
theorem ensures_looks {Result : Type} {program : Program Result} {keeps : FileSystem → Prop}
    (alone : ∀ before after, keeps before → LeftAlone fileName directory before after →
      keeps after)
    (looks : Looks program) (kept : keeps files) :
    Ensures (among directory disk) (fun _ => True) (fun _ after => keeps after) program
      files := by
  have step : ∀ effect, Effect.Looks effect → ∀ before reply after,
      keeps before → among directory disk before effect reply after → keeps after := by
    intro effect permitted before reply after kept possible
    cases effect with
    | storage operation => cases permitted
    | _ => exact alone before after kept possible
  exact (looks.ensures step (fun _ _ => trivial) kept).mono (fun _ _ both => both.2)

theorem ensures_storage {operation : Operation}
    {post : Except Storage.Fault operation.Result → FileSystem → Prop}
    (each : ∀ between, LeftAlone fileName directory files between →
      (Continues operation → LeftAlone draftName directory files between) →
        ∀ reply after, disk.Acts between after operation reply → post reply after) :
    Ensures (among directory disk) (fun _ => True) post (Program.storage operation) files := by
  refine ensures_ask (fun reply after possible => ⟨trivial, ?_⟩)
  obtain ⟨between, alone, spared, acts⟩ := possible
  exact each between alone spared reply after acts

theorem ensures_openEmpty (path : String) :
    Ensures (among directory disk) (fun _ => True)
      (fun reply after => reply = .ok () → after.read path = .ok ByteArray.empty)
      (Program.storage (.openEmpty path)) files := by
  apply ensures_storage
  intro between _ _ reply after acts succeeded
  cases acts with
  | done performed =>
      subst succeeded
      exact read_openEmpty (settle_ok.mp performed)
  | refused => cases succeeded

section Draft

variable {here : String} (place : directory = some here) {content : ByteArray}
  (draft : files.read (join here draftName) = .ok content)

include place draft

theorem ensures_append (takes : disk.TakesWrites) (bytes : ByteArray) :
    Ensures (among directory disk) (fun _ => True)
      (fun reply after => reply = .ok () →
        after.read (join here draftName) = .ok (content ++ bytes))
      (Program.storage (.append (join here draftName) bytes)) files := by
  apply ensures_storage
  intro between _ spared reply after acts succeeded
  exact read_append (acts.appended takes succeeded) (spared trivial here place content draft)

theorem ensures_sync (path : String) :
    Ensures (among directory disk) (fun _ => True)
      (fun _ after => after.read (join here draftName) = .ok content)
      (Program.storage (.sync path)) files := by
  apply ensures_storage
  intro between _ spared reply after acts
  have kept := spared trivial here place content draft
  cases acts with
  | done performed =>
      cases performed
      exact kept
  | refused refuses failed =>
      cases failed
      exact kept

theorem ensures_rename :
    Ensures (among directory disk) (fun _ => True)
      (fun reply after => reply = .ok () → after.read (join here fileName) = .ok content)
      (Program.storage (.rename (join here draftName) (join here fileName))) files := by
  apply ensures_storage
  intro between _ spared reply after acts succeeded
  cases acts with
  | done performed =>
      subst succeeded
      exact read_rename (settle_ok.mp performed) (spared trivial here place content draft)
  | refused => cases succeeded

end Draft

/-! ### The state file -/

def Holds (path : String) (states : States) (files : FileSystem) : Prop :=
  ∃ content, files.read path = .ok content ∧ ofBytes content = .ok states

/-- After a save that succeeds the file holds the state. -/
theorem ensures_save (takes : disk.TakesWrites) {here : String} (place : directory = some here)
    (states : States) :
    Ensures (among directory disk) (fun _ => True)
      (fun result after => result = .ok () → Holds (join here fileName) states after)
      (save (join here fileName) states) files := by
  rw [save, draftPath_join_fileName]
  -- Each request that succeeds tells what the draft holds; the last one makes it the state file.
  apply (ensures_openEmpty _).followed
  intro reply opened draft
  cases reply with
  | error fault => exact ensures_pure (fun succeeded => by cases succeeded)
  | ok _ =>
      apply (ensures_append place (draft rfl) takes _).followed
      intro reply written filled
      cases reply with
      | error fault => exact ensures_pure (fun succeeded => by cases succeeded)
      | ok _ =>
          apply (ensures_sync place (filled rfl) _).followed
          intro reply synced kept
          cases reply with
          | error fault => exact ensures_pure (fun succeeded => by cases succeeded)
          | ok _ =>
              apply (ensures_rename place kept).followed
              intro reply moved there
              cases reply with
              | error fault => exact ensures_pure (fun succeeded => by cases succeeded)
              | ok _ =>
                  refine ensures_pure (fun _ => ⟨_, there rfl, ?_⟩)
                  rw [ByteArray.empty_append, ofBytes_bytes]

theorem ensures_load (path : String) :
    Ensures (among directory disk) (fun _ => True)
      (fun result after => ∀ states, result = .ok (some states) → Holds path states after)
      (load path) files := by
  rw [load]
  have read : Ensures (among directory disk) (fun _ => True)
      (fun reply after => ∀ content, reply = .ok content → after.read path = .ok content)
      (Program.storage (.read path)) files := by
    apply ensures_storage
    intro between _ _ reply after acts content succeeded
    cases acts with
    | done performed =>
        subst succeeded
        obtain ⟨rfl, stored⟩ := Prod.mk.inj (show (between, between.read path) = _ from performed)
        exact stored
    | refused => cases succeeded
  apply read.followed
  intro reply after stored
  split
  · exact ensures_pure (fun states loaded => by cases loaded)
  · exact ensures_pure (fun states loaded => by cases loaded)
  · next content =>
    split
    · next states decoded =>
      apply ensures_pure
      intro known loaded
      cases loaded
      exact ⟨content, stored content rfl, decoded⟩
    · exact ensures_pure (fun states loaded => by cases loaded)

theorem Holds.leftAlone {here : String} (place : directory = some here) {states : States}
    {after : FileSystem} (holds : Holds (join here fileName) states files)
    (alone : LeftAlone fileName directory files after) :
    Holds (join here fileName) states after := by
  obtain ⟨content, stored, decoded⟩ := holds
  exact ⟨content, alone here place content stored, decoded⟩

/-! ### The store -/

/-- A store keeps its state in the file of the configured directory, and the file holds it. -/
def Stored (directory : Option String) (store : MetricStore) (files : FileSystem) : Prop :=
  ∃ here, directory = some here ∧ store.path = join here fileName ∧
    ∀ states, store.states = some states → Holds store.path states files

theorem Stored.leftAlone {store : MetricStore} {after : FileSystem}
    (stored : Stored directory store files) (alone : LeftAlone fileName directory files after) :
    Stored directory store after := by
  obtain ⟨here, place, path, holds⟩ := stored
  refine ⟨here, place, path, fun states known => ?_⟩
  rw [path] at holds ⊢
  exact (holds states known).leftAlone place alone

/-- A store that is written agrees with its file. -/
theorem ensures_persist (takes : disk.TakesWrites) {store : MetricStore} {here : String}
    (place : directory = some here) (path : store.path = join here fileName) :
    Ensures (among directory disk) (fun _ => True)
      (fun persisted after => persisted = true → Stored directory store after)
      store.persist files := by
  rw [MetricStore.persist]
  split
  · next none =>
    refine ensures_pure (fun _ => ⟨here, place, path, fun states known => ?_⟩)
    rw [none] at known
    cases known
  · next states known =>
    rw [path]
    apply (ensures_save takes place states).followed
    intro result after saved
    cases result with
    | error fault => exact ensures_pure (fun persisted => by cases persisted)
    | ok _ =>
        refine ensures_pure (fun _ => ⟨here, place, path, fun other knownToo => ?_⟩)
        cases known.symm.trans knownToo
        rw [path]
        exact saved rfl

/-- Definitions that are taken into a store are in its file, if it could be written. -/
theorem ensures_absorbKnown (takes : disk.TakesWrites) {store : MetricStore} {here : String}
    (place : directory = some here) (path : store.path = join here fileName)
    (metrics : List MetricDefinition) :
    Ensures (among directory disk) (fun _ => True)
      (fun result after => result.2 = true → Stored directory result.1 after)
      (store.absorbKnown metrics) files := by
  rw [MetricStore.absorbKnown]
  apply (Ensures.trivial Program.clock files).followed
  intro moment after _
  have written :=
    @ensures_persist directory disk after takes (store.merge metrics moment) here place path
  exact written.followed (fun persisted final stored => ensures_pure stored)

/-- A refresh that fails leaves the store as it was stored; one that succeeds and could write has
stored the new one. -/
theorem Stored.ensures_refresh {store : MetricStore} (stored : Stored directory store files)
    (takes : disk.TakesWrites) (cid : String) :
    Ensures (among directory disk) (fun _ => True)
      (fun result after => (∀ fault, result.2 = .error fault → Stored directory store after) ∧
        ∀ persisted, result.2 = .ok persisted → persisted = true →
          Stored directory result.1 after)
      (store.refreshFromRemote cid none) files := by
  rw [MetricStore.refreshFromRemote]
  have fetched : Ensures (among directory disk) (fun _ => True)
      (fun _ after => Stored directory store after) (MetricStore.fetchRoster cid) files :=
    ensures_looks (fun _ _ kept alone => kept.leftAlone alone)
      (MetricStore.fetchRoster_looks cid) stored
  apply fetched.followed
  intro answer after kept
  obtain ⟨here, place, path, -⟩ := stored
  cases answer with
  | error fault => exact ensures_pure ⟨fun _ _ => kept, fun _ succeeded => by cases succeeded⟩
  | ok metrics =>
      apply (ensures_absorbKnown takes place path metrics).followed
      intro result after written
      refine ensures_pure ⟨fun fault failed => (by cases failed), fun persisted arrived => ?_⟩
      cases arrived
      exact written

/-! ### The controller -/

structure Agrees (config : Config) (controller : Controller) (files : FileSystem) : Prop where
  configured : controller.config = config
  stored : ∀ store, controller.store = some store → Stored config.stateDir store files

variable {config : Config} {controller : Controller}

theorem Agrees.leftAlone {after : FileSystem} (agrees : Agrees config controller files)
    (alone : LeftAlone fileName config.stateDir files after) : Agrees config controller after :=
  ⟨agrees.configured, fun store held => (agrees.stored store held).leftAlone alone⟩

theorem Agrees.bind (agrees : Agrees config controller files) (bundle : Bundle) :
    Agrees config (controller.bind bundle) files :=
  ⟨agrees.configured, agrees.stored⟩

theorem agrees_stopManaging (configured : controller.config = config) :
    Agrees config controller.stopManaging files :=
  ⟨configured, fun store held => by cases held⟩

theorem agrees_of_stored (configured : controller.config = config) {store : MetricStore}
    (held : controller.store = some store) (stored : Stored config.stateDir store files) :
    Agrees config controller files := by
  refine ⟨configured, fun other same => ?_⟩
  cases held.symm.trans same
  exact stored

theorem agrees_settle (configured : controller.config = config) {store : MetricStore}
    {persisted : Bool} (stored : persisted = true → Stored config.stateDir store files) :
    Agrees config (controller.settleStore store persisted) files := by
  cases persisted with
  | true => exact agrees_of_stored configured rfl (stored rfl)
  | false => exact agrees_stopManaging configured

theorem Agrees.looks {Result : Type} {program : Program Result} (looks : Looks program)
    (agrees : Agrees config controller files) :
    Ensures (among config.stateDir disk) (fun _ => True)
      (fun _ after => Agrees config controller after) program files :=
  ensures_looks (fun _ _ kept alone => kept.leftAlone alone) looks agrees

theorem Agrees.asks (agrees : Agrees config controller files) (activity : Activity)
    (call : Api.Call) :
    Ensures (among config.stateDir disk) (fun _ => True)
      (fun _ after => Agrees config controller after) (Resolution.ask activity call) files := by
  rw [Resolution.ask]
  apply Ensures.bind
  apply ensures_ask
  intro reply after alone
  refine ⟨trivial, ?_⟩
  exact ensures_pure (agrees.leftAlone alone)

abbrev AfterAgrees (config : Config) (outcome : Controller.Outcome Unit) (after : FileSystem) :
    Prop :=
  Agrees config outcome.2 after

theorem ensures_prepareStore :
    Ensures (among config.stateDir disk) (fun _ => True)
      (fun prepared after => ∀ store, prepared = some store → Stored config.stateDir store after)
      (Controller.prepareStore config) files := by
  rw [Controller.prepareStore]
  split
  · exact ensures_pure (fun store prepared => by cases prepared)
  · next here place =>
    apply (Ensures.trivial (verify here) files).followed
    intro usable after _
    cases usable with
    | error fault => exact ensures_pure (fun store prepared => by cases prepared)
    | ok _ =>
        rw [MetricStore.load]
        apply Ensures.bind
        apply (ensures_load (join here fileName)).followed
        intro loaded final holds
        have empty : Stored config.stateDir
            (MetricStore.inDirectory here config.metricRefreshTtl) final := by
          refine ⟨here, place, rfl, fun states known => ?_⟩
          cases known
        split
        · next states =>
          refine ensures_pure (ensures_pure (fun store prepared => ?_))
          cases prepared
          refine ⟨here, place, rfl, fun known same => ?_⟩
          cases same
          exact holds states rfl
        · refine ensures_pure (ensures_pure (fun store prepared => ?_))
          cases prepared
          exact empty
        · refine ensures_pure (ensures_pure (fun store prepared => ?_))
          cases prepared
          exact empty

theorem Agrees.start (agrees : Agrees config controller files) :
    Ensures (among config.stateDir disk) (fun _ => True) (AfterAgrees config) controller.start
      files := by
  rw [Controller.start]
  split
  · exact ensures_pure agrees
  · apply (agrees.looks (Resolution.resolve_looks controller.config)).followed
    intro resolved after kept
    cases resolved with
    | error fault => exact ensures_pure kept
    | ok bundle =>
        dsimp only
        split
        · rw [agrees.configured]
          apply ensures_prepareStore.followed
          intro prepared final stored
          exact ensures_pure ⟨rfl, stored⟩
        · exact ensures_pure (kept.bind bundle)

/-- Bringing the store up to date changes the controller only when it succeeds. -/
theorem Agrees.refreshStore (agrees : Agrees config controller files) (takes : disk.TakesWrites)
    (cid : String) :
    Ensures (among config.stateDir disk) (fun _ => True)
      (fun outcome after => AfterAgrees config outcome after ∧
        ∀ fault, outcome.1 = .error fault → outcome.2 = controller)
      (controller.refreshStore cid) files := by
  rw [Controller.refreshStore]
  split
  · exact ensures_pure ⟨agrees, fun _ _ => rfl⟩
  · split
    · exact ensures_pure ⟨agrees, fun _ _ => rfl⟩
    · next store held =>
      apply ((agrees.stored store held).ensures_refresh takes cid).followed
      intro result after refreshed
      obtain ⟨fresh, outcome⟩ := result
      cases outcome with
      | error fault =>
          have kept := agrees_of_stored agrees.configured held (refreshed.1 fault rfl)
          exact ensures_pure ⟨kept, fun _ _ => rfl⟩
      | ok persisted =>
          have settled := agrees_settle agrees.configured (refreshed.2 persisted rfl)
          exact ensures_pure ⟨settled, fun fault failed => by cases failed⟩

theorem Agrees.refresh (agrees : Agrees config controller files) (takes : disk.TakesWrites) :
    Ensures (among config.stateDir disk) (fun _ => True) (AfterAgrees config) controller.refresh
      files := by
  rw [Controller.refresh]
  split
  · exact ensures_pure agrees
  · next held _ =>
    apply (agrees.asks _ _).followed
    intro fetched after kept
    split
    · exact ensures_pure kept
    · next bundle _ =>
      apply (kept.refreshStore takes held.cid).followed
      intro outcome final agreed
      obtain ⟨result, next⟩ := outcome
      cases result with
      | error fault =>
          cases agreed.2 fault rfl
          exact ensures_pure agreed.1
      | ok _ => exact ensures_pure (agreed.1.bind bundle)

theorem Agrees.seed (agrees : Agrees config controller files) (takes : disk.TakesWrites)
    {store : MetricStore} (held : controller.store = some store) (cid : String) :
    Ensures (among config.stateDir disk) (fun _ => True) (AfterAgrees config)
      (controller.seed store cid) files := by
  rw [Controller.seed]
  apply ((agrees.stored store held).ensures_refresh takes cid).followed
  intro result after refreshed
  obtain ⟨fresh, outcome⟩ := result
  cases outcome with
  | error fault =>
      exact ensures_pure (agrees_of_stored agrees.configured held (refreshed.1 fault rfl))
  | ok persisted =>
      exact ensures_pure (agrees_settle agrees.configured (refreshed.2 persisted rfl))

/-- Submitting notes the update in the store only, whose states are those in the file. -/
theorem ensures_submit (takes : disk.TakesWrites) (configured : controller.config = config)
    {store : MetricStore} (stored : Stored config.stateDir store files) (cid : String)
    (added : List MetricDefinition) :
    Ensures (among config.stateDir disk) (fun _ => True) (AfterAgrees config)
      (controller.submit store cid added) files := by
  have pending : Agrees config { controller with store := some store.markPending } files :=
    agrees_of_stored configured rfl stored
  rw [Controller.submit]
  apply (pending.asks _ _).followed
  intro fetched after kept
  cases fetched with
  | error fault => exact ensures_pure kept
  | ok fresh =>
      apply (kept.asks _ _).followed
      intro answered between keptToo
      cases answered with
      | error fault => exact ensures_pure keptToo
      | ok updated =>
          obtain ⟨here, place, path, -⟩ := stored
          apply (ensures_absorbKnown takes place path updated.metrics).followed
          intro result final written
          apply Ensures.bind
          apply ensures_ask
          intro _ last alone
          refine ⟨trivial, ?_⟩
          refine ensures_pure (agrees_settle (by exact configured) (fun persisted => ?_))
          exact (written persisted).leftAlone alone

theorem ensures_submitUnknown (takes : disk.TakesWrites)
    (configured : controller.config = config) {store : MetricStore}
    (stored : Stored config.stateDir store files) (cid : String) (collected : Collected) :
    Ensures (among config.stateDir disk) (fun _ => True) (AfterAgrees config)
      (controller.submitUnknown store cid collected) files := by
  rw [Controller.submitUnknown]
  split
  · exact ensures_pure (agrees_of_stored configured rfl stored)
  · exact ensures_submit takes configured stored cid _

theorem Agrees.enableNewMetrics (agrees : Agrees config controller files)
    (takes : disk.TakesWrites) (collected : Collected) :
    Ensures (among config.stateDir disk) (fun _ => True) (AfterAgrees config)
      (controller.enableNewMetrics collected) files := by
  rw [Controller.enableNewMetrics]
  split
  · next bound store _ _ held =>
    split
    · exact agrees.seed takes held bound.cid
    · have clocked : Looks Program.clock := only_ask trivial
      apply (agrees.looks clocked).followed
      intro moment after kept
      split
      · apply ((kept.stored store held).ensures_refresh takes bound.cid).followed
        intro result final refreshed
        obtain ⟨fresh, outcome⟩ := result
        match outcome with
        | .error fault =>
            exact ensures_pure (agrees_of_stored agrees.configured held (refreshed.1 fault rfl))
        | .ok false => exact ensures_pure (agrees_stopManaging agrees.configured)
        | .ok true =>
            exact ensures_submitUnknown takes agrees.configured (refreshed.2 true rfl rfl) bound.cid
              collected
      · exact ensures_submitUnknown takes agrees.configured (kept.stored store held) bound.cid
          collected
  · exact ensures_pure agrees

/-- Every operation leaves the controller in agreement with its file. -/
theorem Agrees.operation (agrees : Agrees config controller files) (takes : disk.TakesWrites)
    (operation : Controller.Operation) :
    Ensures (among config.stateDir disk) (fun _ => True) (AfterAgrees config)
      (operation.program controller) files := by
  cases operation with
  | start => exact agrees.start
  | refresh => exact agrees.refresh takes
  | enable collected => exact agrees.enableNewMetrics takes collected

/-! ### Runs -/

/-- The states that a controller and the files on a disk can be in: any files at first, then
operations with any answers in any order, and others in between. -/
inductive Reachable (disk : Disk) (config : Config) : Controller → FileSystem → Prop
  | begins (files : FileSystem) : Reachable disk config (.unbound config) files
  | operates {controller after : Controller} {files final : FileSystem}
      {operation : Controller.Operation} {result : Except CheckFault Unit}
      (before : Reachable disk config controller files)
      (run : Yields (among config.stateDir disk) (operation.program controller) files
        (result, after) final) : Reachable disk config after final
  | waits {controller : Controller} {files after : FileSystem}
      (before : Reachable disk config controller files)
      (alone : LeftAlone fileName config.stateDir files after) :
      Reachable disk config controller after

theorem Reachable.agrees (takes : disk.TakesWrites)
    (reachable : Reachable disk config controller files) : Agrees config controller files := by
  induction reachable with
  | begins files => exact ⟨rfl, fun store held => by cases held⟩
  | operates before run ih => exact ((ih.operation takes _).of_yields trivial run).2
  | waits before alone ih => exact ih.leftAlone alone

/-! ### Restarts -/

theorem settle_touches {path : String} {before : FileSystem}
    {changed : Except Storage.Fault FileSystem}
    (touches : ∀ after, changed = .ok after → Touches path before after) :
    Touches path before (perform.settle before changed).1 := by
  cases changed with
  | error fault => exact Touches.refl path before
  | ok after => exact touches after rfl

/-- Checking the directory leaves the state file as it is. -/
theorem Holds.checks {here : String} (place : directory = some here) {states : States}
    (holds : Holds (join here fileName) states files) :
    Ensures (among directory .sound) (fun _ => True)
      (fun _ after => Holds (join here fileName) states after) (verify here) files := by
  have apart : Apart (join here probeName) (join here fileName) :=
    apart_join probeName_plain fileName_plain (by decide)
  have beside : ∀ before after, Touches (join here probeName) before after →
      Holds (join here fileName) states before → Holds (join here fileName) states after := by
    rintro before after touches ⟨content, stored, decoded⟩
    exact ⟨content, touches.read_apart apart stored, decoded⟩
  have step : ∀ effect, Checks here effect → ∀ before reply after,
      Holds (join here fileName) states before →
      among directory .sound before effect reply after →
      Holds (join here fileName) states after := by
    intro effect permitted before reply after kept possible
    cases effect with
    | storage operation =>
        obtain ⟨between, alone, -, acts⟩ := possible
        -- A check writes to the probing file only, and that stands apart from the state file.
        have still := kept.leftAlone place alone
        cases acts with
        | refused refuses => exact refuses.elim
        | lost loses => exact loses.elim
        | done performed =>
            have moved : after = (between.perform operation).1 := (congrArg Prod.fst performed).symm
            rw [moved]
            cases operation with
            | inspect path => exact still
            | openEmpty path =>
                cases permitted
                exact beside _ _ (settle_touches (fun _ => openEmpty_touches)) still
            | append path bytes =>
                cases permitted
                exact beside _ _ (settle_touches (fun _ => append_touches)) still
            | remove path =>
                cases permitted
                exact beside _ _ (settle_touches (fun _ => remove_touches)) still
            | read path => cases permitted
            | sync path => cases permitted
            | rename source target => cases permitted
    | _ => cases permitted
  exact ((verify_checks here).ensures step (fun _ _ => trivial) holds).mono
    (fun _ _ both => both.2)

theorem Holds.load {here : String} (place : directory = some here) {states : States}
    (holds : Holds (join here fileName) states files) :
    Ensures (among directory .sound) (fun _ => True) (fun result _ => result = .ok (some states))
      (StateFile.load (join here fileName)) files := by
  rw [StateFile.load]
  refine Ensures.bind (ensures_storage (fun between alone _ reply after acts => ?_))
  cases acts with
  | refused refuses => exact refuses.elim
  | done performed =>
      obtain ⟨content, stored, decoded⟩ := holds.leftAlone place alone
      obtain ⟨rfl, rfl⟩ := Prod.mk.inj (show (between, between.read _) = _ from performed)
      rw [stored]
      simp only [decoded]
      exact ensures_pure rfl

/-- Where no request fails, a restarted controller that has a store knows what the file holds. -/
theorem Holds.restart {here : String} (place : config.stateDir = some here) {states : States}
    (holds : Holds (join here fileName) states files) :
    Ensures (among config.stateDir .sound) (fun _ => True)
      (fun outcome _ => ∀ store, outcome.2.store = some store → store.states = some states)
      (Controller.unbound config).start files := by
  have prepared : ∀ after, Holds (join here fileName) states after →
      Ensures (among config.stateDir .sound) (fun _ => True)
        (fun prepared _ => ∀ store, prepared = some store → store.states = some states)
        (Controller.prepareStore config) after := by
    intro after kept
    rw [Controller.prepareStore, place]
    apply (kept.checks rfl).followed
    intro usable between still
    cases usable with
    | error fault => exact ensures_pure (fun store prepared => by cases prepared)
    | ok _ =>
        rw [MetricStore.load]
        apply Ensures.bind
        apply (still.load rfl).followed
        intro loaded final known
        rw [known]
        refine ensures_pure (ensures_pure (fun store prepared => ?_))
        cases prepared
        rfl
  rw [Controller.start]
  split
  · exact ensures_pure (fun store none => by cases none)
  · have resolving := @ensures_looks config.stateDir .sound files _ _ _
      (fun _ _ kept alone => kept.leftAlone place alone) (Resolution.resolve_looks config) holds
    apply resolving.followed
    intro resolved after kept
    cases resolved with
    | error fault => exact ensures_pure (fun store none => by cases none)
    | ok bundle =>
        dsimp only
        split
        · exact (prepared after kept).followed (fun _ _ same => ensures_pure same)
        · exact ensures_pure (fun store none => by cases none)

theorem among_world {Service : Type}
    (serve : Service → (call : Api.Call) → call.Answer × Service) (world : World Service)
    (effect : Effect) :
    among directory .sound world.files effect (world.answer serve effect).1
      (world.answer serve effect).2.files := by
  have still : ∀ name, LeftAlone name directory world.files world.files :=
    fun _ _ _ _ stored => stored
  cases effect with
  | storage operation => exact ⟨world.files, still fileName, fun _ => still draftName, .done rfl⟩
  | _ => exact still fileName

/-- Where an opened draft takes what is written to it, the file of a store that knows a state is
loaded as that state in every reachable state, and a restarted controller that has a store knows just
that state. -/
theorem load_agrees (takes : disk.TakesWrites) (reachable : Reachable disk config controller files)
    {store : MetricStore} {states : States} (held : controller.store = some store)
    (known : store.states = some states)
    {Service : Type} (serve : Service → (call : Api.Call) → call.Answer × Service)
    (world : World Service) (now : world.files = files) :
    (world.run serve (load store.path)).1 = .ok (some states) ∧
      ∀ restarted, (world.run serve (Controller.unbound config).start).1.2.store = some restarted →
        restarted.states = some states := by
  subst now
  obtain ⟨here, place, path, holds⟩ := (reachable.agrees takes).stored store held
  rw [path] at holds ⊢
  have loaded := (holds states known).load place
  have restart := (holds states known).restart place
  have runs := fun {Result : Type} (program : Program Result) =>
    yields_run World.files (@among_world config.stateDir _ serve) program world
  exact ⟨(loaded.of_yields trivial (runs _)).2, (restart.of_yields trivial (runs _)).2⟩

theorem among_of_sound {before after : FileSystem} {effect : Effect} {reply : effect.Answer}
    (possible : among directory .sound before effect reply after) :
    among directory disk before effect reply after := by
  cases effect with
  | storage operation =>
      obtain ⟨between, alone, spared, acts⟩ := possible
      exact ⟨between, alone, spared, acts.of_sound⟩
  | _ => exact possible

/-- What a world does with a controller is one of the things that may happen to it. -/
theorem Reachable.run {Service : Type} {world : World Service}
    (reachable : Reachable disk config controller world.files)
    (serve : Service → (call : Api.Call) → call.Answer × Service)
    (operation : Controller.Operation) :
    Reachable disk config (world.run serve (operation.program controller)).1.2
      (world.run serve (operation.program controller)).2.files :=
  .operates reachable (yields_run World.files
    (fun world effect => among_of_sound (among_world serve world effect))
    (operation.program controller) world)

/-- A state file with one metric, after a start and an enabling of another one. -/
theorem load_agrees_enabled :
    let world := World.quiet
      (Api.Memory.fresh.insertBundle
        { Bundle.blank with cid := "/check_bundle/1", status := Bundle.activeStatus })
      ⟨[(["state"], .directory),
        (["state", "metrics.json"], .file (bytes (NameMap.ofList [("cpu", "active")])))], []⟩
    let config := { Config.standard with
      bundleId := some "1", enableNewMetrics := true, stateDir := some "/state" }
    let started := world.run Api.Memory.answer (Controller.unbound config).start
    let enabled := started.2.run Api.Memory.answer
      (started.1.2.enableNewMetrics [("load", .text "0.1")])
    (enabled.2.run Api.Memory.answer (load "/state/metrics.json")).1 =
      .ok (some (NameMap.ofList [("cpu", "active"), ("load", "active")])) := by
  intro world config started enabled
  have takes : Disk.TakesWrites ⟨True, False⟩ := id
  have first : Reachable ⟨True, False⟩ config started.1.2 started.2.files :=
    (Reachable.begins world.files).run Api.Memory.answer .start
  have second : Reachable ⟨True, False⟩ config enabled.1.2 enabled.2.files :=
    first.run Api.Memory.answer (.enable [("load", .text "0.1")])
  have held : enabled.1.2.store = some
      ⟨"/state/metrics.json", some (NameMap.ofList [("cpu", "active"), ("load", "active")]),
        some 3000, config.metricRefreshTtl, false⟩ := by
    decide +kernel
  exact (load_agrees takes second held rfl Api.Memory.answer enabled.2 rfl).1

end CheckBinding.Persistence
