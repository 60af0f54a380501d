import CheckBinding.Agent.Controller
import CheckBinding.Proofs.Selection

/-!
The operations that change a controller, and what the programs below them ask for.

Resolving a bundle asks the service and probes brokers; it touches no file and updates no bundle.
The programs that deal with the store touch files, and update no bundle either.
-/

namespace CheckBinding

/-! ### Looking -/

/-- An effect that neither reaches the files nor updates a bundle. -/
def Effect.Looks : Effect → Prop
  | .storage _ => False
  | .call (.update _) => False
  | _ => True

open Program

abbrev Program.Looks {Result : Type} (program : Program Result) : Prop :=
  Only Effect.Looks program

def Effect.Probes : Effect → Prop
  | .probe _ _ _ => True
  | .choose _ => True
  | .count (.probeFailures _) _ => True
  | _ => False

theorem Program.Confined.looks {Result : Type} {post : Result → Prop} {program : Program Result}
    (probes : Confined Effect.Probes post program) : Looks program := by
  refine (probes.mono (fun _ _ => trivial)).allow (fun effect permitted => ?_)
  cases effect with
  | storage operation => exact permitted
  | call call => exact permitted.elim
  | _ => trivial

namespace Selection

variable {effort : Effort} {checkType : String}

theorem latencyAmong_probes (cid : String) (nodes : List BrokerNode) :
    Only Effect.Probes (latencyAmong effort checkType cid nodes) := by
  induction nodes with
  | nil => exact only_pure none
  | cons node nodes ih =>
      rw [latencyAmong]
      split
      · split
        · exact ih
        · apply Only.bind (only_ask trivial)
          intro answer
          cases answer with
          | some latency => exact only_pure (some latency)
          | none => exact Only.bind (only_ask trivial) (fun _ => ih)
      · exact ih

theorem mem_enter {race : Race} {broker leader : Broker} {latency : Option Duration}
    (member : leader ∈ (race.enter broker latency).leaders) :
    leader ∈ race.leaders ∨ leader = broker := by
  cases latency with
  | none => exact Or.inl member
  | some span =>
      rw [Race.enter] at member
      split at member
      · exact Or.inr (List.mem_singleton.mp member)
      · split at member
        · have either := List.mem_append.mp member
          exact either.imp id List.mem_singleton.mp
        · exact Or.inl member

/-- Whatever the probes say, only brokers that took part lead a race. -/
theorem race_probes (race : Race) (brokers : List Broker) :
    Confined Effect.Probes
      (fun ran => ∀ leader ∈ ran.leaders, leader ∈ race.leaders ∨ leader ∈ brokers)
      (race.run effort checkType brokers) := by
  induction brokers generalizing race with
  | nil => exact confined_pure (fun leader member => Or.inl member)
  | cons broker brokers ih =>
      apply (latencyAmong_probes broker.cid broker.nodes).followed
      intro answer _
      apply (ih (race.enter broker answer)).mono
      intro ran leading leader member
      rcases leading leader member with before | later
      · rcases mem_enter before with already | entered
        · exact Or.inl already
        · exact Or.inr (entered ▸ List.mem_cons_self)
      · exact Or.inr (List.mem_cons_of_mem broker later)

theorem choose_probes (considered : Nat) (brokers : List Broker) :
    Confined Effect.Probes (fun outcome => ∀ broker, outcome = .ok broker → broker ∈ brokers)
      (choose considered brokers) := by
  unfold choose
  split
  · exact confined_pure (fun broker chosen => by cases chosen)
  · next only =>
    refine confined_pure (fun broker chosen => ?_)
    cases chosen
    exact List.mem_singleton.mpr rfl
  · next first others _ =>
    refine Confined.bind (confined_ask trivial (fun index => ?_))
    refine confined_pure (fun broker chosen => ?_)
    cases chosen
    exact List.get_mem (first :: others) index

/-- A selection measures and chooses, and what it selects is one of the brokers. -/
theorem select_probes (brokers : List Broker) :
    Confined Effect.Probes (fun outcome => ∀ broker, outcome = .ok broker → broker ∈ brokers)
      (select effort checkType brokers) := by
  rw [select]
  split
  · exact confined_pure (fun broker chosen => by cases chosen)
  · have leaders : Confined Effect.Probes (fun leaders => ∀ leader ∈ leaders, leader ∈ brokers)
        (candidates effort checkType brokers) := by
      apply (race_probes Race.start brokers).followed
      intro ran leading
      refine confined_pure (fun leader member => ?_)
      have ahead := leading leader ((mem_preferEnterprise ran.leaders leader).mp member).1
      exact ahead.resolve_left List.not_mem_nil
    apply leaders.followed
    intro chosen within
    apply (choose_probes brokers.length chosen).mono
    intro outcome listed broker selected
    exact within broker (listed broker selected)

end Selection

namespace Resolution

theorem ask_looks {activity : Activity} {call : Api.Call} (looks : (Effect.call call).Looks) :
    Looks (ask activity call) :=
  (only_ask looks).bind (fun _ => only_pure _)

theorem ensureActive_eq_ok {found bundle : Bundle} :
    ensureActive found = .ok bundle ↔ found = bundle ∧ bundle.isActive = true := by
  rw [ensureActive]
  by_cases active : found.isActive = true
  · rw [if_pos active]
    constructor
    · intro same
      cases same
      exact ⟨rfl, active⟩
    · rintro ⟨rfl, -⟩
      rfl
  · rw [if_neg active]
    constructor
    · intro impossible
      cases impossible
    · rintro ⟨rfl, activeAfterAll⟩
      exact absurd activeAfterAll active

theorem ensureActive_of_inactive {bundle : Bundle} (inactive : bundle.isActive = false) :
    ensureActive bundle = .error (.notActive bundle.cid bundle.checks bundle.status) := by
  rw [ensureActive, inactive]
  rfl

theorem bind_ensureActive_eq_ok {answer : Except CheckFault Bundle} {bundle : Bundle} :
    answer.bind ensureActive = .ok bundle ↔ answer = .ok bundle ∧ bundle.isActive = true := by
  cases answer with
  | error fault =>
      constructor
      · intro active
        cases active
      · rintro ⟨impossible, -⟩
        cases impossible
  | ok found =>
      change ensureActive found = .ok bundle ↔ _
      rw [ensureActive_eq_ok, Except.ok.injEq]

theorem fetchById_looks (cid : String) : Looks (fetchById cid) := by
  rw [fetchById]
  split
  · exact only_pure _
  · exact Only.bind (ask_looks trivial) (fun _ => only_pure _)

theorem search_looks (config : Config) : Looks (search config) := by
  rw [search]
  split
  · exact only_pure _
  · exact Only.bind (ask_looks trivial) (fun _ => only_pure _)

/-- The broker of a new bundle is one of those at hand. -/
theorem brokerFor_probes (config : Config) (brokers : List Broker) :
    Confined Effect.Probes
      (fun outcome => ∀ cid, outcome = .ok cid → cid ∈ brokers.map Broker.cid)
      (brokerFor config brokers) := by
  rw [brokerFor]
  split
  · split
    · next configured _ listed =>
      refine confined_pure (fun cid chosen => ?_)
      cases chosen
      obtain ⟨broker, member, same⟩ := List.any_eq_true.mp listed
      exact List.mem_map.mpr ⟨broker, member, of_decide_eq_true same⟩
    · exact confined_pure (fun cid chosen => by cases chosen)
  · apply (Selection.select_probes brokers).followed
    intro selected among
    refine confined_pure (fun cid chosen => ?_)
    cases selected with
    | error fault => cases chosen
    | ok broker =>
        cases chosen
        exact List.mem_map_of_mem (among broker rfl)

theorem create_looks (config : Config) (brokers : List Broker) : Looks (create config brokers) := by
  rw [create]
  split
  · exact only_pure _
  · apply (brokerFor_probes config brokers).looks.bind
    intro chosen
    cases chosen with
    | error fault => exact only_pure _
    | ok broker => exact Only.bind (ask_looks trivial) (fun _ => only_pure _)

theorem createFromList_looks (config : Config) : Looks (createFromList config) := by
  refine Only.bind (ask_looks trivial) (fun listed => ?_)
  cases listed with
  | error fault => exact only_pure _
  | ok brokers => exact create_looks config brokers

theorem attempt_looks (config : Config) : Looks (attempt config) := by
  rw [attempt]
  split
  · exact (fetchById_looks _).bind (fun _ => only_pure _)
  · apply (search_looks config).bind
    intro found
    split
    · exact only_pure _
    · exact only_pure _
    · split
      · exact (createFromList_looks config).bind (fun _ => only_pure _)
      · exact only_pure _

/-- Resolving a bundle only looks at things. -/
theorem resolve_looks (config : Config) : Looks (resolve config) :=
  (attempt_looks config).bind (fun _ => Only.bind (only_ask trivial) (fun _ => only_pure _))

end Resolution

/-! ### Dealing with the store -/

def Effect.Leaves : Effect → Prop
  | .call (.update _) => False
  | _ => True

theorem Program.Looks.leaves {Result : Type} {program : Program Result} (looks : Looks program) :
    Only Effect.Leaves program := by
  refine looks.allow (fun effect permitted => ?_)
  cases effect with
  | call call =>
      cases call with
      | update bundle => exact permitted
      | _ => trivial
  | _ => trivial

def Effect.Stores : Effect → Prop
  | .storage _ => True
  | _ => False

theorem Effect.Stores.leaves {effect : Effect} (stores : effect.Stores) : effect.Leaves := by
  cases effect with
  | call call => exact stores.elim
  | _ => trivial

namespace StateFile

open Storage.Path

/-- An effect of checking a directory: it looks at the directory and writes the probing file. -/
def Checks (here : String) : Effect → Prop
  | .storage (.inspect _) => True
  | .storage (.openEmpty path) => path = join here probeName
  | .storage (.append path _) => path = join here probeName
  | .storage (.remove path) => path = join here probeName
  | _ => False

theorem writeProbe_checks (here : String) :
    Only (Checks here) (writeProbe (join here probeName)) := by
  rw [writeProbe]
  refine Only.bind (only_ask rfl) (fun opened => ?_)
  cases opened with
  | error fault => exact only_pure _
  | ok _ => exact only_ask rfl

theorem verify_checks (here : String) : Only (Checks here) (verify here) := by
  rw [verify]
  apply Only.bind (only_ask trivial)
  intro inspected
  split
  · exact only_pure _
  · exact only_pure _
  · apply (writeProbe_checks here).bind
    intro written
    cases written with
    | error fault => exact only_pure _
    | ok _ =>
        refine Only.bind (only_ask rfl) (fun removed => ?_)
        cases removed with
        | error fault => exact only_pure _
        | ok _ => exact only_pure _

theorem verify_stores (here : String) : Only Effect.Stores (verify here) := by
  refine (verify_checks here).allow (fun effect checks => ?_)
  cases effect with
  | storage operation => trivial
  | _ => exact checks.elim

theorem load_stores (path : String) : Only Effect.Stores (load path) := by
  rw [load]
  apply Only.bind (only_ask trivial)
  intro answer
  split
  · exact only_pure _
  · exact only_pure _
  · split
    · exact only_pure _
    · exact only_pure _

theorem save_stores (path : String) (states : States) :
    Only Effect.Stores (save path states) := by
  rw [save]
  apply Only.bind (only_ask trivial)
  intro opened
  cases opened with
  | error fault => exact only_pure _
  | ok _ =>
      apply Only.bind (only_ask trivial)
      intro written
      cases written with
      | error fault => exact only_pure _
      | ok _ =>
          apply Only.bind (only_ask trivial)
          intro synced
          cases synced with
          | error fault => exact only_pure _
          | ok _ =>
              apply Only.bind (only_ask trivial)
              intro moved
              cases moved with
              | error fault => exact only_pure _
              | ok _ => exact only_pure _

end StateFile

namespace MetricStore

theorem fetchRoster_looks (cid : String) : Looks (fetchRoster cid) := by
  rw [fetchRoster]
  refine Only.bind (Resolution.ask_looks trivial) (fun answer => ?_)
  cases answer with
  | error fault => exact only_pure _
  | ok bytes => exact only_pure _

theorem load_stores (store : MetricStore) :
    Confined Effect.Stores
      (fun loaded => loaded.lastRefresh = store.lastRefresh ∧ loaded.ttl = store.ttl)
      store.load := by
  apply (StateFile.load_stores store.path).followed
  intro answer _
  split
  · exact confined_pure ⟨rfl, rfl⟩
  · exact confined_pure ⟨rfl, rfl⟩
  · exact confined_pure ⟨rfl, rfl⟩

theorem persist_stores (store : MetricStore) : Only Effect.Stores store.persist := by
  rw [persist]
  split
  · exact only_pure _
  · next states _ =>
    apply (StateFile.save_stores store.path states).bind
    intro saved
    cases saved with
    | error fault => exact only_pure _
    | ok _ => exact only_pure _

/-- Taking definitions in merges them, at some moment. -/
theorem absorbKnown_leaves (store : MetricStore) (metrics : List MetricDefinition) :
    Confined Effect.Leaves (fun result => ∃ now, result.1 = store.merge metrics now)
      (store.absorbKnown metrics) := by
  refine Confined.bind (confined_ask trivial (fun now => ?_))
  apply ((persist_stores _).allow (fun _ => Effect.Stores.leaves)).followed
  intro persisted _
  exact confined_pure ⟨now, rfl⟩

end MetricStore

theorem Controller.prepareStore_stores (config : Config) :
    Confined Effect.Stores (fun prepared => ∀ store, prepared = some store →
      store.lastRefresh = none ∧ store.ttl = config.metricRefreshTtl)
      (Controller.prepareStore config) := by
  rw [Controller.prepareStore]
  split
  · exact confined_pure (fun store prepared => by cases prepared)
  · next here _ =>
    apply (StateFile.verify_stores here).followed
    intro usable _
    cases usable with
    | error fault => exact confined_pure (fun store prepared => by cases prepared)
    | ok _ =>
        apply (MetricStore.load_stores _).followed
        intro loaded never
        refine confined_pure (fun store prepared => ?_)
        cases prepared
        exact never

/-! ### Operations -/

namespace Controller

inductive Operation where
  | start
  | refresh
  | enable (collected : Collected)

def Operation.program (operation : Operation) (controller : Controller) :
    Program (Outcome Unit) :=
  match operation with
  | .start => controller.start
  | .refresh => controller.refresh
  | .enable collected => controller.enableNewMetrics collected

end Controller
end CheckBinding
