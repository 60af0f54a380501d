import CheckBinding.Agent.Resolution
import CheckBinding.Agent.StateFile

/-!
What an agent knows about the metrics of its check bundle.

The store maps each known metric name to its status. It is filled from the state file or from the
bundle's roster, and compared with the metrics that are collected to find those that are new.
-/

namespace CheckBinding

abbrev Collected := List (String × MetricValue)

structure MetricStore where
  path : String
  states : Option StateFile.States
  lastRefresh : Option Nat
  ttl : Duration
  pendingUpdate : Bool
deriving DecidableEq

namespace MetricStore

def inDirectory (directory : String) (ttl : Duration) : MetricStore where
  path := Storage.Path.join directory StateFile.fileName
  states := none
  lastRefresh := none
  ttl := ttl
  pendingUpdate := false

def isLoaded (store : MetricStore) : Bool :=
  store.states.isSome

/-- Whether the store has to be read again: it was never read, too long ago, or an update is under
way whose outcome is unknown. -/
def needsRefreshAt (store : MetricStore) (now : Nat) : Bool :=
  store.pendingUpdate ||
    match store.lastRefresh with
    | none => true
    | some moment => store.ttl.nanoseconds < now - moment

def markPending (store : MetricStore) : MetricStore :=
  { store with pendingUpdate := true }

/-- The states after further definitions; the last status of a name stays. -/
def absorb (states : StateFile.States) (metrics : List MetricDefinition) : StateFile.States :=
  states.insertAll (metrics.map (fun metric => (metric.name, metric.status)))

def merge (store : MetricStore) (metrics : List MetricDefinition) (now : Nat) : MetricStore :=
  { store with
    states := some (absorb (store.states.getD NameMap.empty) metrics)
    lastRefresh := some now
    pendingUpdate := false }

def knows (store : MetricStore) (name : String) : Bool :=
  match store.states with
  | some states => states.contains name
  | none => false

/-- Definitions for the collected metrics that are not known, in the order of their names. -/
def unknownMetrics (store : MetricStore) (collected : Collected) (status : String) :
    List MetricDefinition :=
  ((collected.filter (fun metric => !store.knows metric.1)).map
    (fun metric => MetricDefinition.ofKind metric.1 metric.2.kind status)).mergeSort
      (fun left right => left.name ≤ right.name)

/-! ### Filling the store -/

def rosterOfJson : Json.Decoder (List MetricDefinition) := fun document => do
  let fields ← Json.record? ["metrics"] document
  Decoding.withDefault fields "metrics" (Json.asList MetricDefinition.ofJson) []

def fetchRoster (cid : String) : Program (Except CheckFault (List MetricDefinition)) := do
  let path := Cid.rosterOf cid
  match ← Resolution.ask (.fetchingMetrics path) (.get path) with
  | .error fault => return .error fault
  | .ok bytes =>
      return (Json.decodeBytes rosterOfJson bytes).mapError
        (fun fault => .api (.decodingMetrics path) (.json fault))

/-- Fills the store from its file. A file that is missing or unusable leaves it as it is. -/
def load (store : MetricStore) : Program MetricStore := do
  match ← StateFile.load store.path with
  | .ok (some states) => return { store with states := some states }
  | .ok none => return store
  | .error _ => return store

def persist (store : MetricStore) : Program Bool := do
  match store.states with
  | none => return true
  | some states =>
      match ← StateFile.save store.path states with
      | .ok () => return true
      | .error _ => return false

def absorbKnown (store : MetricStore) (metrics : List MetricDefinition) :
    Program (MetricStore × Bool) := do
  let store := store.merge metrics (← Program.clock)
  return (store, ← store.persist)

/-- Brings the store up to date, from definitions at hand or else from the service, and tells
whether the state was written. A failed write leaves the merged state in memory. -/
def refreshFromRemote (store : MetricStore) (cid : String)
    (known : Option (List MetricDefinition)) :
    Program (MetricStore × Except CheckFault Bool) := do
  match known with
  | some metrics => do
      let (store, persisted) ← store.absorbKnown metrics
      return (store, .ok persisted)
  | none => do
      match ← fetchRoster cid with
      | .error fault => return (store, .error fault)
      | .ok metrics => do
          let (store, persisted) ← store.absorbKnown metrics
          return (store, .ok persisted)

end MetricStore
end CheckBinding
