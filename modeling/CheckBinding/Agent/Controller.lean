import CheckBinding.Agent.MetricStore

/-!
The agent's binding to its check bundle.

A controller resolves the bundle once, then serves questions about it, fetches it again, and
submits metrics that the bundle does not know yet as enabled. Managing metrics this way needs a
directory for the state file; when the file cannot be written, management ends for this process
and nothing else does.
-/

namespace CheckBinding

structure Controller where
  config : Config
  bundle : Option Bundle
  managing : Bool
  store : Option MetricStore
deriving DecidableEq

namespace Controller

abbrev Outcome (Value : Type) : Type := Except CheckFault Value × Controller

def unbound (config : Config) : Controller where
  config := config
  bundle := none
  managing := false
  store := none

def isInitialized (controller : Controller) : Bool :=
  controller.bundle.isSome

def stopManaging (controller : Controller) : Controller :=
  { controller with managing := false, store := none }

/-- Keeps the store after a refresh, or ends management when it was not written. -/
def settleStore (controller : Controller) (store : MetricStore) (persisted : Bool) :
    Controller :=
  if persisted then { controller with store := some store } else controller.stopManaging

def bind (controller : Controller) (bundle : Bundle) : Controller :=
  { controller with bundle := some bundle.withoutMetrics }

/-! ### Starting -/

def prepareStore (config : Config) : Program (Option MetricStore) := do
  match config.stateDir with
  | none => return none
  | some directory =>
      match ← StateFile.verify directory with
      | .error _ => return none
      | .ok () =>
          return some (← (MetricStore.inDirectory directory config.metricRefreshTtl).load)

/-- Resolves the check bundle and prepares the metric store. Nothing happens when the configuration
needs no bundle. -/
def start (controller : Controller) : Program (Outcome Unit) := do
  if !controller.config.isRequired then return (.ok (), controller)
  else
    match ← Resolution.resolve controller.config with
    | .error fault => return (.error fault, controller)
    | .ok bundle =>
        if controller.config.enableNewMetrics then
          let store ← prepareStore controller.config
          return (.ok (), { controller with store, managing := store.isSome }.bind bundle)
        else return (.ok (), controller.bind bundle)

/-! ### Refreshing -/

def refreshStore (controller : Controller) (cid : String) : Program (Outcome Unit) := do
  if !controller.managing then return (.ok (), controller)
  else
    match controller.store with
    | none => return (.ok (), controller)
    | some store =>
        match ← store.refreshFromRemote cid none with
        | (_, .error fault) => return (.error fault, controller)
        | (store, .ok persisted) => return (.ok (), controller.settleStore store persisted)

/-- Fetches the bundle again and replaces the copy held. On a fault the controller stays as it
is. -/
def refresh (controller : Controller) : Program (Outcome Unit) := do
  match controller.bundle with
  | none => return (.error .uninitialized, controller)
  | some held =>
      let fetched ← Resolution.ask (.refreshingBundle held.cid) (.fetchBundle held.cid)
      match fetched.bind Resolution.ensureActive with
      | .error fault => return (.error fault, controller)
      | .ok bundle =>
          match ← controller.refreshStore held.cid with
          | (.error fault, _) => return (.error fault, controller)
          | (.ok (), controller) => return (.ok (), controller.bind bundle)

/-! ### Enabling new metrics -/

/-- Fills a store that knows no state yet from the roster; nothing is enabled, since another
installation may have been bound to the same bundle before. -/
def seed (controller : Controller) (store : MetricStore) (cid : String) :
    Program (Outcome Unit) := do
  match ← store.refreshFromRemote cid none with
  | (_, .error fault) => return (.error fault, controller)
  | (store, .ok persisted) => return (.ok (), controller.settleStore store persisted)

/-- Submits definitions as additions to a fresh copy of the bundle, so that other edits of it are
not overwritten, and takes the answer over. The store notes the update before it is sent. -/
def submit (controller : Controller) (store : MetricStore) (cid : String)
    (added : List MetricDefinition) : Program (Outcome Unit) := do
  let pending := { controller with store := some store.markPending }
  match ← Resolution.ask (.fetchingBundle cid) (.fetchBundle cid) with
  | .error fault => return (.error fault, pending)
  | .ok fresh =>
      let extended := { fresh with metrics := fresh.metrics ++ added }
      match ← Resolution.ask (.updatingBundle cid) (.update extended) with
      | .error fault => return (.error fault, pending)
      | .ok updated =>
          let (store, persisted) ← store.markPending.absorbKnown updated.metrics
          Program.count .metricsEnabled added.length
          return (.ok (), (pending.bind updated).settleStore store persisted)

def submitUnknown (controller : Controller) (store : MetricStore) (cid : String)
    (collected : Collected) : Program (Outcome Unit) := do
  let added := store.unknownMetrics collected controller.config.activeMetricStatus
  if added.isEmpty then return (.ok (), { controller with store := some store })
  else controller.submit store cid added

/-- Submits the new ones among the collected metrics as enabled. A store that is out of date is
first brought up to date. Nothing happens unless metrics are managed. -/
def enableNewMetrics (controller : Controller) (collected : Collected) :
    Program (Outcome Unit) := do
  match controller.managing, controller.bundle, controller.store with
  | true, some held, some store =>
      if !store.isLoaded then controller.seed store held.cid
      else if store.needsRefreshAt (← Program.clock) then
        match ← store.refreshFromRemote held.cid none with
        | (_, .error fault) => return (.error fault, controller)
        | (_, .ok false) => return (.ok (), controller.stopManaging)
        | (store, .ok true) => controller.submitUnknown store held.cid collected
      else controller.submitUnknown store held.cid collected
  | _, _, _ => return (.ok (), controller)

/-! ### Questions -/

def ask {Value : Type} (controller : Controller) (question : Bundle → Value) :
    Except CheckFault Value :=
  match controller.bundle with
  | some bundle => .ok (question bundle)
  | none => .error .uninitialized

def cid (controller : Controller) : Except CheckFault String :=
  controller.ask Bundle.cid

def checkCid (controller : Controller) : Except CheckFault (Option String) :=
  controller.ask Bundle.checkCid

def period (controller : Controller) : Except CheckFault UInt32 :=
  controller.ask Bundle.period

def info (controller : Controller) : Except CheckFault BundleInfo :=
  controller.ask Bundle.info

end Controller
end CheckBinding
