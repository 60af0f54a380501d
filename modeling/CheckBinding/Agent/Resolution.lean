import CheckBinding.Agent.Selection
import CheckBinding.Config.Basic

/-!
Resolving the one active check bundle that an agent is bound to.

A configured identifier is fetched. Without one the bundle of the target is searched for, and when
there is none it may be created, bound to the configured broker or to one that is selected. More
than one match is never guessed between, and the broker list is read only to create.
-/

namespace CheckBinding.Resolution

/-- The period of a new bundle, in seconds. -/
def newPeriod : UInt32 := 60

def newTimeout : Number.Binary32 := Number.Binary32.ofNat 10

def newNote : String := "created by hostagent"

def criteria (checkType target : String) : String :=
  "(active:1)(type:\"" ++ checkType ++ "\")(target:\"" ++ target ++ "\")"

def ensureActive (bundle : Bundle) : Except CheckFault Bundle :=
  if bundle.isActive then .ok bundle
  else .error (.notActive bundle.cid bundle.checks bundle.status)

def ask (activity : Activity) (call : Api.Call) : Program (Except CheckFault call.Payload) := do
  let answer ← Program.call call
  return answer.mapError (.api activity)

def fetchById (cid : String) : Program (Except CheckFault Bundle) := do
  match Cid.normalize .checkBundle cid with
  | .error fault => return .error (.invalid (.cid fault))
  | .ok cid => do
      let answer ← ask (.fetchingBundle cid) (.fetchBundle cid)
      return answer.bind ensureActive

def onlyMatch (config : Config) : List Bundle → Except CheckFault (Option Bundle)
  | [] => .ok none
  | [bundle] => (ensureActive bundle).map some
  | found => .error (.ambiguous found.length config.checkType config.target)

def search (config : Config) : Program (Except CheckFault (Option Bundle)) := do
  if config.target = "" then return .error .emptyTarget
  else
    let criteria := criteria config.checkType config.target
    let answer ← ask (.searchingBundles criteria) (.search criteria none)
    return answer.bind (onlyMatch config)

def draft (config : Config) (broker : String) : Bundle :=
  { Bundle.blank with
    brokers := [broker]
    displayName := config.displayName
    metricFilters := config.metricFilters.getD Filter.defaults
    notes := some newNote
    period := newPeriod
    status := Bundle.activeStatus
    tags := config.tags
    target := config.target
    timeout := newTimeout
    checkType := config.checkType }

/-- The broker of a new bundle: the configured one, which has to be listed, or a selected one. -/
def brokerFor (config : Config) (brokers : List Broker) :
    Program (Except CheckFault String) := do
  match config.broker with
  | .id cid =>
      if brokers.any (fun broker => broker.cid = cid) then return .ok cid
      else return .error (.config (.brokerNotListed cid))
  | .select => do
      let effort := ⟨config.brokerMaxResponseTime, config.brokerMaxRetries⟩
      let selected ← Selection.select effort config.checkType brokers
      return selected.map Broker.cid

def create (config : Config) (brokers : List Broker) : Program (Except CheckFault Bundle) := do
  if config.target = "" then return .error .emptyTarget
  else
    match ← brokerFor config brokers with
    | .error fault => return .error fault
    | .ok broker => do
        let draft := draft config broker
        let answer ← ask (.creatingBundle draft.target) (.create draft)
        return answer.bind ensureActive

def createFromList (config : Config) : Program (Except CheckFault Bundle) := do
  match ← ask .fetchingBrokers .fetchBrokers with
  | .error fault => return .error fault
  | .ok brokers => create config brokers

def attempt (config : Config) : Program (ResolutionMethod × Except CheckFault Bundle) := do
  match config.bundleId with
  | some cid => return (.id, ← fetchById cid)
  | none => do
      match ← search config with
      | .error fault => return (.search, .error fault)
      | .ok (some bundle) => return (.search, .ok bundle)
      | .ok none =>
          if config.create then return (.create, ← createFromList config)
          else return (.search, .error (.notFound config.checkType config.target))

def succeeded {Value : Type} : Except CheckFault Value → Bool
  | .ok _ => true
  | .error _ => false

def resolve (config : Config) : Program (Except CheckFault Bundle) := do
  let (method, outcome) ← attempt config
  Program.count (.resolutions method (succeeded outcome)) 1
  return outcome

end CheckBinding.Resolution
