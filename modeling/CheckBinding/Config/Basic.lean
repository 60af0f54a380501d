import CheckBinding.Config.Settings
import CheckBinding.Fault
import CheckBinding.Program
import CheckBinding.Text.Blank

/-!
Validated check management.

Texts are trimmed, and a blank one counts as not given. The checks run in one order, and the first
that fails decides: the broker, the source of the metric filters, the filters, the refresh time,
the response time.
-/

namespace CheckBinding

inductive BrokerChoice where
  | select
  | id (cid : String)
deriving DecidableEq

structure Config where
  enabled : Bool
  bundleId : Option String
  target : String
  checkType : String
  create : Bool
  title : Option String
  tags : List String
  broker : BrokerChoice
  metricFilters : Option (List Filter)
  metricRefreshTtl : Duration
  enableNewMetrics : Bool
  stateDir : Option String
  brokerMaxResponseTime : Duration
  brokerMaxRetries : UInt32
  activeMetricStatus : String
deriving DecidableEq

namespace Config

def defaultCheckType : String := "json:nad"

def defaultRefreshTtl : Duration := Duration.ofSeconds 300

def defaultResponseTime : Duration := Duration.ofMilliseconds 500

def defaultRetries : UInt32 := 5

def selectWord : String := "select"

def standard : Config where
  enabled := false
  bundleId := none
  target := ""
  checkType := defaultCheckType
  create := false
  title := none
  tags := []
  broker := .select
  metricFilters := none
  metricRefreshTtl := defaultRefreshTtl
  enableNewMetrics := false
  stateDir := none
  brokerMaxResponseTime := defaultResponseTime
  brokerMaxRetries := defaultRetries
  activeMetricStatus := Bundle.activeStatus

def isRequired (config : Config) : Bool :=
  config.enabled || config.create || config.enableNewMetrics || config.bundleId.isSome

/-- The name that a new bundle is shown under: the title, else one made from the target. -/
def displayName (config : Config) : String :=
  match config.title with
  | some title => if title = "" then config.target ++ " /agent" else title
  | none => config.target ++ " /agent"

/-! ### Validation -/

abbrev FileReader := String → Except Storage.Fault ByteArray

def brokerChoice (broker : Option String) : Except CheckFault BrokerChoice :=
  match Text.trimmed? broker with
  | none => .ok .select
  | some text =>
      if text = selectWord then .ok .select
      else
        match Cid.normalize .broker text with
        | .ok cid => .ok (.id cid)
        | .error fault => .error (.invalid (.cid fault))

def filterFileText (readFile : FileReader) (path : String) : Except CheckFault String :=
  match readFile path with
  | .error fault => .error (.config (.filterFile path fault))
  | .ok bytes =>
      match String.fromUTF8? bytes with
      | some text => .ok text
      | none => .error (.config (.filterFile path .notText))

/-- The text that lists the filters: given in place or in a file, never both. -/
def filterText (readFile : FileReader) (settings : Settings) :
    Except CheckFault (Option String) :=
  match Text.trimmed? settings.metricFilters, settings.metricFilterFile with
  | some _, some _ => .error (.config .twoFilterSources)
  | some text, none => .ok (some text)
  | none, some path => (filterFileText readFile path).map some
  | none, none => .ok none

def filters [Pattern.Engine] (readFile : FileReader) (settings : Settings) :
    Except CheckFault (Option (List Filter)) := do
  match ← filterText readFile settings with
  | none => return none
  | some text =>
      match Filter.parseList text with
      | .ok filters => return some filters
      | .error fault => .error (.invalid (.filter fault))

def tagList (tags : Option String) : List String :=
  ((Text.split ',' (tags.getD "")).map Text.trim).filter (fun tag => tag ≠ "")

/-- A span of time given by a setting, or its default. The fault shows the text as it was given. -/
def span (field : String) (setting : Option String) (absent : Duration) :
    Except CheckFault Duration :=
  match setting with
  | none => .ok absent
  | some raw =>
      if Text.trim raw = "" then .ok absent
      else (Duration.parse (Text.trim raw)).mapError (fun fault =>
        .config (.duration field raw fault))

def refreshTtl (setting : Option String) : Except CheckFault Duration := do
  let ttl ← span "metric_refresh_ttl" setting defaultRefreshTtl
  if ttl = Duration.zero then .error (.config .zeroRefresh) else return ttl

def ofSettings [Pattern.Engine] (readFile : FileReader) (settings : Settings) :
    Except CheckFault Config := do
  let broker ← brokerChoice settings.broker
  let metricFilters ← filters readFile settings
  let metricRefreshTtl ← refreshTtl settings.metricRefreshTtl
  let brokerMaxResponseTime ←
    span "broker_max_response_time" settings.brokerMaxResponseTime defaultResponseTime
  return {
    enabled := settings.enabled
    bundleId := Text.trimmed? settings.bundleId
    target := (Text.trimmed? settings.target).getD ""
    checkType := (Text.trimmed? settings.checkType).getD defaultCheckType
    create := settings.create
    title := Text.trimmed? settings.title
    tags := tagList settings.tags
    broker := broker
    metricFilters := metricFilters
    metricRefreshTtl := metricRefreshTtl
    enableNewMetrics := settings.enableNewMetrics
    stateDir := settings.metricStateDir
    brokerMaxResponseTime := brokerMaxResponseTime
    brokerMaxRetries := settings.brokerMaxRetries.getD defaultRetries
    activeMetricStatus := (Text.trimmed? settings.activeMetricStatus).getD Bundle.activeStatus }

def namedFiles (settings : Settings) : Program FileReader := do
  match settings.metricFilterFile with
  | none => return fun _ => .error .notFound
  | some path =>
      let content ← Program.storage (.read path)
      return fun _ => content

def load [Pattern.Engine] (settings : Settings) : Program (Except CheckFault Config) := do
  return ofSettings (← namedFiles settings) settings

end Config
end CheckBinding
