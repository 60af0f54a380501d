import CheckBinding.Agent.Arguments
import CheckBinding.Api.Http
import CheckBinding.Config.Basic
import CheckBinding.SocketAddress

/-!
The configuration of a whole agent: how it reaches the service, how it manages its check, and
where it exports counters.

The checks run in one order: the token, the timeout, the management of the check, the address of
the exporter. What the command line gives replaces what the file gives after the file was
checked, and of that only the address is checked again.
-/

namespace CheckBinding

/-! ### Settings -/

structure ApiSettings where
  token : String
  url : Option String
  app : Option String
  timeout : Option String
deriving DecidableEq

def ApiSettings.ofYaml (document : Yaml.Document) : Yaml.Decoder ApiSettings := fun node => do
  let fields ← Yaml.record? document ["token", "url", "app", "timeout"] node
  return {
    token := ← Decoding.required fields "token" Yaml.asText
    url := ← Yaml.optional fields "url" Yaml.asText
    app := ← Yaml.optional fields "app" Yaml.asText
    timeout := ← Yaml.optional fields "timeout" Yaml.asText }

structure AgentSettings where
  api : ApiSettings
  check : Settings
  promExporter : Option String
deriving DecidableEq

namespace AgentSettings

def ofYaml (document : Yaml.Document) : Yaml.Decoder AgentSettings := fun node => do
  let fields ← Yaml.record? document ["api", "check", "prom_exporter"] node
  return {
    api := ← Decoding.required fields "api" (ApiSettings.ofYaml document)
    check := ← Decoding.withDefault fields "check" (Settings.ofYaml document) Settings.blank
    promExporter := ← Yaml.optional fields "prom_exporter" Yaml.asText }

def parse (text : String) : Except Decoding.Fault AgentSettings :=
  Yaml.decodeText ofYaml text

end AgentSettings

/-! ### Configuration -/

inductive AgentFault where
  | tokenMissing
  | timeout (raw : String) (fault : Duration.Fault)
  | check (fault : CheckFault)
  | address (text : String)
deriving DecidableEq

def AgentFault.message : AgentFault → String
  | .tokenMissing => "api.token is required"
  | .timeout raw _ => "Failed to parse api.timeout: " ++ raw
  | .check _ => "Invalid check configuration"
  | .address text => "Failed to parse into Socket address: " ++ text

structure AgentConfig where
  api : Api.Http.Options
  check : Config
  promExporter : Option SocketAddress
deriving DecidableEq

namespace AgentConfig

def timeout (setting : Option String) : Except AgentFault Duration :=
  match setting with
  | none => .ok Api.Http.defaultTimeout
  | some raw => (Duration.parse raw).mapError (.timeout raw)

def apiOptions (settings : ApiSettings) : Except AgentFault Api.Http.Options := do
  let token := Text.trim settings.token
  if token = "" then .error .tokenMissing
  else
    return {
      url := settings.url.getD Api.Http.defaultUrl
      token
      app := settings.app.getD Api.Http.defaultApp
      timeout := ← timeout settings.timeout }

def address (text : String) : Except AgentFault SocketAddress :=
  match SocketAddress.parse? text with
  | some address => .ok address
  | none => .error (.address text)

def ofSettings [Pattern.Engine] (readFile : Config.FileReader) (settings : AgentSettings) :
    Except AgentFault AgentConfig := do
  let api ← apiOptions settings.api
  let check ← (Config.ofSettings readFile settings.check).mapError .check
  let promExporter ← settings.promExporter.mapM address
  return { api, check, promExporter }

def override (arguments : Arguments) (config : AgentConfig) : Except AgentFault AgentConfig := do
  let given ← arguments.promExporter.mapM address
  return {
    config with
    check := {
      config.check with
      bundleId := arguments.checkId.orElse (fun _ => config.check.bundleId)
      stateDir := arguments.stateDir.orElse (fun _ => config.check.stateDir) }
    promExporter := given.orElse (fun _ => config.promExporter) }

/-- The configuration that an agent uses: the file, then the command line. -/
def effective [Pattern.Engine] (readFile : Config.FileReader) (arguments : Arguments)
    (settings : AgentSettings) : Except AgentFault AgentConfig := do
  (← ofSettings readFile settings).override arguments

def load [Pattern.Engine] (settings : AgentSettings) :
    Program (Except AgentFault AgentConfig) := do
  return ofSettings (← Config.namedFiles settings.check) settings

end AgentConfig
end CheckBinding
