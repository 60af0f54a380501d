import CheckBinding.Agent.Controller
import CheckBinding.Agent.LogFilter
import CheckBinding.Config.Agent

/-!
How an agent comes up and stays up.

The steps run in one order and the first that fails ends the agent: the log filter, the config
file, its validation, the command line, the exporter, the client, the binding. After that nothing
ends it but a signal, and an agent that needs no check bundle ends by itself.
-/

namespace CheckBinding

inductive StartFault where
  | logFilter
  | unreadable (path : String)
  | malformed (fault : Decoding.Fault)
  | config (fault : AgentFault)
  | exporter
  | client (fault : Api.Fault)
  | binding (fault : CheckFault)
deriving DecidableEq

namespace StartFault

def message : StartFault → String
  | .logFilter => "Invalid log level"
  | .unreadable path => "Failed to read config file " ++ path
  | .malformed fault => fault.message
  | .config fault => fault.message
  | .exporter => "Failed to install Prometheus recorder"
  | .client fault => fault.message
  | .binding _ => "Failed to initialize check bundle"

def cause? : StartFault → Option CheckFault
  | .config (.check fault) => some fault
  | .binding fault => some fault
  | _ => none

end StartFault

namespace Agent

structure Prepared where
  config : AgentConfig
  client : Api.Http.Client
deriving DecidableEq

def configText (path : String) : Program (Except StartFault String) := do
  match ← Program.storage (.read path) with
  | .error _ => return .error (.unreadable path)
  | .ok bytes =>
      match String.fromUTF8? bytes with
      | some text => return .ok text
      | none => return .error (.unreadable path)

def configure [Pattern.Engine] (arguments : Arguments) :
    Program (Except StartFault AgentConfig) := do
  match ← configText arguments.configFile with
  | .error fault => return .error fault
  | .ok text =>
      match AgentSettings.parse text with
      | .error fault => return .error (.malformed fault)
      | .ok settings =>
          let config ← AgentConfig.load settings
          return (config.bind (AgentConfig.override arguments)).mapError .config

def offerCounters (config : AgentConfig) : Program Bool := do
  match config.promExporter with
  | none => return true
  | some address => Program.listen address

def prepare [Pattern.Engine] (arguments : Arguments) : Program (Except StartFault Prepared) := do
  match LogFilter.parse? arguments.logLevel with
  | none => return .error .logFilter
  | some _ =>
      match ← configure arguments with
      | .error fault => return .error fault
      | .ok config =>
          if ← offerCounters config then
            match Api.Http.Client.make config.api with
            | .error fault => return .error (.client fault)
            | .ok client => return .ok ⟨config, client⟩
          else return .error .exporter

def bind (config : Config) : Program (Except StartFault Controller) := do
  match ← (Controller.unbound config).start with
  | (.error fault, _) => return .error (.binding fault)
  | (.ok (), controller) => return .ok controller

/-- What an agent does each time the refresh time has passed: a refresh that fails changes
nothing. -/
def tick (controller : Controller) : Program Controller := do
  return (← controller.refresh).2

end Agent
end CheckBinding
