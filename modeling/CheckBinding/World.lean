import CheckBinding.Agent.Probing
import CheckBinding.Api.Service
import CheckBinding.Pattern.Acceptance
import CheckBinding.Storage.FileSystem

/-!
Surroundings in which programs can be run.

A world answers every effect from its own state: a service, a working directory, a clock that
moves on with every look at it, nodes with fixed latencies, the addresses of the machine itself,
and a record of probes and counters.
-/

namespace CheckBinding

structure ProbeRecord where
  endpoint : Endpoint
  timeout : Duration
  attempts : UInt32

/-- The state of the surroundings; the probes are kept latest first. -/
structure World (Service : Type) where
  service : Service
  files : Storage.FileSystem
  now : Nat
  latency : Endpoint → Option Duration
  probes : List ProbeRecord
  counters : List (Counter × Nat)

namespace World

def lookTime : Nat := 1000

/-- Adds to a counter; one that was not touched before comes last. -/
def addCount (counter : Counter) (amount : Nat) : List (Counter × Nat) → List (Counter × Nat)
  | [] => [(counter, amount)]
  | (known, total) :: rest =>
      if known = counter then (known, total + amount) :: rest
      else (known, total) :: addCount counter amount rest

def connect {Service : Type} (world : World Service) (endpoint : Endpoint) (timeout : Duration) :
    Attempt × Duration :=
  match world.latency endpoint with
  | some latency => if timeout < latency then (.timedOut, timeout) else (.connected, latency)
  | none => (.refused, Duration.zero)

def quiet {Service : Type} (service : Service) (files : Storage.FileSystem) :
    World Service where
  service := service
  files := files
  now := 0
  latency := fun _ => none
  probes := []
  counters := []

def answer {Service : Type}
    (serve : Service → (call : Api.Call) → call.Answer × Service) (world : World Service) :
    (effect : Effect) → effect.Answer × World Service
  | .call request =>
      let (reply, service) := serve world.service request
      (reply, { world with service })
  | .storage operation =>
      let (files, result) := world.files.perform operation
      (result, { world with files })
  | .clock =>
      let now := world.now + lookTime
      (now, { world with now })
  | .probe endpoint timeout attempts =>
      (world.latency endpoint,
        { world with probes := ⟨endpoint, timeout, attempts⟩ :: world.probes })
  | .connect endpoint timeout =>
      let (outcome, span) := world.connect endpoint timeout
      (outcome, { world with now := world.now + span.nanoseconds })
  | .sleep span => ((), { world with now := world.now + span.nanoseconds })
  | .choose _ => (0, world)
  | .listen address => (address.isLocal, world)
  | .count counter amount =>
      ((), { world with counters := addCount counter amount world.counters })

def run {Service Result : Type}
    (serve : Service → (call : Api.Call) → call.Answer × Service) (world : World Service)
    (program : Program Result) : Result × World Service :=
  program.run (answer serve) world

end World
end CheckBinding
