import CheckBinding.Program

/-!
Measuring how fast a broker node accepts a connection.

A node is tried at most so many times, and at least once. Between two attempts there is a pause of
random length, so that agents that probe the same node do not try again in lockstep. The answer is
the latency of the attempt that succeeded, without those before it.
-/

namespace CheckBinding.Probing

def shortestPause : Nat := 200

/-- The bound that every pause stays below, in milliseconds. -/
def pauseBound : Nat := 2000

def pause : Program Unit := do
  let (drawn : Fin (pauseBound - shortestPause - 1 + 1)) ←
    Program.ask (.choose (pauseBound - shortestPause - 1))
  Program.ask (.sleep (Duration.ofMilliseconds (shortestPause + drawn.val)))

def attempt (endpoint : Endpoint) (timeout : Duration) : Program (Option Duration) := do
  let start ← Program.clock
  let (outcome : Attempt) ← Program.ask (.connect endpoint timeout)
  match outcome with
  | .connected => return some ⟨(← Program.clock) - start⟩
  | .refused | .timedOut => return none

def tryNode (endpoint : Endpoint) (timeout : Duration) : Nat → Program (Option Duration)
  | 0 => attempt endpoint timeout
  | again + 1 => do
      match ← attempt endpoint timeout with
      | some latency => return some latency
      | none => do
          pause
          tryNode endpoint timeout again

/-- Probes a node with so many attempts, at least one. -/
def probe (endpoint : Endpoint) (timeout : Duration) (attempts : UInt32) :
    Program (Option Duration) :=
  tryNode endpoint timeout (attempts.toNat - 1)

end CheckBinding.Probing
