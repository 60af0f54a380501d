import CheckBinding.Fault
import CheckBinding.Program

/-!
Selecting the broker that a new check bundle is bound to.

Latency only decides who is considered: the fastest brokers are the candidates, dedicated ones
among them win over shared ones, and one of those left is chosen at random, so that many agents
spread over equally fast brokers.
-/

namespace CheckBinding.Selection

/-- Slower brokers are never considered. -/
def slowest : Duration := Duration.ofSeconds 10

structure Effort where
  timeout : Duration
  attempts : UInt32

/-- The latency of the first node in use that supports the check type and answers. Every probe
without an answer is counted for the broker. -/
def latencyAmong (effort : Effort) (checkType broker : String) :
    List BrokerNode → Program (Option Duration)
  | [] => return none
  | node :: nodes =>
      if node.isActive && node.supports checkType then
        match node.endpoint? with
        | none => latencyAmong effort checkType broker nodes
        | some endpoint => do
            let (answer : Option Duration) ←
              Program.ask (.probe endpoint effort.timeout effort.attempts)
            match answer with
            | some latency => return some latency
            | none => do
                Program.count (.probeFailures broker) 1
                latencyAmong effort checkType broker nodes
      else latencyAmong effort checkType broker nodes

def latency (effort : Effort) (checkType : String) (broker : Broker) :
    Program (Option Duration) :=
  latencyAmong effort checkType broker.cid broker.nodes

structure Race where
  threshold : Duration
  leaders : List Broker

def Race.start : Race := ⟨slowest, []⟩

/-- Takes a broker into the race: a faster one leaves the others behind, an equally fast one joins
them. -/
def Race.enter (race : Race) (broker : Broker) : Option Duration → Race
  | none => race
  | some latency =>
      if latency < race.threshold then ⟨latency, [broker]⟩
      else if latency = race.threshold then ⟨race.threshold, race.leaders ++ [broker]⟩
      else race

def Race.run (effort : Effort) (checkType : String) (race : Race) :
    List Broker → Program Race
  | [] => return race
  | broker :: brokers => do
      let answer ← latency effort checkType broker
      run effort checkType (race.enter broker answer) brokers

def preferEnterprise (brokers : List Broker) : List Broker :=
  if brokers.any Broker.isEnterprise then brokers.filter Broker.isEnterprise else brokers

def candidates (effort : Effort) (checkType : String) (brokers : List Broker) :
    Program (List Broker) := do
  let race ← Race.start.run effort checkType brokers
  return preferEnterprise race.leaders

/-- One of the candidates; a choice is made only among several. -/
def choose (considered : Nat) : List Broker → Program (Except CheckFault Broker)
  | [] => return .error (.noValidBroker considered)
  | [only] => return .ok only
  | first :: others => do
      let (index : Fin (others.length + 1)) ← Program.ask (.choose others.length)
      return .ok ((first :: others).get index)

def select (effort : Effort) (checkType : String) (brokers : List Broker) :
    Program (Except CheckFault Broker) := do
  if brokers.isEmpty then return .error .noBrokers
  else choose brokers.length (← candidates effort checkType brokers)

end CheckBinding.Selection
