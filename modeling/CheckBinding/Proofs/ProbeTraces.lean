import CheckBinding.Proofs.Selection
import CheckBinding.Proofs.Transcripts
import Mathlib.Algebra.Ring.Nat

/-!
Which nodes a selection probes, and which failures it counts.

About each broker a selection exchanges the probes of its endpoints up to the first answer, each
unanswered one followed by its count. The exchanges about all brokers, in their order, are the whole
transcript, but for one choice at the end.
-/

namespace CheckBinding

/-! ### Reading a transcript -/

def Exchange.probe? (exchange : Exchange) : Option ProbeRecord :=
  match exchange.effect with
  | .probe endpoint timeout attempts => some ⟨endpoint, timeout, attempts⟩
  | _ => none

def Exchange.adds (counter : Counter) (exchange : Exchange) : Nat :=
  match exchange.effect with
  | .count counted amount => if counted = counter then amount else 0
  | _ => 0

namespace Transcript

def probes (transcript : Transcript) : List ProbeRecord :=
  transcript.filterMap Exchange.probe?

def growth (counter : Counter) (transcript : Transcript) : Nat :=
  (transcript.map (Exchange.adds counter)).sum

variable {first second : Transcript} {counter : Counter} {Item : Type}

theorem probes_append : probes (first ++ second) = probes first ++ probes second :=
  List.filterMap_append

theorem probes_flatMap (items : List Item) (about : Item → Transcript) :
    probes (items.flatMap about) = items.flatMap (fun item => probes (about item)) :=
  List.filterMap_flatMap

theorem growth_append : growth counter (first ++ second) =
    growth counter first + growth counter second := by
  rw [growth, List.map_append, List.sum_append]
  rfl

end Transcript

/-! ### Where nodes can be reached -/

namespace BrokerNode

theorem ne_empty_of_given? {text : Option String} {host : String}
    (given : given? text = some host) : host ≠ "" :=
  of_decide_eq_true (Option.filter_eq_some_iff.mp given).2

theorem host_ne_empty {node : BrokerNode} {host : String} (named : node.host? = some host) :
    host ≠ "" := by
  rw [host?] at named
  cases outer : given? node.externalHost with
  | none =>
      rw [outer] at named
      exact ne_empty_of_given? named
  | some external =>
      rw [outer] at named
      exact ne_empty_of_given? (outer.trans named)

theorem chosenPort_ne_zero (node : BrokerNode) : node.chosenPort ≠ 0 := by
  rw [chosenPort]
  split
  · assumption
  · cases inner : node.port.filter (fun port => port ≠ 0) with
    | none => decide
    | some port => exact of_decide_eq_true (Option.filter_eq_some_iff.mp inner).2

/-- An endpoint has a host and a port, and the public node is reached on its one port only. -/
theorem reachable_of_endpoint? {node : BrokerNode} {endpoint : Endpoint}
    (located : node.endpoint? = some endpoint) :
    endpoint.host ≠ "" ∧ endpoint.port ≠ 0 ∧
      (endpoint.host = "trap.noit.circonus.net" → endpoint.port = 443) := by
  obtain ⟨host, named, rfl⟩ := Option.map_eq_some_iff.mp located
  refine ⟨host_ne_empty named, ?_, fun trap => if_pos trap⟩
  change (if host = trapHost then trapPort else node.chosenPort) ≠ 0
  split
  · decide
  · exact chosenPort_ne_zero node

end BrokerNode

namespace Selection

open Program

variable {latency : Endpoint → Option Duration} {effort : Effort} {checkType : String}
  {transcript : Transcript} {state final : Unit}

def endpoints (checkType : String) (nodes : List BrokerNode) : List Endpoint :=
  (nodes.filter (fun node => node.isActive && node.supports checkType)).filterMap
    BrokerNode.endpoint?

/-- Endpoints up to the first one that answers. -/
def untilAnswer (latency : Endpoint → Option Duration) (endpoints : List Endpoint) :
    List Endpoint :=
  endpoints.take (endpoints.findIdx (fun endpoint => (latency endpoint).isSome) + 1)

theorem untilAnswer_cons (endpoint : Endpoint) (others : List Endpoint) :
    untilAnswer latency (endpoint :: others) =
      endpoint :: if (latency endpoint).isSome then [] else untilAnswer latency others := by
  rw [untilAnswer, List.findIdx_cons]
  cases latency endpoint with
  | some span => rfl
  | none => rfl

def probed (latency : Endpoint → Option Duration) (checkType : String) (broker : Broker) :
    List Endpoint :=
  untilAnswer latency (endpoints checkType broker.nodes)

/-- What is exchanged about an endpoint: its probe, and the count of a failure. -/
def exchanged (latency : Endpoint → Option Duration) (effort : Effort) (cid : String)
    (endpoint : Endpoint) : Transcript :=
  ⟨.probe endpoint effort.timeout effort.attempts, latency endpoint⟩ ::
    if (latency endpoint).isSome then [] else [⟨.count (.probeFailures cid) 1, ()⟩]

theorem probes_exchanged (cid : String) (endpoint : Endpoint) :
    (exchanged latency effort cid endpoint).probes =
      [⟨endpoint, effort.timeout, effort.attempts⟩] := by
  rw [exchanged]
  cases latency endpoint with
  | some span => rfl
  | none => rfl

theorem growth_exchanged (cid other : String) (endpoint : Endpoint) :
    (exchanged latency effort other endpoint).growth (.probeFailures cid) =
      if other = cid ∧ latency endpoint = none then 1 else 0 := by
  rw [exchanged]
  cases latency endpoint with
  | some span => simp [Transcript.growth, Exchange.adds]
  | none => simp [Transcript.growth, Exchange.adds]

/-! ### The exchanges of a selection -/

/-- What is left to say about nodes after one of them. -/
theorem endpoints_cons (node : BrokerNode) (nodes : List BrokerNode) :
    endpoints checkType (node :: nodes) =
      (if node.isActive && node.supports checkType then node.endpoint?.toList else []) ++
        endpoints checkType nodes := by
  rw [endpoints, List.filter_cons]
  split
  · cases located : node.endpoint? with
    | none => rw [List.filterMap_cons_none located]; rfl
    | some endpoint => rw [List.filterMap_cons_some located]; rfl
  · rfl

theorem exchanged_of_latencyAmong (cid : String) (nodes : List BrokerNode)
    {answer : Option Duration}
    (course : Course (latencyAmong effort checkType cid nodes) transcript answer)
    (replied : Replied (probing latency) state transcript final) :
    transcript = (untilAnswer latency (endpoints checkType nodes)).flatMap
      (exchanged latency effort cid) := by
  induction nodes generalizing transcript state with
  | nil => exact (course_pure.mp course).1
  | cons node nodes ih =>
      rw [endpoints_cons]
      unfold latencyAmong at course
      split at course
      · next eligible =>
        rw [if_pos eligible]
        cases located : node.endpoint? with
        | none =>
            rw [located] at course
            exact ih course replied
        | some endpoint =>
            rw [located] at course
            obtain ⟨measured, _, rest, rfl, asked, later⟩ := course_bind.mp course
            cases course_ask.mp asked
            obtain ⟨between, told, replied⟩ := replied
            cases told
            change _ = (untilAnswer latency (endpoint :: endpoints checkType nodes)).flatMap _
            rw [untilAnswer_cons, List.flatMap_cons, exchanged]
            cases answered : latency endpoint with
            | some span =>
                rw [answered] at later
                rw [(course_pure.mp later).1]
                rfl
            | none =>
                rw [answered] at later
                obtain ⟨_, _, further, rfl, counted, onward⟩ := course_bind.mp later
                cases course_ask.mp counted
                obtain ⟨after, -, replied⟩ := replied
                rw [ih onward replied]
                rfl
      · next ineligible =>
        rw [if_neg ineligible]
        exact ih course replied

def raced (latency : Endpoint → Option Duration) (effort : Effort) (checkType : String)
    (brokers : List Broker) : Transcript :=
  brokers.flatMap (fun broker =>
    (probed latency checkType broker).flatMap (exchanged latency effort broker.cid))

theorem raced_of_run (race : Race) (brokers : List Broker) {outcome : Race}
    (course : Course (race.run effort checkType brokers) transcript outcome)
    (replied : Replied (probing latency) state transcript final) :
    transcript = raced latency effort checkType brokers := by
  induction brokers generalizing race transcript state with
  | nil => exact (course_pure.mp course).1
  | cons broker brokers ih =>
      obtain ⟨answer, first, second, rfl, course, later⟩ := course_bind.mp course
      obtain ⟨between, replied, repliedLater⟩ := replied_append.mp replied
      rw [exchanged_of_latencyAmong broker.cid broker.nodes course replied,
        ih (race.enter broker answer) later repliedLater]
      rfl

theorem silent_of_choose {considered : Nat} {brokers : List Broker}
    {outcome : Except CheckFault Broker}
    (course : Course (choose considered brokers) transcript outcome) :
    transcript.probes = [] ∧ ∀ counter, transcript.growth counter = 0 := by
  match brokers with
  | [] =>
      rw [(course_pure.mp course).1]
      exact ⟨rfl, fun _ => rfl⟩
  | [only] =>
      rw [(course_pure.mp course).1]
      exact ⟨rfl, fun _ => rfl⟩
  | first :: second :: others =>
      obtain ⟨index, _, rest, rfl, asked, later⟩ := course_bind.mp course
      cases course_ask.mp asked
      rw [(course_pure.mp later).1]
      exact ⟨rfl, fun _ => rfl⟩

/-- A selection is a race, and then exchanges that neither probe nor count. -/
theorem raced_of_select {brokers : List Broker} {outcome : Except CheckFault Broker}
    (course : Course (select effort checkType brokers) transcript outcome)
    (replied : Replied (probing latency) state transcript final) :
    transcript.probes = (raced latency effort checkType brokers).probes ∧
      ∀ counter, transcript.growth counter =
        (raced latency effort checkType brokers).growth counter := by
  rw [select] at course
  split at course
  · next none =>
    rw [(course_pure.mp course).1, List.isEmpty_iff.mp none]
    exact ⟨rfl, fun _ => rfl⟩
  · obtain ⟨leaders, first, last, rfl, course, chosen⟩ := course_bind.mp course
    obtain ⟨race, ran, ended, rfl, racing, done⟩ := course_bind.mp course
    obtain ⟨rfl, -⟩ := course_pure.mp done
    rw [List.append_nil] at replied ⊢
    obtain ⟨between, replied, -⟩ := replied_append.mp replied
    obtain ⟨noProbes, noGrowth⟩ := silent_of_choose chosen
    rw [raced_of_run Race.start brokers racing replied]
    constructor
    · rw [Transcript.probes_append, noProbes, List.append_nil]
    · intro counter
      rw [Transcript.growth_append, noGrowth, Nat.add_zero]

/-! ### Probes and failures -/

theorem probes_raced (brokers : List Broker) :
    (raced latency effort checkType brokers).probes =
      (brokers.flatMap (probed latency checkType)).map
        (fun endpoint => ⟨endpoint, effort.timeout, effort.attempts⟩) := by
  simp only [raced, Transcript.probes_flatMap, probes_exchanged, List.map_eq_flatMap,
    List.flatMap_assoc]

def unanswered (latency : Endpoint → Option Duration) (checkType cid : String)
    (brokers : List Broker) : List Endpoint :=
  ((brokers.filter (fun broker => broker.cid = cid)).flatMap (probed latency checkType)).filter
    (fun endpoint => latency endpoint = none)

theorem unanswered_cons (cid : String) (broker : Broker) (brokers : List Broker) :
    unanswered latency checkType cid (broker :: brokers) =
      (if broker.cid = cid then (probed latency checkType broker).filter
        (fun endpoint => latency endpoint = none) else []) ++
        unanswered latency checkType cid brokers := by
  by_cases same : broker.cid = cid
  · simp [unanswered, same]
  · simp [unanswered, same]

theorem growth_about (cid other : String) (endpoints : List Endpoint) :
    Transcript.growth (.probeFailures cid) (endpoints.flatMap (exchanged latency effort other)) =
      (if other = cid then endpoints.filter (fun endpoint => latency endpoint = none)
        else []).length := by
  induction endpoints with
  | nil =>
      split
      · rfl
      · rfl
  | cons endpoint endpoints ih =>
      rw [List.flatMap_cons, Transcript.growth_append, growth_exchanged, ih]
      by_cases same : other = cid
      · cases answered : latency endpoint with
        | some span => simp [same, answered]
        | none => simp [same, answered, Nat.add_comm]
      · simp [same]

theorem growth_raced (cid : String) (brokers : List Broker) :
    (raced latency effort checkType brokers).growth (.probeFailures cid) =
      (unanswered latency checkType cid brokers).length := by
  induction brokers with
  | nil => rfl
  | cons broker brokers ih =>
      rw [unanswered_cons, List.length_append, ← ih, ← growth_about, raced, List.flatMap_cons,
        Transcript.growth_append]
      rfl

theorem endpoint?_of_probed {broker : Broker} {endpoint : Endpoint}
    (member : endpoint ∈ probed latency checkType broker) :
    ∃ node ∈ broker.nodes, node.endpoint? = some endpoint := by
  obtain ⟨node, listed, located⟩ := List.mem_filterMap.mp (List.mem_of_mem_take member)
  exact ⟨node, (List.mem_filter.mp listed).1, located⟩

/-- In every selection, successful or not, each broker in turn is probed at its endpoints up to the
first answer, with the configured timeout and attempts. Every probe goes to a host and a port, those
to the public node to its one port, and the failures counted for an identifier are the unanswered
probes for the brokers that have it. -/
theorem select_probes_until_answer {brokers : List Broker} {outcome : Except CheckFault Broker}
    (course : Course (select effort checkType brokers) transcript outcome)
    (replied : Replied (probing latency) () transcript ()) :
    transcript.probes = (brokers.flatMap (probed latency checkType)).map
        (fun endpoint => ⟨endpoint, effort.timeout, effort.attempts⟩) ∧
      (∀ probe ∈ transcript.probes, probe.endpoint.host ≠ "" ∧ probe.endpoint.port ≠ 0 ∧
        (probe.endpoint.host = "trap.noit.circonus.net" → probe.endpoint.port = 443)) ∧
      ∀ cid, transcript.growth (.probeFailures cid) =
        (unanswered latency checkType cid brokers).length := by
  obtain ⟨probes, growth⟩ := raced_of_select course replied
  rw [probes_raced] at probes
  refine ⟨probes, ?_, fun cid => (growth _).trans (growth_raced cid brokers)⟩
  rw [probes]
  intro probe member
  obtain ⟨endpoint, chosen, rfl⟩ := List.mem_map.mp member
  obtain ⟨broker, -, among⟩ := List.mem_flatMap.mp chosen
  obtain ⟨node, -, located⟩ := endpoint?_of_probed among
  exact BrokerNode.reachable_of_endpoint? located

/-- A world measures an endpoint always alike. -/
theorem replied_record {Service Result : Type}
    {serve : Service → (call : Api.Call) → call.Answer × Service} (world : World Service)
    (program : Program Result) :
    Replied (probing world.latency) () (world.record serve program) () := by
  unfold World.record
  induction program generalizing world with
  | done result => rfl
  | perform effect next ih =>
      have kept : (World.answer serve world effect).2.latency = world.latency := by
        cases effect <;> rfl
      refine ⟨(), ?_, ?_⟩
      · cases effect with
        | probe endpoint timeout attempts => rfl
        | _ => trivial
      · rw [← kept]
        exact ih _ (World.answer serve world effect).2

/-- Two brokers with one identifier have a failure each, an inactive node is passed over, and the
public node is probed in vain. -/
theorem select_probes_until_answer_shared_cid :
    let node := fun (host status : String) (port : UInt16) =>
      BrokerNode.mk "" (some host) port none ["json"] none status
    let brokers := [
      Broker.mk "/broker/1" "" "circonus"
        [node "gone" "active" 0, node "near" "active" 8080, node "further" "active" 0],
      Broker.mk "/broker/1" "" "circonus" [node "off" "retired" 0, node "gone" "active" 0],
      Broker.mk "/broker/2" "" "enterprise" [node "trap.noit.circonus.net" "active" 8080]]
    let world := { World.quiet Api.Memory.fresh Storage.FileSystem.empty with
      latency := fun endpoint => if endpoint.host = "near" then some ⟨5⟩ else none }
    let transcript := world.record Api.Memory.answer (select ⟨⟨7⟩, 3⟩ "json:nad" brokers)
    transcript.probes = [⟨⟨"gone", 43191⟩, ⟨7⟩, 3⟩, ⟨⟨"near", 8080⟩, ⟨7⟩, 3⟩,
        ⟨⟨"gone", 43191⟩, ⟨7⟩, 3⟩, ⟨⟨"trap.noit.circonus.net", 443⟩, ⟨7⟩, 3⟩] ∧
      transcript.growth (.probeFailures "/broker/1") = 2 ∧
      transcript.growth (.probeFailures "/broker/2") = 1 := by
  intro node brokers world transcript
  obtain ⟨probes, -, growth⟩ := select_probes_until_answer
    (world.course_run (select ⟨⟨7⟩, 3⟩ "json:nad" brokers)) (replied_record world _)
  refine ⟨probes.trans ?_, (growth _).trans ?_, (growth _).trans ?_⟩
  · rfl
  · decide
  · decide

end Selection
end CheckBinding
