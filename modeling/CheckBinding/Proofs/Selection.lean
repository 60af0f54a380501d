import CheckBinding.Agent.Selection
import CheckBinding.Proofs.Execution

/-!
What the selection of a broker comes to, when every probe of an endpoint gets the same answer.

The race keeps a threshold and its leaders; `Race.Sums` says what both are in terms of the brokers
seen so far. The brokers that may be selected are then given by `Winner`, without any order.
-/

namespace CheckBinding.Selection

open Program

variable {latency : Endpoint → Option Duration} {effort : Effort} {checkType : String}

/-- Surroundings in which an endpoint always gets the same latency; every choice is possible. -/
def probing (latency : Endpoint → Option Duration) : Surroundings Unit :=
  fun _ effect =>
    match effect with
    | .probe endpoint _ _ => fun reply _ => reply = latency endpoint
    | _ => fun _ _ => True

def CanReturn (latency : Endpoint → Option Duration) (effort : Effort) (checkType : String)
    (brokers : List Broker) (outcome : Except CheckFault Broker) : Prop :=
  Yields (probing latency) (select effort checkType brokers) () outcome ()

variable {state final : Unit}

theorem yields_probe {endpoint : Endpoint} {timeout : Duration} {attempts : UInt32}
    {answer : Option Duration} :
    @Yields _ (Option Duration) (probing latency) (ask (.probe endpoint timeout attempts)) state
      answer final ↔ answer = latency endpoint :=
  yields_ask

theorem yields_count {counter : Counter} {amount : Nat} {answer : Unit} :
    Yields (probing latency) (Program.count counter amount) state answer final ↔ True :=
  yields_ask

theorem yields_pick {others : Nat} {index : Fin (others + 1)} :
    @Yields _ (Fin (others + 1)) (probing latency) (ask (.choose others)) state index final ↔
      True :=
  yields_ask

/-! ### The latency of a broker -/

/-- The answer of a node that is probed at all: it is in use, supports the check type, and has an
endpoint. -/
def nodeLatency (latency : Endpoint → Option Duration) (checkType : String)
    (node : BrokerNode) : Option Duration :=
  if node.isActive && node.supports checkType then node.endpoint?.bind latency else none

def brokerLatency (latency : Endpoint → Option Duration) (checkType : String)
    (broker : Broker) : Option Duration :=
  broker.nodes.findSome? (nodeLatency latency checkType)

theorem yields_latencyAmong (cid : String) (nodes : List BrokerNode) (answer : Option Duration) :
    Yields (probing latency) (latencyAmong effort checkType cid nodes) state answer final ↔
      answer = nodes.findSome? (nodeLatency latency checkType) := by
  induction nodes generalizing state with
  | nil => simp [latencyAmong, yields_pure]
  | cons node nodes ih =>
      rw [List.findSome?_cons]
      unfold latencyAmong
      by_cases eligible : (node.isActive && node.supports checkType) = true
      · rw [if_pos eligible]
        cases address : node.endpoint? with
        | none =>
            have unanswered : nodeLatency latency checkType node = none := by
              rw [nodeLatency, if_pos eligible, address, Option.bind_none]
            rw [unanswered]
            exact ih
        | some endpoint =>
            have answered : nodeLatency latency checkType node = latency endpoint := by
              rw [nodeLatency, if_pos eligible, address, Option.bind_some]
            rw [answered]
            cases measured : latency endpoint with
            | none => simp [yields_bind, yields_probe, yields_count, measured, ih]
            | some span => simp [yields_bind, yields_probe, yields_pure, measured]
      · have unanswered : nodeLatency latency checkType node = none := by
          rw [nodeLatency, if_neg eligible]
        rw [if_neg eligible, unanswered]
        exact ih

theorem yields_latency (broker : Broker) (answer : Option Duration) :
    Yields (probing latency) (Selection.latency effort checkType broker) state answer final ↔
      answer = brokerLatency latency checkType broker :=
  yields_latencyAmong broker.cid broker.nodes answer

/-! ### The race -/

def Race.over (speed : Broker → Option Duration) (race : Race) (brokers : List Broker) : Race :=
  brokers.foldl (fun race broker => race.enter broker (speed broker)) race

theorem yields_race (race outcome : Race) (brokers : List Broker) :
    Yields (probing latency) (race.run effort checkType brokers) state outcome final ↔
      outcome = race.over (brokerLatency latency checkType) brokers := by
  induction brokers generalizing race state with
  | nil => simp [Race.run, Race.over, yields_pure]
  | cons broker brokers ih =>
      simp [Race.run, yields_bind, yields_latency, ih, Race.over]

private theorem duration_eq {left right : Duration}
    (same : left.nanoseconds = right.nanoseconds) : left = right := by
  cases left
  exact congrArg Duration.mk same

/-- What a race is after some brokers: its leaders are those with the latency of the threshold,
nobody was faster, and the threshold is the bound itself as long as there are no leaders. -/
structure Race.Sums (speed : Broker → Option Duration) (race : Race) (seen : List Broker) :
    Prop where
  leaders : race.leaders = seen.filter (fun broker => speed broker = some race.threshold)
  fastest : ∀ broker ∈ seen, ∀ span, speed broker = some span →
    race.threshold.nanoseconds ≤ span.nanoseconds
  bounded : race.threshold.nanoseconds ≤ slowest.nanoseconds
  attained : race.leaders = [] → race.threshold = slowest

theorem Race.sums_start (speed : Broker → Option Duration) : Race.start.Sums speed [] where
  leaders := rfl
  fastest := by
    intro broker member
    cases member
  bounded := Nat.le_refl _
  attained := fun _ => rfl

/-- A broker that is slower than the threshold, or has no latency, changes nothing. -/
private theorem Race.Sums.pass {speed : Broker → Option Duration} {race : Race}
    {seen : List Broker} (sums : race.Sums speed seen) (broker : Broker)
    (slower : ∀ span, speed broker = some span →
      race.threshold.nanoseconds < span.nanoseconds) :
    race.Sums speed (seen ++ [broker]) where
  leaders := by
    have different : speed broker ≠ some race.threshold := by
      intro same
      exact Nat.lt_irrefl _ (slower _ same)
    rw [List.filter_append, ← sums.leaders]
    simp [different]
  fastest := by
    intro other member span measured
    rcases List.mem_append.mp member with before | last
    · exact sums.fastest other before span measured
    · rw [List.mem_singleton.mp last] at measured
      exact Nat.le_of_lt (slower span measured)
  bounded := sums.bounded
  attained := sums.attained

private theorem Race.Sums.join {speed : Broker → Option Duration} {race : Race}
    {seen : List Broker} (sums : race.Sums speed seen) (broker : Broker)
    (same : speed broker = some race.threshold) :
    Race.Sums speed ⟨race.threshold, race.leaders ++ [broker]⟩ (seen ++ [broker]) where
  leaders := by
    rw [List.filter_append, ← sums.leaders]
    simp [same]
  fastest := by
    intro other member span measured
    rcases List.mem_append.mp member with before | last
    · exact sums.fastest other before span measured
    · rw [List.mem_singleton.mp last, same, Option.some.injEq] at measured
      exact Nat.le_of_eq (congrArg Duration.nanoseconds measured)
  bounded := sums.bounded
  attained := by
    intro none
    simp at none

private theorem Race.Sums.lead {speed : Broker → Option Duration} {race : Race}
    {seen : List Broker} (sums : race.Sums speed seen) (broker : Broker) {span : Duration}
    (measured : speed broker = some span)
    (faster : span.nanoseconds < race.threshold.nanoseconds) :
    Race.Sums speed ⟨span, [broker]⟩ (seen ++ [broker]) where
  leaders := by
    have slowerBefore : seen.filter (fun other => speed other = some span) = [] := by
      rw [List.filter_eq_nil_iff]
      intro other member same
      have bound := sums.fastest other member span (of_decide_eq_true same)
      omega
    rw [List.filter_append, slowerBefore]
    simp [measured]
  fastest := by
    intro other member further otherMeasured
    rcases List.mem_append.mp member with before | last
    · have bound := sums.fastest other before further otherMeasured
      change span.nanoseconds ≤ further.nanoseconds
      omega
    · rw [List.mem_singleton.mp last, measured, Option.some.injEq] at otherMeasured
      exact Nat.le_of_eq (congrArg Duration.nanoseconds otherMeasured)
  bounded := by
    have bound := sums.bounded
    change span.nanoseconds ≤ slowest.nanoseconds
    omega
  attained := by
    intro none
    cases none

theorem Race.Sums.enter {speed : Broker → Option Duration} {race : Race} {seen : List Broker}
    (sums : race.Sums speed seen) (broker : Broker) :
    (race.enter broker (speed broker)).Sums speed (seen ++ [broker]) := by
  cases measured : speed broker with
  | none =>
      refine sums.pass broker ?_
      intro span impossible
      rw [measured] at impossible
      cases impossible
  | some span =>
      simp only [Race.enter]
      by_cases faster : span < race.threshold
      · rw [if_pos faster]
        exact sums.lead broker measured faster
      · rw [if_neg faster]
        by_cases same : span = race.threshold
        · rw [if_pos same]
          exact sums.join broker (same ▸ measured)
        · rw [if_neg same]
          refine sums.pass broker ?_
          intro further otherMeasured
          rw [measured, Option.some.injEq] at otherMeasured
          subst otherMeasured
          have notFaster : ¬ span.nanoseconds < race.threshold.nanoseconds := faster
          have notSame : span.nanoseconds ≠ race.threshold.nanoseconds := by
            intro equal
            exact same (duration_eq equal)
          omega

theorem Race.Sums.over {speed : Broker → Option Duration} {race : Race} {seen : List Broker}
    (sums : race.Sums speed seen) (brokers : List Broker) :
    (race.over speed brokers).Sums speed (seen ++ brokers) := by
  induction brokers generalizing race seen with
  | nil =>
      rw [List.append_nil]
      exact sums
  | cons broker brokers ih =>
      have further := ih (sums.enter broker)
      rw [List.append_assoc] at further
      exact further

/-! ### Who may be selected -/

def AnswersInTime (speed : Broker → Option Duration) (broker : Broker) : Prop :=
  ∃ span, speed broker = some span ∧ span.nanoseconds ≤ slowest.nanoseconds

def Fastest (speed : Broker → Option Duration) (brokers : List Broker) (broker : Broker) : Prop :=
  broker ∈ brokers ∧ ∃ span, speed broker = some span ∧
    span.nanoseconds ≤ slowest.nanoseconds ∧
    ∀ other ∈ brokers, ∀ further, speed other = some further →
      span.nanoseconds ≤ further.nanoseconds

/-- One of the fastest brokers, and a dedicated one if any of the fastest is. -/
def Winner (speed : Broker → Option Duration) (brokers : List Broker) (broker : Broker) : Prop :=
  Fastest speed brokers broker ∧
    (broker.isEnterprise = true ∨
      ∀ other, Fastest speed brokers other → other.isEnterprise = false)

/-- The leaders at the end are the fastest brokers. -/
theorem Race.Sums.mem_leaders_iff {speed : Broker → Option Duration} {race : Race}
    {brokers : List Broker} (sums : race.Sums speed brokers) (broker : Broker) :
    broker ∈ race.leaders ↔ Fastest speed brokers broker := by
  rw [sums.leaders, List.mem_filter, decide_eq_true_iff]
  constructor
  · rintro ⟨member, measured⟩
    exact ⟨member, race.threshold, measured, sums.bounded, sums.fastest⟩
  · rintro ⟨member, span, measured, within, first⟩
    refine ⟨member, ?_⟩
    -- Without leaders the threshold is the bound; otherwise it is the latency of a leader.
    have atLeast := sums.fastest broker member span measured
    have atMost : span.nanoseconds ≤ race.threshold.nanoseconds := by
      cases leading : race.leaders with
      | nil =>
          rw [sums.attained leading]
          exact within
      | cons leader others =>
          have leads : leader ∈ race.leaders := leading ▸ List.mem_cons_self
          rw [sums.leaders, List.mem_filter, decide_eq_true_iff] at leads
          exact first leader leads.1 race.threshold leads.2
    rw [measured]
    exact congrArg some (duration_eq (Nat.le_antisymm atMost atLeast))

/-- There are leaders exactly when some broker answers within the bound. -/
theorem Race.Sums.leaders_eq_nil_iff {speed : Broker → Option Duration} {race : Race}
    {brokers : List Broker} (sums : race.Sums speed brokers) :
    race.leaders = [] ↔ ∀ broker ∈ brokers, ¬ AnswersInTime speed broker := by
  constructor
  · rintro none broker member ⟨span, measured, within⟩
    have atLeast := sums.fastest broker member span measured
    rw [sums.attained none] at atLeast
    have leads : broker ∈ race.leaders := by
      rw [sums.leaders, List.mem_filter, decide_eq_true_iff, sums.attained none, measured]
      refine ⟨member, ?_⟩
      exact congrArg some (duration_eq (Nat.le_antisymm within atLeast))
    rw [none] at leads
    cases leads
  · intro unreachable
    rw [List.eq_nil_iff_forall_not_mem]
    intro broker leads
    obtain ⟨member, span, measured, within, -⟩ := (sums.mem_leaders_iff broker).mp leads
    exact unreachable broker member ⟨span, measured, within⟩

/-- The dedicated brokers of a list if there are any, else all of it. -/
theorem mem_preferEnterprise (brokers : List Broker) (broker : Broker) :
    broker ∈ preferEnterprise brokers ↔
      broker ∈ brokers ∧ (broker.isEnterprise = true ∨
        ∀ other ∈ brokers, other.isEnterprise = false) := by
  unfold preferEnterprise
  by_cases dedicated : brokers.any Broker.isEnterprise = true
  · rw [if_pos dedicated, List.mem_filter]
    obtain ⟨one, member, enterprise⟩ := List.any_eq_true.mp dedicated
    constructor
    · rintro ⟨here, chosen⟩
      exact ⟨here, Or.inl chosen⟩
    · rintro ⟨here, chosen | shared⟩
      · exact ⟨here, chosen⟩
      · rw [shared one member] at enterprise
        cases enterprise
  · rw [if_neg dedicated]
    constructor
    · intro here
      refine ⟨here, Or.inr ?_⟩
      intro other member
      cases enterprise : other.isEnterprise with
      | false => rfl
      | true => exact absurd (List.any_eq_true.mpr ⟨other, member, enterprise⟩) dedicated
    · rintro ⟨here, -⟩
      exact here

theorem preferEnterprise_eq_nil_iff (brokers : List Broker) :
    preferEnterprise brokers = [] ↔ brokers = [] := by
  constructor
  · intro empty
    rw [List.eq_nil_iff_forall_not_mem]
    intro broker member
    by_cases dedicated : brokers.any Broker.isEnterprise = true
    · obtain ⟨one, here, enterprise⟩ := List.any_eq_true.mp dedicated
      have kept := (mem_preferEnterprise brokers one).mpr ⟨here, Or.inl enterprise⟩
      rw [empty] at kept
      cases kept
    · unfold preferEnterprise at empty
      rw [if_neg dedicated] at empty
      rw [empty] at member
      cases member
  · rintro rfl
    rfl

/-! ### The outcomes -/

theorem yields_choose (considered : Nat) (brokers : List Broker)
    (outcome : Except CheckFault Broker) :
    Yields (probing latency) (choose considered brokers) state outcome final ↔
      (brokers = [] ∧ outcome = .error (.noValidBroker considered)) ∨
        ∃ broker ∈ brokers, outcome = .ok broker := by
  match brokers with
  | [] => simp [choose, yields_pure]
  | [only] => simp [choose, yields_pure]
  | first :: second :: others =>
      simp only [choose, yields_bind, yields_pick, yields_pure, reduceCtorEq, false_and, false_or]
      constructor
      · rintro ⟨index, _, _, rfl, -⟩
        exact ⟨_, List.get_mem (first :: second :: others) index, rfl⟩
      · rintro ⟨broker, member, rfl⟩
        obtain ⟨index, found⟩ := List.get_of_mem member
        exact ⟨index, (), trivial, by rw [found], trivial⟩

theorem yields_candidates (brokers outcome : List Broker) :
    Yields (probing latency) (candidates effort checkType brokers) state outcome final ↔
      outcome = preferEnterprise
        (Race.start.over (brokerLatency latency checkType) brokers).leaders := by
  simp [candidates, yields_bind, yields_pure, yields_race]

theorem not_winner_nil {speed : Broker → Option Duration} (broker : Broker) :
    ¬ Winner speed [] broker := by
  rintro ⟨⟨member, -⟩, -⟩
  cases member

/-- Every outcome of a selection: a failure without brokers, another one when none of them answers
within the bound, else one of the winners. -/
theorem canReturn_iff (brokers : List Broker) (outcome : Except CheckFault Broker) :
    CanReturn latency effort checkType brokers outcome ↔
      (brokers = [] ∧ outcome = .error .noBrokers) ∨
      (brokers ≠ [] ∧
        (∀ broker ∈ brokers, ¬ AnswersInTime (brokerLatency latency checkType) broker) ∧
        outcome = .error (.noValidBroker brokers.length)) ∨
      ∃ broker, Winner (brokerLatency latency checkType) brokers broker ∧
        outcome = .ok broker := by
  have sums := (Race.sums_start (brokerLatency latency checkType)).over brokers
  rw [List.nil_append] at sums
  unfold CanReturn select
  by_cases absent : brokers = []
  · subst absent
    simp [yields_pure, not_winner_nil]
  · have notEmpty : brokers.isEmpty ≠ true := by
      simpa using absent
    rw [if_neg notEmpty]
    simp only [yields_bind, yields_candidates, exists_and_left, exists_eq_left, exists_const,
      yields_choose, preferEnterprise_eq_nil_iff, sums.leaders_eq_nil_iff, mem_preferEnterprise,
      sums.mem_leaders_iff, Winner, absent, false_and, false_or, ne_eq, not_false_eq_true,
      true_and]

theorem Winner.perm {speed : Broker → Option Duration} {brokers others : List Broker}
    (same : brokers.Perm others) (broker : Broker) :
    Winner speed brokers broker ↔ Winner speed others broker := by
  simp only [Winner, Fastest, same.mem_iff]

/-- The outcomes of a selection. It fails for the lack of brokers exactly when there are none, for
the lack of a valid one exactly when none answers within the bound, and otherwise selects any of
the winners and nobody else; the order of the brokers does not matter for who that is. -/
theorem select_outcomes (latency : Endpoint → Option Duration) (effort : Effort)
    (checkType : String) (brokers : List Broker) :
    (∀ outcome, CanReturn latency effort checkType brokers outcome ↔
      (brokers = [] ∧ outcome = .error .noBrokers) ∨
      (brokers ≠ [] ∧
        (∀ broker ∈ brokers, ¬ AnswersInTime (brokerLatency latency checkType) broker) ∧
        outcome = .error (.noValidBroker brokers.length)) ∨
      ∃ broker, Winner (brokerLatency latency checkType) brokers broker ∧
        outcome = .ok broker) ∧
    ∀ others, brokers.Perm others → ∀ broker,
      (CanReturn latency effort checkType brokers (.ok broker) ↔
        CanReturn latency effort checkType others (.ok broker)) := by
  refine ⟨canReturn_iff brokers, ?_⟩
  intro others same broker
  rw [canReturn_iff, canReturn_iff]
  simp [Winner.perm same]

/-- A dedicated broker beats an equally fast shared one and a slower dedicated one, wherever it
stands in the list. -/
theorem select_outcomes_tie :
    let node := fun host : String => BrokerNode.mk "" (some host) 0 none ["json"] none "active"
    let shared := Broker.mk "/broker/1" "" "circonus" [node "near"]
    let dedicated := Broker.mk "/broker/2" "" "enterprise" [node "gone", node "near"]
    let slow := Broker.mk "/broker/3" "" "enterprise" [node "far"]
    let latency := fun endpoint : Endpoint =>
      if endpoint.host = "near" then some ⟨5⟩ else if endpoint.host = "far" then some ⟨6⟩ else none
    [slow, shared, dedicated].Perm [dedicated, slow, shared] ∧
      CanReturn latency ⟨⟨1⟩, 1⟩ "json:nad" [dedicated, slow, shared] (.ok dedicated) ∧
      ¬ CanReturn latency ⟨⟨1⟩, 1⟩ "json:nad" [slow, shared, dedicated] (.ok shared) := by
  intro node shared dedicated slow latency
  have same : [slow, shared, dedicated].Perm [dedicated, slow, shared] := by decide
  have sharedSpeed : brokerLatency latency "json:nad" shared = some ⟨5⟩ := by decide
  have dedicatedSpeed : brokerLatency latency "json:nad" dedicated = some ⟨5⟩ := by decide
  have slowSpeed : brokerLatency latency "json:nad" slow = some ⟨6⟩ := by decide
  obtain ⟨outcomes, anyOrder⟩ :=
    select_outcomes latency ⟨⟨1⟩, 1⟩ "json:nad" [slow, shared, dedicated]
  have fastest : Fastest (brokerLatency latency "json:nad") [slow, shared, dedicated]
      dedicated := by
    refine ⟨by simp, ⟨5⟩, dedicatedSpeed, by decide, ?_⟩
    simp [sharedSpeed, dedicatedSpeed, slowSpeed]
  refine ⟨same, ?_, ?_⟩
  · rw [← anyOrder _ same, outcomes]
    exact Or.inr (Or.inr ⟨dedicated, ⟨fastest, Or.inl rfl⟩, rfl⟩)
  · rw [outcomes]
    rintro (⟨-, impossible⟩ | ⟨-, -, impossible⟩ | ⟨broker, ⟨-, preferred⟩, chosen⟩)
    · cases impossible
    · cases impossible
    · cases chosen
      rcases preferred with enterprise | allShared
      · exact absurd enterprise (by decide)
      · exact absurd (allShared dedicated fastest) (by decide)

end CheckBinding.Selection
