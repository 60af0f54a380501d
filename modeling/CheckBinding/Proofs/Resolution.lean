import CheckBinding.Proofs.Cids
import CheckBinding.Proofs.Courses

/-!
The protocol of a resolution.

Which calls a resolution makes is a matter of the configuration and of what the service and the
brokers answer. Every course of a resolution takes one of a few paths, and what is asked, returned
and counted is read off the path.
-/

namespace CheckBinding

open Program

namespace Resolution

variable {config : Config} {transcript : Transcript}

abbrev searchCall (config : Config) : Api.Call :=
  .search (criteria config.checkType config.target) none

def judged (config : Config) : Except Api.Fault (List Bundle) → Except CheckFault Bundle
  | .error fault =>
      .error (.api (.searchingBundles (criteria config.checkType config.target)) fault)
  | .ok [] => .error (.notFound config.checkType config.target)
  | .ok [bundle] => ensureActive bundle
  | .ok found => .error (.ambiguous found.length config.checkType config.target)

inductive Path (config : Config) :
    Transcript → ResolutionMethod → Except CheckFault Bundle → Prop
  | refused {text : String} {fault : Cid.Fault} (given : config.bundleId = some text)
      (invalid : Cid.normalize .checkBundle text = .error fault) :
      Path config [] .id (.error (.invalid (.cid fault)))
  | fetched {text cid : String} {answer : (Api.Call.fetchBundle cid).Answer}
      (given : config.bundleId = some text) (valid : Cid.normalize .checkBundle text = .ok cid) :
      Path config [⟨.call (.fetchBundle cid), answer⟩] .id
        ((answer.mapError (.api (.fetchingBundle cid))).bind ensureActive)
  | untargeted (free : config.bundleId = none) (empty : config.target = "") :
      Path config [] .search (.error .emptyTarget)
  | searched {answer : (searchCall config).Answer} (free : config.bundleId = none)
      (targeted : config.target ≠ "") (settled : answer = .ok [] → config.create = false) :
      Path config [⟨.call (searchCall config), answer⟩] .search (judged config answer)
  | unlisted {fault : Api.Fault} (free : config.bundleId = none) (targeted : config.target ≠ "")
      (creates : config.create = true) :
      Path config
        [⟨.call (searchCall config), .ok []⟩, ⟨.call .fetchBrokers, .error fault⟩] .create
        (.error (.api .fetchingBrokers fault))
  | unchosen {brokers : List Broker} {choosing : Transcript} {fault : CheckFault}
      (free : config.bundleId = none) (targeted : config.target ≠ "")
      (creates : config.create = true)
      (unchosen : Course (brokerFor config brokers) choosing (.error fault)) :
      Path config
        (⟨.call (searchCall config), .ok []⟩ :: ⟨.call .fetchBrokers, .ok brokers⟩ :: choosing)
        .create (.error fault)
  | created {brokers : List Broker} {choosing : Transcript} {broker : String}
      {answer : (Api.Call.create (draft config broker)).Answer}
      (free : config.bundleId = none) (targeted : config.target ≠ "")
      (creates : config.create = true)
      (chosen : Course (brokerFor config brokers) choosing (.ok broker)) :
      Path config
        (⟨.call (searchCall config), .ok []⟩ :: ⟨.call .fetchBrokers, .ok brokers⟩ ::
          (choosing ++ [⟨.call (.create (draft config broker)), answer⟩])) .create
        ((answer.mapError (.api (.creatingBundle config.target))).bind ensureActive)

/-! ### Every course takes a path -/

theorem path_of_fetchById {text : String} {outcome : Except CheckFault Bundle}
    (given : config.bundleId = some text) (course : Course (fetchById text) transcript outcome) :
    Path config transcript .id outcome := by
  rw [fetchById] at course
  cases normal : Cid.normalize .checkBundle text with
  | error fault =>
      rw [normal] at course
      obtain ⟨rfl, rfl⟩ := course_pure.mp course
      exact .refused given normal
  | ok cid =>
      rw [normal] at course
      obtain ⟨fetched, first, rest, rfl, asking, done⟩ := course_bind.mp course
      obtain ⟨answer, rfl, rfl⟩ := course_ask.mp asking
      obtain ⟨rfl, rfl⟩ := course_pure.mp done
      exact .fetched given normal

theorem path_of_createFromList {outcome : Except CheckFault Bundle}
    (free : config.bundleId = none) (targeted : config.target ≠ "")
    (creates : config.create = true)
    (course : Course (createFromList config) transcript outcome) :
    Path config (⟨.call (searchCall config), .ok []⟩ :: transcript) .create outcome := by
  rw [createFromList] at course
  obtain ⟨listed, first, rest, rfl, asking, later⟩ := course_bind.mp course
  obtain ⟨answer, rfl, rfl⟩ := course_ask.mp asking
  cases answer with
  | error fault =>
      obtain ⟨rfl, rfl⟩ := course_pure.mp later
      exact .unlisted free targeted creates
  | ok brokers =>
      change Course (create config brokers) rest outcome at later
      rw [create, if_neg targeted] at later
      obtain ⟨chosen, choosing, last, rfl, choosingCourse, creating⟩ := course_bind.mp later
      cases chosen with
      | error fault =>
          obtain ⟨rfl, rfl⟩ := course_pure.mp creating
          rw [List.append_nil]
          exact .unchosen free targeted creates choosingCourse
      | ok broker =>
          obtain ⟨made, second, nothing, rfl, making, done⟩ := course_bind.mp creating
          obtain ⟨answer, rfl, rfl⟩ := course_ask.mp making
          obtain ⟨rfl, rfl⟩ := course_pure.mp done
          exact .created free targeted creates choosingCourse

theorem path_of_attempt {result : ResolutionMethod × Except CheckFault Bundle}
    (course : Course (attempt config) transcript result) :
    Path config transcript result.1 result.2 := by
  rw [attempt] at course
  cases given : config.bundleId with
  | some text =>
      rw [given] at course
      obtain ⟨outcome, first, nothing, rfl, fetching, done⟩ := course_bind.mp course
      obtain ⟨rfl, rfl⟩ := course_pure.mp done
      rw [List.append_nil]
      exact path_of_fetchById given fetching
  | none =>
      rw [given] at course
      obtain ⟨found, first, rest, rfl, searching, later⟩ := course_bind.mp course
      rw [search] at searching
      by_cases empty : config.target = ""
      · rw [if_pos empty] at searching
        obtain ⟨rfl, rfl⟩ := course_pure.mp searching
        obtain ⟨rfl, rfl⟩ := course_pure.mp later
        exact .untargeted given empty
      · rw [if_neg empty] at searching
        obtain ⟨asked, second, nothing, rfl, asking, done⟩ := course_bind.mp searching
        obtain ⟨answer, rfl, rfl⟩ := course_ask.mp asking
        obtain ⟨rfl, rfl⟩ := course_pure.mp done
        rcases answer with fault | _ | ⟨bundle, _ | ⟨second, others⟩⟩
        · obtain ⟨rfl, rfl⟩ := course_pure.mp later
          exact .searched given empty (fun none => by cases none)
        · change Course (if config.create = true then _ else _) rest result at later
          by_cases creates : config.create = true
          · rw [if_pos creates] at later
            obtain ⟨outcome, creating, nothing, rfl, listing, done⟩ := course_bind.mp later
            obtain ⟨rfl, rfl⟩ := course_pure.mp done
            simp only [List.append_nil, List.singleton_append]
            exact path_of_createFromList given empty creates listing
          · rw [if_neg creates] at later
            obtain ⟨rfl, rfl⟩ := course_pure.mp later
            exact .searched given empty (fun _ => Bool.eq_false_iff.mpr creates)
        · have unsettled : (.ok [bundle] : (searchCall config).Answer) = .ok [] →
              config.create = false := fun none => by cases none
          have path := Path.searched given empty unsettled
          dsimp only [Except.mapError, Except.bind, onlyMatch] at later
          change Path config _ .search (ensureActive bundle) at path
          cases active : ensureActive bundle with
          | error fault =>
              rw [active] at later path
              obtain ⟨rfl, rfl⟩ := course_pure.mp later
              exact path
          | ok bundle =>
              rw [active] at later path
              obtain ⟨rfl, rfl⟩ := course_pure.mp later
              exact path
        · obtain ⟨rfl, rfl⟩ := course_pure.mp later
          exact .searched given empty (fun none => by cases none)

/-- A resolution takes a path, then it is counted. -/
theorem exists_path {outcome : Except CheckFault Bundle}
    (course : Course (resolve config) transcript outcome) :
    ∃ path method, Path config path method outcome ∧
      transcript = path ++ [⟨.count (.resolutions method (succeeded outcome)) 1, ()⟩] := by
  rw [resolve] at course
  obtain ⟨⟨method, attempted⟩, path, rest, rfl, attempting, later⟩ := course_bind.mp course
  obtain ⟨_, counting, nothing, rfl, counted, done⟩ := course_bind.mp later
  obtain rfl := Program.course_ask.mp counted
  obtain ⟨rfl, rfl⟩ := course_pure.mp done
  exact ⟨path, method, path_of_attempt attempting, rfl⟩

/-! ### Choosing a broker -/

/-- Choosing a broker asks the service for nothing, and counts no resolution. -/
theorem choosing_silent {brokers : List Broker} {choosing : Transcript}
    {chosen : Except CheckFault String}
    (course : Course (brokerFor config brokers) choosing chosen) :
    choosing.calls = [] ∧ choosing.resolutions = [] ∧ choosing.bundles = [] := by
  have probes := ((brokerFor_probes config brokers).course course).1
  have silent : ∀ exchange : Exchange, exchange.effect.Probes →
      exchange.call? = none ∧ exchange.resolution? = none ∧ exchange.bundle? = none := by
    rintro ⟨effect, reply⟩ permitted
    cases effect with
    | call call => exact permitted.elim
    | count counter amount =>
        cases counter with
        | resolutions method succeeded => exact permitted.elim
        | _ => exact ⟨rfl, rfl, rfl⟩
    | _ => exact ⟨rfl, rfl, rfl⟩
  have quiet := fun exchange member => silent exchange (probes exchange member)
  refine ⟨?_, ?_, ?_⟩
  · exact List.filterMap_eq_nil_iff.mpr (fun exchange member => (quiet exchange member).1)
  · exact List.filterMap_eq_nil_iff.mpr (fun exchange member => (quiet exchange member).2.1)
  · exact List.filterMap_eq_nil_iff.mpr (fun exchange member => (quiet exchange member).2.2)

/-- The broker chosen is listed; it is the configured one, or one that a selection returned. -/
theorem broker_of_course {brokers : List Broker} {choosing : Transcript} {cid : String}
    (course : Course (brokerFor config brokers) choosing (.ok cid)) :
    ∃ broker ∈ brokers, broker.cid = cid ∧
      (config.broker = .id broker.cid ∨ config.broker = .select ∧
        Course (Selection.select ⟨config.brokerMaxResponseTime, config.brokerMaxRetries⟩
          config.checkType brokers) choosing (.ok broker)) := by
  have listed := ((brokerFor_probes config brokers).course course).2 cid rfl
  rw [brokerFor] at course
  cases choice : config.broker with
  | id configured =>
      rw [choice] at course
      obtain ⟨broker, member, rfl⟩ := List.mem_map.mp listed
      dsimp only at course
      split at course
      · obtain ⟨-, same⟩ := course_pure.mp course
        cases same
        exact ⟨broker, member, rfl, Or.inl rfl⟩
      · obtain ⟨-, impossible⟩ := course_pure.mp course
        cases impossible
  | select =>
      rw [choice] at course
      obtain ⟨selected, selecting, nothing, rfl, selection, done⟩ := course_bind.mp course
      obtain ⟨rfl, same⟩ := course_pure.mp done
      cases selected with
      | error fault => cases same
      | ok broker =>
          cases same
          rw [List.append_nil]
          have among := ((Selection.select_probes brokers).course selection).2 broker rfl
          exact ⟨broker, among, rfl, Or.inr ⟨rfl, selection⟩⟩

/-! ### What a path asks for -/

inductive Sequence (config : Config) : List Api.Call → Prop
  | refused {text : String} (given : config.bundleId = some text)
      (number : Cid.isNumber text = false)
      (canonical : Cid.isCanonical .checkBundle text = false) : Sequence config []
  | untargeted (free : config.bundleId = none) (empty : config.target = "") : Sequence config []
  | fetch {text cid : String} (given : config.bundleId = some text)
      (valid : Cid.normalize .checkBundle text = .ok cid) : Sequence config [.fetchBundle cid]
  | search (free : config.bundleId = none) (targeted : config.target ≠ "") :
      Sequence config [searchCall config]
  | list (free : config.bundleId = none) (targeted : config.target ≠ "")
      (creates : config.create = true) : Sequence config [searchCall config, .fetchBrokers]
  | create {broker : String} (free : config.bundleId = none) (targeted : config.target ≠ "")
      (creates : config.create = true) :
      Sequence config [searchCall config, .fetchBrokers, .create (draft config broker)]

variable {method : ResolutionMethod} {outcome : Except CheckFault Bundle}

theorem Path.sequence (path : Path config transcript method outcome) :
    Sequence config transcript.calls := by
  cases path with
  | refused given invalid =>
      obtain ⟨number, canonical⟩ := Cid.normalize_eq_error invalid
      exact .refused given number canonical
  | fetched given valid => exact .fetch given valid
  | untargeted free empty => exact .untargeted free empty
  | searched free targeted settled => exact .search free targeted
  | unlisted free targeted creates => exact .list free targeted creates
  | @unchosen brokers choosing fault free targeted creates unchosen =>
      have silent := (choosing_silent unchosen).1
      change Sequence config (searchCall config :: .fetchBrokers :: choosing.calls)
      rw [silent]
      exact .list free targeted creates
  | @created brokers choosing broker answer free targeted creates chosen =>
      have silent := (choosing_silent chosen).1
      change Sequence config (searchCall config :: .fetchBrokers ::
        Transcript.calls (choosing ++ [_]))
      rw [Transcript.calls_append, silent]
      exact .create free targeted creates

/-- A search is answered at the beginning, and a path that goes on behind it creates. -/
theorem Path.answered_search (path : Path config transcript method outcome)
    {answer : (searchCall config).Answer}
    (answered : transcript.Answered (searchCall config) answer) :
    (config.create = true ∧ answer = .ok [] ∧ method = .create) ∨
      ((answer = .ok [] → config.create = false) ∧ method = .search ∧
        transcript = [⟨.call (searchCall config), answer⟩] ∧ outcome = judged config answer) := by
  have elsewhere : ∀ {brokers : List Broker} {choosing : Transcript}
      {chosen : Except CheckFault String}, Course (brokerFor config brokers) choosing chosen →
      ¬ choosing.Answered (searchCall config) answer := by
    intro brokers choosing chosen course member
    exact ((brokerFor_probes config brokers).course course).1 _ member
  cases path with
  | refused given invalid => cases answered
  | fetched given valid =>
      have same := List.mem_singleton.mp answered
      cases same
  | untargeted free empty => cases answered
  | searched free targeted settled =>
      have same := List.mem_singleton.mp answered
      cases same
      exact Or.inr ⟨settled, rfl, rfl, rfl⟩
  | unlisted free targeted creates =>
      refine Or.inl ⟨creates, ?_, rfl⟩
      rcases List.mem_cons.mp answered with same | later
      · cases same
        rfl
      · have same := List.mem_singleton.mp later
        cases same
  | unchosen free targeted creates unchosen =>
      refine Or.inl ⟨creates, ?_, rfl⟩
      rcases List.mem_cons.mp answered with same | later
      · cases same
        rfl
      · rcases List.mem_cons.mp later with same | choosing
        · cases same
        · exact absurd choosing (elsewhere unchosen)
  | created free targeted creates chosen =>
      refine Or.inl ⟨creates, ?_, rfl⟩
      rcases List.mem_cons.mp answered with same | later
      · cases same
        rfl
      · rcases List.mem_cons.mp later with same | rest
        · cases same
        · rcases List.mem_append.mp rest with choosing | last
          · exact absurd choosing (elsewhere chosen)
          · have same := List.mem_singleton.mp last
            cases same

theorem Path.creates_iff (path : Path config transcript method outcome) :
    method = .create ↔
      config.create = true ∧ transcript.Answered (searchCall config) (.ok []) := by
  constructor
  · intro creating
    cases path with
    | unlisted free targeted creates => exact ⟨creates, List.mem_cons_self⟩
    | unchosen free targeted creates unchosen => exact ⟨creates, List.mem_cons_self⟩
    | created free targeted creates chosen => exact ⟨creates, List.mem_cons_self⟩
    | _ => cases creating
  · rintro ⟨creates, answered⟩
    rcases path.answered_search answered with ⟨-, -, creating⟩ | ⟨settled, -⟩
    · exact creating
    · rw [settled rfl] at creates
      cases creates

/-! ### What a path comes to -/

/-- A bundle that a path meets decides what it comes to. -/
theorem Path.judges (path : Path config transcript method outcome) {bundle : Bundle}
    (met : bundle ∈ transcript.bundles) : outcome = ensureActive bundle := by
  cases path with
  | refused given invalid => cases met
  | @fetched text cid answer given valid =>
      cases answer with
      | error fault => cases met
      | ok fetched =>
          have same := List.mem_singleton.mp met
          rw [same]
          rfl
  | untargeted free empty => cases met
  | @searched answer free targeted settled =>
      match answer with
      | .error fault => cases met
      | .ok [] => cases met
      | .ok [found] =>
          have same := List.mem_singleton.mp met
          rw [same]
          rfl
      | .ok (first :: second :: others) => cases met
  | unlisted free targeted creates => cases met
  | @unchosen brokers choosing fault free targeted creates unchosen =>
      change bundle ∈ choosing.bundles at met
      rw [(choosing_silent unchosen).2.2] at met
      cases met
  | @created brokers choosing broker answer free targeted creates chosen =>
      change bundle ∈ Transcript.bundles (choosing ++ [_]) at met
      rw [Transcript.bundles_append, (choosing_silent chosen).2.2] at met
      cases answer with
      | error fault => cases met
      | ok made =>
          have same := List.mem_singleton.mp met
          rw [same]
          rfl

theorem bundle_met_of_judged {answer : Except Api.Fault (List Bundle)} {bundle : Bundle}
    (judged : judged config answer = .ok bundle) : answer = .ok [bundle] := by
  match answer with
  | .error fault => cases judged
  | .ok [] => cases judged
  | .ok [found] =>
      obtain ⟨rfl, -⟩ := ensureActive_eq_ok.mp judged
      rfl
  | .ok (first :: second :: others) => cases judged

theorem bundle_of_asked {activity : Activity} {answer : Except Api.Fault Bundle} {bundle : Bundle}
    (asked : (answer.mapError (.api activity)).bind ensureActive = .ok bundle) :
    answer = .ok bundle := by
  cases answer with
  | error fault => cases asked
  | ok found =>
      obtain ⟨same, -⟩ := bind_ensureActive_eq_ok.mp asked
      cases same
      rfl

theorem Path.meets {bundle : Bundle} (path : Path config transcript method (.ok bundle)) :
    bundle ∈ transcript.bundles := by
  -- The outcomes of the paths are not constructors, so the cases need a variable in their place.
  generalize result : (Except.ok bundle : Except CheckFault Bundle) = outcome at path
  cases path with
  | fetched given valid =>
      rw [bundle_of_asked result.symm]
      exact List.mem_singleton_self bundle
  | searched free targeted settled =>
      rw [bundle_met_of_judged result.symm]
      exact List.mem_singleton_self bundle
  | @created brokers choosing broker answer free targeted creates chosen =>
      change bundle ∈ Transcript.bundles (choosing ++ [_])
      rw [Transcript.bundles_append, bundle_of_asked result.symm]
      exact List.mem_append_right _ (List.mem_singleton_self bundle)
  | _ => cases result

/-- A resolution comes to a bundle just when it meets it and it is active. -/
theorem Path.eq_ok_iff (path : Path config transcript method outcome) {bundle : Bundle} :
    outcome = .ok bundle ↔ bundle ∈ transcript.bundles ∧ bundle.isActive = true := by
  constructor
  · rintro rfl
    have met := path.meets
    exact ⟨met, (ensureActive_eq_ok.mp (path.judges met).symm).2⟩
  · rintro ⟨met, active⟩
    rw [path.judges met]
    exact ensureActive_eq_ok.mpr ⟨rfl, active⟩

/-! ### What is counted -/

/-- A path counts no resolution; its method says which calls were made. -/
theorem Path.method_iff (path : Path config transcript method outcome) :
    transcript.resolutions = [] ∧ (method = .id ↔ config.bundleId ≠ none) ∧
      (method = .create ↔ .fetchBrokers ∈ transcript.calls) := by
  cases path with
  | refused given invalid => simp [Transcript.resolutions, Transcript.calls, given]
  | fetched given valid =>
      simp [Transcript.resolutions, Transcript.calls, Exchange.resolution?, Exchange.call?, given]
  | untargeted free empty => simp [Transcript.resolutions, Transcript.calls, free]
  | searched free targeted settled =>
      simp [Transcript.resolutions, Transcript.calls, Exchange.resolution?, Exchange.call?, free]
  | unlisted free targeted creates =>
      simp [Transcript.resolutions, Transcript.calls, Exchange.resolution?, Exchange.call?, free]
  | unchosen free targeted creates unchosen =>
      have silent := (choosing_silent unchosen).2.1
      refine ⟨silent, by simp [free], by simp [Transcript.calls, Exchange.call?]⟩
  | @created brokers choosing broker answer free targeted creates chosen =>
      have silent := (choosing_silent chosen).2.1
      refine ⟨?_, by simp [free], by simp [Transcript.calls, Exchange.call?]⟩
      change Transcript.resolutions (choosing ++ [_]) = []
      rw [Transcript.resolutions_append, silent]
      rfl

/-! ### The protocol -/

/-- What a resolution keeps to. -/
structure Orderly (config : Config) (transcript : Transcript)
    (outcome : Except CheckFault Bundle) : Prop where
  /-- The calls are one of a few sequences, each of which goes with a configuration. -/
  sequence : Sequence config transcript.calls
  /-- Nothing is asked for just when the identifier is malformed or there is no target. -/
  silent : transcript.calls = [] ↔
    (∃ text, config.bundleId = some text ∧ Cid.isNumber text = false ∧
      Cid.isCanonical .checkBundle text = false) ∨
    (config.bundleId = none ∧ config.target = "")
  /-- With an identifier only its bundle is fetched. -/
  identified : ∀ text, config.bundleId = some text → ∀ call ∈ transcript.calls,
    ∃ cid, call = .fetchBundle cid ∧ Cid.normalize .checkBundle text = .ok cid ∧
      Cid.isCanonical .checkBundle cid = true
  /-- The broker list is read just when nothing was found and a bundle may be created. -/
  listing : .fetchBrokers ∈ transcript.calls ↔
    config.create = true ∧ transcript.Answered (searchCall config) (.ok [])
  /-- What is created has a target and one broker from the list, configured or selected. -/
  creating : ∀ draft, .create draft ∈ transcript.calls → draft.target ≠ "" ∧
    ∃ brokers broker, transcript.Answered .fetchBrokers (.ok brokers) ∧ broker ∈ brokers ∧
      draft.brokers = [broker.cid] ∧
      (config.broker = .id broker.cid ∨ config.broker = .select ∧ ∃ selecting,
        selecting <:+: transcript ∧ Course (Selection.select
          ⟨config.brokerMaxResponseTime, config.brokerMaxRetries⟩ config.checkType brokers)
          selecting (.ok broker))
  /-- Several search results are refused, and nothing else is asked for. -/
  ambiguous : ∀ found, transcript.Answered (searchCall config) (.ok found) → 2 ≤ found.length →
    outcome = .error (.ambiguous found.length config.checkType config.target) ∧
      transcript.calls = [searchCall config]
  /-- The outcome is a bundle just when that one was met and is active. -/
  active : ∀ bundle, outcome = .ok bundle ↔
    bundle ∈ transcript.bundles ∧ bundle.isActive = true
  /-- One resolution is counted, under the way that was taken and the way it ended. -/
  counted : ∃ method ok, transcript.resolutions = [(method, ok, 1)] ∧
    (method = .id ↔ config.bundleId ≠ none) ∧
    (method = .create ↔ .fetchBrokers ∈ transcript.calls) ∧
    (ok = true ↔ ∃ bundle, outcome = .ok bundle)

theorem Sequence.silent_iff {calls : List Api.Call} (sequence : Sequence config calls) :
    calls = [] ↔
      (∃ text, config.bundleId = some text ∧ Cid.isNumber text = false ∧
        Cid.isCanonical .checkBundle text = false) ∨
      (config.bundleId = none ∧ config.target = "") := by
  cases sequence with
  | refused given number canonical => simp [given, number, canonical]
  | untargeted free empty => simp [free, empty]
  | fetch given valid =>
      rcases Cid.normalize_eq_ok.mp valid with ⟨number, -⟩ | ⟨canonical, -⟩
      · simp [given, number]
      · simp [given, canonical]
  | search free targeted => simp [free, targeted]
  | list free targeted creates => simp [free, targeted]
  | create free targeted creates => simp [free, targeted]

theorem Sequence.identified {calls : List Api.Call} (sequence : Sequence config calls)
    {text : String} (given : config.bundleId = some text) {call : Api.Call}
    (member : call ∈ calls) :
    ∃ cid, call = .fetchBundle cid ∧ Cid.normalize .checkBundle text = .ok cid ∧
      Cid.isCanonical .checkBundle cid = true := by
  cases sequence with
  | refused _ number canonical => cases member
  | untargeted free empty => cases member
  | fetch configured valid =>
      cases given.symm.trans configured
      exact ⟨_, List.mem_singleton.mp member, valid, Cid.isCanonical_of_normalize valid⟩
  | search free targeted => cases given.symm.trans free
  | list free targeted creates => cases given.symm.trans free
  | create free targeted creates => cases given.symm.trans free

theorem Path.creating (path : Path config transcript method outcome) {bundle : Bundle}
    (member : .create bundle ∈ transcript.calls) :
    ∃ brokers choosing broker, config.target ≠ "" ∧ bundle = draft config broker ∧
      Course (brokerFor config brokers) choosing (.ok broker) ∧
      transcript.Answered .fetchBrokers (.ok brokers) ∧ choosing <:+: transcript := by
  cases path with
  | refused given invalid => cases member
  | fetched given valid =>
      have same := List.mem_singleton.mp member
      cases same
  | untargeted free empty => cases member
  | searched free targeted settled =>
      have same := List.mem_singleton.mp member
      cases same
  | unlisted free targeted creates => simp [Transcript.calls, Exchange.call?] at member
  | @unchosen brokers choosing fault free targeted creates unchosen =>
      change _ ∈ searchCall config :: .fetchBrokers :: choosing.calls at member
      rw [(choosing_silent unchosen).1] at member
      simp at member
  | @created brokers choosing broker answer free targeted creates chosen =>
      change _ ∈ searchCall config :: .fetchBrokers :: Transcript.calls (choosing ++ [_]) at member
      rw [Transcript.calls_append, (choosing_silent chosen).1] at member
      have same : bundle = draft config broker := by
        simpa [Transcript.calls, Exchange.call?] using member
      refine ⟨brokers, choosing, broker, targeted, same, chosen, ?_, ?_⟩
      · exact List.mem_cons_of_mem _ List.mem_cons_self
      · exact ⟨[_, _], [_], rfl⟩

theorem succeeded_iff {outcome : Except CheckFault Bundle} :
    succeeded outcome = true ↔ ∃ bundle, outcome = .ok bundle := by
  cases outcome with
  | ok bundle => simp [succeeded]
  | error fault => simp [succeeded]

theorem orderly_of_course (course : Course (resolve config) transcript outcome) :
    Orderly config transcript outcome := by
  -- The path says it all; the count behind it is no call and brings no bundle.
  obtain ⟨part, method, path, rfl⟩ := exists_path course
  have calls : Transcript.calls
      (part ++ [⟨.count (.resolutions method (succeeded outcome)) 1, ()⟩]) = part.calls := by
    rw [Transcript.calls_append]
    exact List.append_nil _
  have bundles : Transcript.bundles
      (part ++ [⟨.count (.resolutions method (succeeded outcome)) 1, ()⟩]) = part.bundles := by
    rw [Transcript.bundles_append]
    exact List.append_nil _
  have answered : ∀ {call : Api.Call} {answer : call.Answer}, Transcript.Answered
      (part ++ [⟨.count (.resolutions method (succeeded outcome)) 1, ()⟩]) call answer ↔
        part.Answered call answer := by
    intro call answer
    rw [Transcript.answered_append]
    simp [Transcript.Answered]
  obtain ⟨uncounted, byId, byCreation⟩ := path.method_iff
  constructor
  · rw [calls]
    exact path.sequence
  · rw [calls]
    exact path.sequence.silent_iff
  · intro text given call member
    rw [calls] at member
    exact path.sequence.identified given member
  · rw [calls, answered, ← byCreation]
    exact path.creates_iff
  · intro bundle member
    rw [calls] at member
    obtain ⟨brokers, choosing, broker, targeted, rfl, chosen, listed, within⟩ :=
      path.creating member
    obtain ⟨selected, among, rfl, how⟩ := broker_of_course chosen
    refine ⟨targeted, brokers, selected, answered.mpr listed, among, rfl, ?_⟩
    rcases how with configured | ⟨select, selection⟩
    · exact Or.inl configured
    · exact Or.inr ⟨select, choosing, within.trans (List.prefix_append part _).isInfix, selection⟩
  · intro found several many
    rw [calls]
    rcases path.answered_search (answered.mp several) with ⟨-, none, -⟩ | ⟨-, -, only, judgement⟩
    · cases none
      exact absurd many (by decide)
    · match found with
      | [] => exact absurd many (by simp)
      | [bundle] => exact absurd many (by simp)
      | first :: second :: others =>
          rw [only]
          exact ⟨judgement, rfl⟩
  · intro bundle
    rw [bundles]
    exact path.eq_ok_iff
  · refine ⟨method, succeeded outcome, ?_, byId, ?_, succeeded_iff⟩
    · rw [Transcript.resolutions_append, uncounted]
      rfl
    · rw [calls]
      exact byCreation

/-- Whatever the service and the brokers answer, a resolution keeps to the protocol; and a session
that only tends to a bundle never searches, lists brokers, creates or resolves. -/
theorem resolve_protocol :
    (∀ config transcript outcome, Course (resolve config) transcript outcome →
      Orderly config transcript outcome) ∧
    ∀ (controller : Controller) operations transcript outcomes, .start ∉ operations →
      Course (controller.session operations) transcript outcomes →
        ∀ exchange ∈ transcript, exchange.effect.Tends :=
  ⟨fun _ _ _ course => orderly_of_course course,
    fun _ _ _ _ started course => Controller.session_tends started course⟩

/-- A bundle is created on the one broker that answers, and then refreshed. -/
theorem resolve_protocol_created :
    let near := BrokerNode.mk "" (some "near") 0 none ["json"] none "active"
    let memory := { Api.Memory.fresh with brokers := [⟨"/broker/1", "", "circonus", [near]⟩] }
    let world : World Api.Memory :=
      { World.quiet memory .empty with latency := fun _ => some ⟨5⟩ }
    let config := { Config.standard with target := "web1", create := true }
    let resolving := world.record Api.Memory.answer (resolve config)
    let resolved := world.run Api.Memory.answer (resolve config)
    let bundle := Api.Memory.assigned 1000 (draft config "/broker/1")
    let tending := ((Controller.unbound config).bind bundle).session [.refresh, .enable []]
    resolving.calls.length = 3 ∧ resolved.1.toOption = some bundle ∧
      Orderly config resolving resolved.1 ∧
      ∀ exchange ∈ resolved.2.record Api.Memory.answer tending, exchange.effect.Tends := by
  intro near memory world config resolving resolved bundle tending
  refine ⟨by decide +kernel, by decide +kernel, ?_, ?_⟩
  · exact resolve_protocol.1 config resolving resolved.1 (world.course_run (resolve config))
  · exact resolve_protocol.2 _ [.refresh, .enable []] _ _ (by simp)
      (resolved.2.course_run tending)

end Resolution
end CheckBinding
