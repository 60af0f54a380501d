import CheckBinding.Config.Basic
import CheckBinding.Proofs.Json.Values
import Mathlib.Control.Monad.Basic

/-!
What settings are validated to, part by part.

Settings are accepted just when their broker, their filters and their two spans of time are, and
each field of the configuration is what one part of the settings gives.
-/

namespace CheckBinding.Config

variable {readFile : FileReader} {settings : Settings} {config : Config}

structure Validates [Pattern.Engine] (readFile : FileReader) (settings : Settings)
    (config : Config) : Prop where
  enabled : config.enabled = settings.enabled
  bundleId : config.bundleId = Text.trimmed? settings.bundleId
  target : config.target = (Text.trimmed? settings.target).getD ""
  checkType : config.checkType = (Text.trimmed? settings.checkType).getD defaultCheckType
  create : config.create = settings.create
  title : config.title = Text.trimmed? settings.title
  tags : config.tags = tagList settings.tags
  broker : brokerChoice settings.broker = .ok config.broker
  filters : filters readFile settings = .ok config.metricFilters
  refreshTtl : refreshTtl settings.metricRefreshTtl = .ok config.metricRefreshTtl
  enableNewMetrics : config.enableNewMetrics = settings.enableNewMetrics
  stateDir : config.stateDir = settings.metricStateDir
  responseTime : span "broker_max_response_time" settings.brokerMaxResponseTime
    defaultResponseTime = .ok config.brokerMaxResponseTime
  retries : config.brokerMaxRetries = settings.brokerMaxRetries.getD defaultRetries
  status : config.activeMetricStatus =
    (Text.trimmed? settings.activeMetricStatus).getD Bundle.activeStatus

theorem ofSettings_eq_ok [Pattern.Engine] :
    ofSettings readFile settings = .ok config ↔ Validates readFile settings config := by
  unfold ofSettings
  simp only [Json.bind_eq_ok]
  constructor
  · rintro ⟨broker, chosen, listed, read, ttl, refreshes, time, spans, made⟩
    cases made
    exact ⟨rfl, rfl, rfl, rfl, rfl, rfl, rfl, chosen, read, refreshes, rfl, rfl, spans, rfl, rfl⟩
  · intro validates
    obtain ⟨enabled, bundleId, target, checkType, create, title, tags, broker, metricFilters,
      metricRefreshTtl, enableNewMetrics, stateDir, brokerMaxResponseTime, brokerMaxRetries,
      activeMetricStatus⟩ := config
    obtain ⟨rfl, rfl, rfl, rfl, rfl, rfl, rfl, chosen, read, refreshes, rfl, rfl, spans, rfl,
      rfl⟩ := validates
    exact ⟨_, chosen, _, read, _, refreshes, _, spans, rfl⟩

/-! ### The parts that can be refused -/

theorem brokerChoice_eq_ok {broker : Option String} {choice : BrokerChoice}
    (chosen : brokerChoice broker = .ok choice) :
    choice = .select ∨ ∃ text cid, Cid.normalize .broker text = .ok cid ∧ choice = .id cid := by
  unfold brokerChoice at chosen
  split at chosen
  · cases chosen
    exact Or.inl rfl
  · next text _ =>
    split at chosen
    · cases chosen
      exact Or.inl rfl
    · split at chosen
      · next cid normal =>
        cases chosen
        exact Or.inr ⟨text, cid, normal, rfl⟩
      · cases chosen

/-- Filters are the rules of the text that the settings give, if they give one. -/
theorem filters_eq_ok [Pattern.Engine] {given : Option (List Filter)} :
    filters readFile settings = .ok given ↔
      (filterText readFile settings = .ok none ∧ given = none) ∨
        ∃ text rules, filterText readFile settings = .ok (some text) ∧
          Filter.parseList text = .ok rules ∧ given = some rules := by
  rw [filters, Json.bind_eq_ok]
  constructor
  · rintro ⟨listed, text, parsed⟩
    cases listed with
    | none =>
        cases parsed
        exact Or.inl ⟨text, rfl⟩
    | some listed =>
        dsimp only at parsed
        split at parsed
        · next rules known =>
          cases parsed
          exact Or.inr ⟨listed, rules, text, known, rfl⟩
        · cases parsed
  · rintro (⟨text, rfl⟩ | ⟨listed, rules, text, known, rfl⟩)
    · exact ⟨none, text, rfl⟩
    · refine ⟨some listed, text, ?_⟩
      simp only [known]
      rfl

theorem ne_zero_of_refreshTtl {setting : Option String} {ttl : Duration}
    (refreshes : refreshTtl setting = .ok ttl) : ttl ≠ Duration.zero := by
  obtain ⟨span, -, checked⟩ := Json.bind_eq_ok.mp refreshes
  split at checked
  · cases checked
  · next positive =>
    cases checked
    exact positive

end CheckBinding.Config
