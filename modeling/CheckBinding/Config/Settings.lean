import CheckBinding.Json.Decode
import CheckBinding.Yaml.Decode

/-!
The settings of check management as they are written, nothing checked yet.
-/

namespace CheckBinding

structure Settings where
  enabled : Bool
  bundleId : Option String
  target : Option String
  checkType : Option String
  create : Bool
  title : Option String
  tags : Option String
  broker : Option String
  metricFilters : Option String
  metricFilterFile : Option String
  metricRefreshTtl : Option String
  enableNewMetrics : Bool
  metricStateDir : Option String
  brokerMaxResponseTime : Option String
  brokerMaxRetries : Option UInt32
  activeMetricStatus : Option String
deriving DecidableEq

namespace Settings

def blank : Settings where
  enabled := false
  bundleId := none
  target := none
  checkType := none
  create := false
  title := none
  tags := none
  broker := none
  metricFilters := none
  metricFilterFile := none
  metricRefreshTtl := none
  enableNewMetrics := false
  metricStateDir := none
  brokerMaxResponseTime := none
  brokerMaxRetries := none
  activeMetricStatus := none

def fieldNames : List String :=
  ["enabled", "bundle_id", "target", "check_type", "create", "title", "tags", "broker",
    "metric_filters", "metric_filter_file", "metric_refresh_ttl", "enable_new_metrics",
    "metric_state_dir", "broker_max_response_time", "broker_max_retries",
    "active_metric_status"]

/-- How the fields of settings are read out of a document of some notation. -/
structure Source where
  text : String → Except Decoding.Fault (Option String)
  switch : String → Except Decoding.Fault Bool
  count : String → Except Decoding.Fault (Option UInt32)

def ofSource (source : Source) : Except Decoding.Fault Settings := do
  return {
    enabled := ← source.switch "enabled"
    bundleId := ← source.text "bundle_id"
    target := ← source.text "target"
    checkType := ← source.text "check_type"
    create := ← source.switch "create"
    title := ← source.text "title"
    tags := ← source.text "tags"
    broker := ← source.text "broker"
    metricFilters := ← source.text "metric_filters"
    metricFilterFile := ← source.text "metric_filter_file"
    metricRefreshTtl := ← source.text "metric_refresh_ttl"
    enableNewMetrics := ← source.switch "enable_new_metrics"
    metricStateDir := ← source.text "metric_state_dir"
    brokerMaxResponseTime := ← source.text "broker_max_response_time"
    brokerMaxRetries := ← source.count "broker_max_retries"
    activeMetricStatus := ← source.text "active_metric_status" }

def ofJson : Json.Decoder Settings := fun document => do
  let fields ← Json.record? fieldNames document
  ofSource {
    text := fun name => Json.optional fields name Json.asText
    switch := fun name => Decoding.withDefault fields name Json.asBool false
    count := fun name => Json.optional fields name Json.asUInt32 }

def ofYaml (document : Yaml.Document) : Yaml.Decoder Settings := fun node => do
  let fields ← Yaml.record? document fieldNames node
  ofSource {
    text := fun name => Yaml.optional fields name Yaml.asText
    switch := fun name => Decoding.withDefault fields name Yaml.asBool false
    count := fun name => Yaml.optional fields name Yaml.asUInt32 }

end Settings
end CheckBinding
