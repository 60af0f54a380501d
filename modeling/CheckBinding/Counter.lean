/-!
The counters that an agent keeps about its own work.
-/

namespace CheckBinding

inductive ResolutionMethod where
  | id
  | search
  | create
deriving DecidableEq

def ResolutionMethod.word : ResolutionMethod → String
  | .id => "id"
  | .search => "search"
  | .create => "create"

inductive Counter where
  | probeFailures (broker : String)
  | resolutions (method : ResolutionMethod) (succeeded : Bool)
  | metricsEnabled
deriving DecidableEq

namespace Counter

def name : Counter → String
  | .probeFailures _ => "hostagent_broker_probe_failures_total"
  | .resolutions _ _ => "hostagent_check_bundle_resolutions_total"
  | .metricsEnabled => "hostagent_check_metrics_enabled_total"

def labels : Counter → List (String × String)
  | .probeFailures broker => [("broker", broker)]
  | .resolutions method succeeded =>
      [("method", method.word), ("result", if succeeded then "ok" else "error")]
  | .metricsEnabled => []

def descriptions : List (String × String) :=
  [("hostagent_broker_probe_failures_total",
      "Total number of broker nodes found unreachable while selecting a broker"),
    ("hostagent_check_bundle_resolutions_total",
      "Total check bundle resolutions by method (id/search/create) and result"),
    ("hostagent_check_metrics_enabled_total",
      "Total number of new metrics submitted as enabled on the check bundle")]

/-! ### Reports -/

def labelText (value : String) : String :=
  String.ofList (value.toList.flatMap (fun character =>
    if character = '\\' then ['\\', '\\']
    else if character = '"' then ['\\', '"']
    else if character = '\n' then ['\\', 'n']
    else [character]))

def reportName (counter : Counter) : String :=
  match counter.labels with
  | [] => counter.name
  | labels =>
      counter.name ++ "\x7b" ++ ",".intercalate (labels.map (fun (name, value) =>
        name ++ "=\"" ++ labelText value ++ "\"")) ++ "\x7d"

def reportLines (counters : List (Counter × Nat)) (name description : String) : List String :=
  match counters.filter (fun known => known.1.name = name) with
  | [] => []
  | touched =>
      ["# HELP " ++ name ++ " " ++ description, "# TYPE " ++ name ++ " counter"] ++
        touched.map (fun (counter, total) =>
          counter.reportName ++ " " ++ toString total)

def report (counters : List (Counter × Nat)) : String :=
  String.join ((descriptions.flatMap (fun (name, description) =>
    reportLines counters name description)).map (fun line => line ++ "\n"))

end Counter
end CheckBinding
