import CheckBinding.Api.Call
import CheckBinding.Cid
import CheckBinding.Duration
import CheckBinding.Storage.Operation
import CheckBinding.Text.Quoted

/-!
Why the binding of an agent to its check bundle fails.

A fault is its cause: what was being done, what the service or the file system said, which value
was refused. The wording is one function of it.
-/

namespace CheckBinding

inductive DataFault where
  | cid (fault : Cid.Fault)
  | filter (fault : Filter.Fault)
deriving DecidableEq

def DataFault.message : DataFault → String
  | .cid fault => fault.message
  | .filter fault => fault.message

inductive ConfigFault where
  | twoFilterSources
  | filterFile (path : String) (fault : Storage.Fault)
  | duration (field raw : String) (fault : Duration.Fault)
  | zeroRefresh
  | brokerNotListed (cid : String)
deriving DecidableEq

def ConfigFault.message : ConfigFault → String
  | .twoFilterSources => "metric_filters and metric_filter_file are mutually exclusive"
  | .filterFile path fault => "metric_filter_file (" ++ path ++ "): " ++ fault.message
  | .duration field raw fault => field ++ " (" ++ raw ++ "): " ++ fault.message
  | .zeroRefresh => "metric_refresh_ttl must be > 0"
  | .brokerNotListed cid => "broker " ++ cid ++ " not found in broker list"

inductive Activity where
  | fetchingBundle (cid : String)
  | searchingBundles (criteria : String)
  | fetchingBrokers
  | creatingBundle (target : String)
  | refreshingBundle (cid : String)
  | updatingBundle (cid : String)
  | fetchingMetrics (path : String)
  | decodingMetrics (path : String)
deriving DecidableEq

def Activity.message : Activity → String
  | .fetchingBundle cid => "fetching check bundle " ++ cid
  | .searchingBundles criteria => "searching check bundles " ++ criteria
  | .fetchingBrokers => "fetching broker list"
  | .creatingBundle target => "creating check bundle for " ++ target
  | .refreshingBundle cid => "refreshing check bundle " ++ cid
  | .updatingBundle cid => "updating check bundle " ++ cid
  | .fetchingMetrics path => "fetching metrics " ++ path
  | .decodingMetrics path => "decoding metrics " ++ path

inductive StateFault where
  | storage (fault : Storage.Fault)
  | notDirectory
  | notWritable (fault : Storage.Fault)
  | probeNotRemoved (fault : Storage.Fault)
  | parseFailed (fault : Json.Fault)
  | openFailed (fault : Storage.Fault)
  | writeFailed (fault : Storage.Fault)
  | syncFailed (fault : Storage.Fault)
  | renameFailed (fault : Storage.Fault)
deriving DecidableEq

def StateFault.message : StateFault → String
  | .storage fault => fault.message
  | .notDirectory => "not a directory"
  | .notWritable fault => "not writable: " ++ fault.message
  | .probeNotRemoved fault => "unable to remove probe file: " ++ fault.message
  | .parseFailed fault => "parse failed: " ++ fault.message
  | .openFailed fault => "open failed: " ++ fault.message
  | .writeFailed fault => "write failed: " ++ fault.message
  | .syncFailed fault => "sync failed: " ++ fault.message
  | .renameFailed fault => "rename failed: " ++ fault.message

inductive CheckFault where
  | uninitialized
  | notActive (cid : String) (checks : List String) (status : String)
  | notFound (checkType target : String)
  | ambiguous (count : Nat) (checkType target : String)
  | invalid (fault : DataFault)
  | emptyTarget
  | noBrokers
  | noValidBroker (considered : Nat)
  | config (fault : ConfigFault)
  | api (activity : Activity) (source : Api.Fault)
  | state (path : String) (fault : StateFault)
deriving DecidableEq

def CheckFault.message : CheckFault → String
  | .uninitialized => "check bundle not initialized"
  | .notActive cid checks status =>
      "check bundle (" ++ cid ++ ") not active (checks: " ++ Text.quotedList checks ++
        ", status: " ++ status ++ ")"
  | .notFound checkType target =>
      "no active check bundle of type (" ++ checkType ++ ") found for target (" ++ target ++ ")"
  | .ambiguous count checkType target =>
      "multiple check bundles (" ++ Text.decimal count ++ ") of type (" ++ checkType ++
        ") found for target (" ++ target ++ "), set an explicit check bundle id"
  | .invalid fault => fault.message
  | .emptyTarget => "invalid target (empty)"
  | .noBrokers => "no brokers available"
  | .noValidBroker considered =>
      "found " ++ Text.decimal considered ++ " broker(s), 0 valid"
  | .config fault => "invalid configuration: " ++ fault.message
  | .api activity source => activity.message ++ ": " ++ source.message
  | .state path fault => "metric state (" ++ path ++ "): " ++ fault.message

end CheckBinding
