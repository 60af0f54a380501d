import CheckBinding.Broker
import CheckBinding.Bundle

/-!
The operations of the monitoring service, and how one of them may fail.
-/

namespace CheckBinding.Api

abbrev SearchFilter := NameMap (List String)

inductive Call where
  | fetchBrokers
  | fetchBundle (cid : String)
  | search (criteria : String) (filter : Option SearchFilter)
  | create (draft : Bundle)
  | update (bundle : Bundle)
  | get (path : String)

def Call.path : Call → String
  | .fetchBrokers => "/broker"
  | .fetchBundle cid => cid
  | .search _ _ => "/check_bundle"
  | .create _ => "/check_bundle"
  | .update bundle => bundle.cid
  | .get path => path

@[reducible] def Call.Payload : Call → Type
  | .fetchBrokers => List Broker
  | .fetchBundle _ => Bundle
  | .search _ _ => List Bundle
  | .create _ => Bundle
  | .update _ => Bundle
  | .get _ => ByteArray

inductive Refusal where
  | tokenMissing
  | tokenUnfit
  | appUnfit
  | updateWithoutCid
  | draftIncomplete
deriving DecidableEq

def Refusal.message : Refusal → String
  | .tokenMissing => "api token is required"
  | .tokenUnfit => "api token is not a valid header"
  | .appUnfit => "api app is not a valid header"
  | .updateWithoutCid => "cannot update a check bundle without cid"
  | .draftIncomplete => "check bundle requires a target and at least one broker"

inductive Fault where
  | http (reason : String)
  | status (code : Nat) (path body : String)
  | json (fault : Json.Fault)
  | notFound (path : String)
  | invalidArguments (refusal : Refusal)
deriving DecidableEq

def Fault.message : Fault → String
  | .http reason => "http request failed: " ++ reason
  | .status code path body =>
      "api responded " ++ Text.decimal code ++ " for " ++ path ++ ": " ++ body
  | .json fault => "unable to decode api payload: " ++ fault.message
  | .notFound path => "resource not found: " ++ path
  | .invalidArguments refusal => "invalid arguments: " ++ refusal.message

abbrev Call.Answer (call : Call) : Type := Except Fault call.Payload

end CheckBinding.Api
