import CheckBinding.Json.Decode
import CheckBinding.Json.Writer

/-!
Brokers, the collectors that a check bundle is bound to, and their nodes.
-/

namespace CheckBinding

structure Endpoint where
  host : String
  port : UInt16
deriving DecidableEq

structure BrokerNode where
  commonName : String
  externalHost : Option String
  externalPort : UInt16
  address : Option String
  modules : List String
  port : Option UInt16
  status : String
deriving DecidableEq

/-- A broker with its nodes; its category tells shared brokers from dedicated ones. -/
structure Broker where
  cid : String
  name : String
  category : String
  nodes : List BrokerNode
deriving DecidableEq

/-- The module behind a check type: the part before the first colon. -/
def baseCheckType (checkType : String) : String :=
  String.ofList (checkType.toList.takeWhile (fun character => character ≠ ':'))

namespace BrokerNode

def defaultPort : UInt16 := 43191

/-- The public node that takes submissions on one port only. -/
def trapHost : String := "trap.noit.circonus.net"

def trapPort : UInt16 := 443

def isActive (node : BrokerNode) : Bool :=
  node.status = "active"

def supports (node : BrokerNode) (checkType : String) : Bool :=
  node.modules.contains (baseCheckType checkType)

def given? (text : Option String) : Option String :=
  text.filter (fun text => text ≠ "")

def host? (node : BrokerNode) : Option String :=
  (given? node.externalHost).orElse (fun _ => given? node.address)

/-- The port to connect to: the external one before the internal one before the default; zero
counts as not given. -/
def chosenPort (node : BrokerNode) : UInt16 :=
  if node.externalPort ≠ 0 then node.externalPort
  else (node.port.filter (fun port => port ≠ 0)).getD defaultPort

def endpoint? (node : BrokerNode) : Option Endpoint :=
  node.host?.map (fun host => ⟨host, if host = trapHost then trapPort else node.chosenPort⟩)

def toJson (node : BrokerNode) : Json :=
  .ofFields (
    [("cn", .ofText node.commonName)] ++
    (match node.externalHost with
    | none => []
    | some host => [("external_host", .ofText host)]) ++
    [("external_port", .ofNat node.externalPort.toNat)] ++
    (match node.address with
    | none => []
    | some address => [("ipaddress", .ofText address)]) ++
    [("modules", .ofTexts node.modules)] ++
    (match node.port with
    | none => []
    | some port => [("port", .ofNat port.toNat)]) ++
    [("status", .ofText node.status)])

def ofJson : Json.Decoder BrokerNode := fun document => do
  let fields ← Json.record? ["cn", "external_host", "external_port", "ipaddress", "modules",
    "port", "status"] document
  return {
    commonName := ← Decoding.withDefault fields "cn" Json.asText ""
    externalHost := ← Json.optional fields "external_host" Json.asText
    externalPort := ← Decoding.withDefault fields "external_port" Json.asUInt16 0
    address := ← Json.optional fields "ipaddress" Json.asText
    modules := ← Decoding.withDefault fields "modules" (Json.asList Json.asText) []
    port := ← Json.optional fields "port" Json.asUInt16
    status := ← Decoding.withDefault fields "status" Json.asText "" }

end BrokerNode

namespace Broker

def isEnterprise (broker : Broker) : Bool :=
  broker.category = "enterprise"

def toJson (broker : Broker) : Json :=
  .ofFields [("_cid", .ofText broker.cid), ("_name", .ofText broker.name),
    ("_type", .ofText broker.category), ("_details", .array (broker.nodes.map BrokerNode.toJson))]

def ofJson : Json.Decoder Broker := fun document => do
  let fields ← Json.record? ["_cid", "_name", "_type", "_details"] document
  return {
    cid := ← Decoding.required fields "_cid" Json.asText
    name := ← Decoding.withDefault fields "_name" Json.asText ""
    category := ← Decoding.withDefault fields "_type" Json.asText ""
    nodes := ← Decoding.withDefault fields "_details" (Json.asList BrokerNode.ofJson) [] }

end Broker
end CheckBinding
