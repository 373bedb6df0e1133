import Xkk.Config.Gate
import Xkk.Lib.Decimal
import Xkk.Lib.Table

/-! # How a client finds the listeners of a Gate

A Gate opens one listener for each port of its configuration and writes the ports
into the metadata of its node, as decimal text.  Auth reads them out of discovery
and answers them as endpoints; the client takes the endpoint of its transport and
checks it again.
-/

namespace Xkk.Cluster

open Xkk.Lib Xkk.Config

/-! ## The Gate -/

abbrev MetaData := Table.Map String String

/-- `port.to_string()` -/
def portText (port : UInt16) : String := toString port.toNat

def MetaData.insertPort (metadata : MetaData) (key : String) (port : Option UInt16) : MetaData :=
  match port with
  | some port => metadata.insert key (portText port)
  | none => metadata

/-- The metadata of the node in `service_config`. -/
def nodeMetaData (listeners : GateListeners) : MetaData :=
  let metadata : MetaData := (AList.insert "protocol" "client" ∅).insert "primary_transport"
    listeners.primaryTransport.asStr
  let metadata := MetaData.insertPort metadata "tcp_port" listeners.tcpPort
  let metadata := MetaData.insertPort metadata "kcp_port" listeners.kcpPort
  match listeners.websocketPort with
  | some port =>
    (metadata.insert "websocket_port" (portText port)).insert "websocket_path" listeners.websocketPath
  | none => metadata

/-! ## Auth -/

/-- An instance in discovery; `healthy` is the comparison with
    `ServiceStatus::Health`. -/
structure ServiceInstance where
  instanceId : Int
  enable : Bool
  healthy : Bool
  onlineCount : Nat
  host : String
  metaData : MetaData
deriving DecidableEq

structure Endpoint where
  transport : String
  host : String
  port : Nat
  path : String
deriving DecidableEq, Repr

/-- The endpoint of one transport, if the metadata has a port that is a `u32`. -/
def gateEndpoint (gate : ServiceInstance) (transport portKey : String) : Option Endpoint :=
  ((gate.metaData.lookup portKey).bind (Decimal.parseUnsigned 32)).map fun port =>
    { transport := transport
      host := gate.host
      port := port
      path := if transport = "websocket" then (gate.metaData.lookup "websocket_path").getD "/" else "" }

def gateEndpoints (gate : ServiceInstance) : List Endpoint :=
  [("tcp", "tcp_port"), ("kcp", "kcp_port"), ("websocket", "websocket_port")].filterMap fun entry =>
    gateEndpoint gate entry.1 entry.2

/-! ## The client -/

inductive RobotTransport where
  | tcp | kcp | websocket
deriving DecidableEq, Repr

def RobotTransport.asStr : RobotTransport → String
  | .tcp => "tcp"
  | .kcp => "kcp"
  | .websocket => "websocket"

/-- What discovery shows of a Gate with this configuration. -/
def Advertises (config : ValidGateConfig) (gate : ServiceInstance) : Prop :=
  gate.host = config.node.advertiseHost ∧ gate.metaData = nodeMetaData config.listeners

/-- The transport that the Gate calls by the same name. -/
def RobotTransport.gate : RobotTransport → GateTransport
  | .tcp => .tcp
  | .kcp => .kcp
  | .websocket => .websocket

variable {config : ValidGateConfig} {gate : ServiceInstance}

end Xkk.Cluster
