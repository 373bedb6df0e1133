import Mathlib.Data.List.Basic

/-! # The configuration of a Gate

What `xkk-config` composes from the common file and the file of the role, and
what it checks.  A `ValidGateConfig` is one that passed.
-/

namespace Xkk.Config

/-- `ConfigError::Invalid`, the only error of a check. -/
structure ConfigError where
  service : String
  message : String
deriving DecidableEq, Repr

abbrev Result (α : Type) := Except ConfigError α

def invalid (service message : String) : Result Unit := .error ⟨service, message⟩

/-- `Err` where the condition holds. -/
def reject (condition : Bool) (service message : String) : Result Unit :=
  if condition then invalid service message else .ok ()

/-! ## The common file -/

structure Infrastructure where
  etcdDsn : String
  mongoDsn : String
  redisDsn : String
deriving DecidableEq, Repr

def Infrastructure.validate (c : Infrastructure) (service : String) : Result Unit :=
  reject (c.etcdDsn.isEmpty || c.mongoDsn.isEmpty || c.redisDsn.isEmpty) service
    "infrastructure DSNs must not be empty"

structure Security where
  tokenSecret : String
  tokenExpireSeconds : Int
deriving DecidableEq, Repr

def Security.validate (c : Security) (service : String) : Result Unit :=
  reject (c.tokenSecret.isEmpty || c.tokenExpireSeconds ≤ 0) service "security token settings are invalid"

inductive LogLevel where
  | trace | debug | info | warn | error
deriving DecidableEq, Repr

inductive LogRotation where
  | daily | hourly
deriving DecidableEq, Repr

structure LogSettings where
  level : LogLevel
  stdout : Bool
  file : Option String
  asyncQueueCapacity : Nat
  rotation : LogRotation
deriving DecidableEq, Repr

structure LogOverride where
  level : Option LogLevel
  stdout : Option Bool
  file : Option String
  asyncQueueCapacity : Option Nat
  rotation : Option LogRotation
deriving DecidableEq, Repr

def LogSettings.apply (c : LogSettings) (overrides : LogOverride) : LogSettings where
  level := overrides.level.getD c.level
  stdout := overrides.stdout.getD c.stdout
  file := overrides.file.or c.file
  asyncQueueCapacity := overrides.asyncQueueCapacity.getD c.asyncQueueCapacity
  rotation := overrides.rotation.getD c.rotation

def LogSettings.validate (c : LogSettings) (service : String) : Result Unit :=
  reject (c.asyncQueueCapacity = 0) service "log.async_queue_capacity must be positive"

structure CommonConfig where
  cluster : String
  infrastructure : Infrastructure
  security : Security
  log : LogSettings
deriving DecidableEq, Repr

def CommonConfig.validate (c : CommonConfig) (service : String) : Result Unit := do
  reject c.cluster.isEmpty service "cluster must not be empty"
  c.infrastructure.validate service
  c.security.validate service
  c.log.validate service

/-! ## The file of a Gate -/

structure GateNode where
  cluster : String
  instanceId : Int
  advertiseHost : String
  listenHost : String
deriving DecidableEq, Repr

def validateNode (service cluster : String) (instanceId : Int) (advertiseHost listenHost : String) : Result Unit := do
  reject (cluster.isEmpty || advertiseHost.isEmpty || listenHost.isEmpty) service
    "node names and hosts must not be empty"
  reject (instanceId ≤ 0) service "node.instance_id must be positive"

def GateNode.validate (c : GateNode) (service : String) : Result Unit :=
  validateNode service c.cluster c.instanceId c.advertiseHost c.listenHost

inductive GateTransport where
  | tcp | kcp | websocket
deriving DecidableEq, Repr

def GateTransport.asStr : GateTransport → String
  | .tcp => "tcp"
  | .kcp => "kcp"
  | .websocket => "websocket"

structure GateListeners where
  tcpPort : Option UInt16
  kcpPort : Option UInt16
  websocketPort : Option UInt16
  websocketPath : String
  primaryTransport : GateTransport
deriving DecidableEq, Repr

namespace GateListeners

def primaryPort (c : GateListeners) : Option UInt16 :=
  match c.primaryTransport with
  | .tcp => c.tcpPort
  | .kcp => c.kcpPort
  | .websocket => c.websocketPort

/-- The port of the listener for a transport. -/
def port (c : GateListeners) : GateTransport → Option UInt16
  | .tcp => c.tcpPort
  | .kcp => c.kcpPort
  | .websocket => c.websocketPort

def validate (c : GateListeners) (service : String) : Result Unit := do
  reject c.primaryPort.isNone service "listeners.primary_transport must be enabled"
  reject ([c.tcpPort, c.kcpPort, c.websocketPort].any (· = some 0)) service "listener ports must be positive"
  reject (c.tcpPort.isSome && c.tcpPort = c.websocketPort) service "TCP and WebSocket cannot share one TCP port"
  reject (c.websocketPath.toList.head? ≠ some '/') service "listeners.websocket_path must start with '/'"

end GateListeners

structure GateConfig where
  node : GateNode
  infrastructure : Infrastructure
  listeners : GateListeners
  security : Security
  log : LogSettings
deriving DecidableEq, Repr

namespace GateConfig

def SERVICE : String := "Gate"

def validate (c : GateConfig) : Result Unit := do
  c.node.validate SERVICE
  c.infrastructure.validate SERVICE
  c.listeners.validate SERVICE
  c.security.validate SERVICE
  c.log.validate SERVICE

end GateConfig

structure ValidGateConfig extends GateConfig where
  valid : toGateConfig.validate = .ok ()

/-! ## What a valid configuration promises -/

namespace ValidGateConfig

variable (c : ValidGateConfig)

end ValidGateConfig

end Xkk.Config
