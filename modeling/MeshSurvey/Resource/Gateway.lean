import MeshSurvey.Resource.Enumeration

/-!
# Gateways

A gateway is a load balancer at the edge of the mesh, with servers that listen on ports for hosts.
-/

namespace MeshSurvey

/-- How a gateway's server uses TLS. -/
inductive ServerTlsMode where
  /-- It passes TLS on. -/
  | passthrough
  /-- It ends TLS. -/
  | simple
  /-- It also demands a certificate of the client. -/
  | mutual
  /-- It passes TLS on to the service that the client names. -/
  | autoPassthrough
  /-- As `mutual`, with certificates that the mesh issues. -/
  | istioMutual
  /-- It accepts a certificate of the client. -/
  | optionalMutual
  deriving DecidableEq, Repr, Inhabited

instance : Enumeration ServerTlsMode where
  title := "ServerTlsMode"
  values := [.passthrough, .simple, .mutual, .autoPassthrough, .istioMutual, .optionalMutual]
  first := .passthrough
  name
    | .passthrough => "PASSTHROUGH"
    | .simple => "SIMPLE"
    | .mutual => "MUTUAL"
    | .autoPassthrough => "AUTO_PASSTHROUGH"
    | .istioMutual => "ISTIO_MUTUAL"
    | .optionalMutual => "OPTIONAL_MUTUAL"
  number
    | .passthrough => 0
    | .simple => 1
    | .mutual => 2
    | .autoPassthrough => 3
    | .istioMutual => 4
    | .optionalMutual => 5

/-- A port on which a gateway listens. -/
structure ServerPort where
  number : UInt32 := 0
  protocol : String := ""
  name : String := ""
  deriving DecidableEq, Repr, Inhabited

/-- The two forms of a port. -/
def ServerPort.schema : Schema ServerPort where
  empty := {}
  members := [
    member 1 "number" .unsigned (·.number) fun v s ↦ { s with number := v },
    member 2 "protocol" .text (·.protocol) fun v s ↦ { s with protocol := v },
    member 3 "name" .text (·.name) fun v s ↦ { s with name := v }]

/-- TLS settings of a gateway's server. -/
structure ServerTlsSettings where
  /-- Whether plaintext requests are sent to the TLS port. -/
  httpsRedirect : Bool := false
  /-- How TLS is used. -/
  mode : Coded ServerTlsMode := ⟨0⟩
  credentialName : String := ""
  deriving DecidableEq, Repr, Inhabited

/-- The two forms of the settings. -/
def ServerTlsSettings.schema : Schema ServerTlsSettings where
  empty := {}
  members := [
    member 1 "httpsRedirect" .flag (·.httpsRedirect) fun v s ↦ { s with httpsRedirect := v },
    member 2 "mode" Coded.shape (·.mode) fun v s ↦ { s with mode := v },
    member 10 "credentialName" .text (·.credentialName) fun v s ↦ { s with credentialName := v }]

/-- A server of a gateway. -/
structure Server where
  port : Option ServerPort := none
  /-- The hosts that it serves. -/
  hosts : List String := []
  tls : Option ServerTlsSettings := none
  /-- The address that it listens on. -/
  bind : String := ""
  name : String := ""
  deriving DecidableEq, Repr, Inhabited

/-- The two forms of a server. -/
def Server.schema : Schema Server where
  empty := {}
  members := [
    member 1 "port" (.optional ServerPort.schema) (·.port) fun v s ↦ { s with port := v },
    member 2 "hosts" .texts (·.hosts) fun v s ↦ { s with hosts := v },
    member 3 "tls" (.optional ServerTlsSettings.schema) (·.tls) fun v s ↦ { s with tls := v },
    member 4 "bind" .text (·.bind) fun v s ↦ { s with bind := v },
    member 6 "name" .text (·.name) fun v s ↦ { s with name := v }]

/-- What a gateway is. -/
structure GatewaySpec where
  servers : List Server := []
  /-- The labels of the workloads that it runs on. -/
  selector : KeyMap String String := ∅
  deriving DecidableEq, Inhabited

/-- The two forms of a gateway. -/
def GatewaySpec.schema : Schema GatewaySpec where
  empty := {}
  members := [
    member 1 "servers" (.list Server.schema) (·.servers) fun v s ↦ { s with servers := v },
    member 2 "selector" .labels (·.selector) fun v s ↦ { s with selector := v }]

end MeshSurvey
