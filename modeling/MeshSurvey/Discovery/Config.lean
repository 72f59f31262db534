import MeshSurvey.Duration

/-!
# Configuration of a survey

What a survey has to be told beforehand: where the control plane is expected, on which ports, under
which identity to ask, and how long to wait. The discovery port that wants TLS is tried only when
TLS is configured, and then first.
-/

namespace MeshSurvey

/-- How a client talks to the discovery service of a control plane. -/
structure ClientConfig where
  /-- The identity sent with each request. -/
  nodeId : String
  /-- The time allowed for a connection. -/
  dialTimeout : Duration
  /-- The time allowed for each request and its response. -/
  requestTimeout : Duration
  /-- Whether the connection uses TLS, with settings that have no domain name of their own: the name
  that the server has to prove is the host of the address. -/
  tls : Bool
  deriving DecidableEq, Repr, Inhabited

/-- How a survey is carried out. -/
structure DiscoveryConfig where
  /-- The namespace that the control plane is expected in. -/
  namespaceName : String := "istio-system"
  /-- The name of the control plane's service. -/
  serviceName : String := "istiod"
  /-- The discovery port without TLS. -/
  discoveryPort : UInt16 := 15010
  /-- The discovery port with TLS. -/
  discoveryTlsPort : UInt16 := 15012
  /-- The port of the debug endpoint. -/
  debugPort : UInt16 := 15014
  /-- The port on which a kubelet may be read. -/
  kubeletPort : UInt16 := 10255
  /-- The URL of the local sidecar's administration. -/
  envoyAdminUrl : String := "http://127.0.0.1:15000"
  /-- The identity sent with each request. -/
  nodeId : String := "sidecar~127.0.0.1~meshprobe.default~default.svc.cluster.local"
  /-- The time allowed for a connection. -/
  dialTimeout : Duration := .milliseconds 500
  /-- The time allowed for each request and its response. -/
  requestTimeout : Duration := .seconds 10
  /-- The time allowed for a probe or an HTTP request. -/
  probeTimeout : Duration := .seconds 1
  /-- Whether TLS is configured. The settings have no domain name of their own. -/
  tls : Bool := false
  deriving DecidableEq, Repr, Inhabited

namespace DiscoveryConfig

/-- The discovery ports to try, in order. -/
def discoveryPorts (c : DiscoveryConfig) : List UInt16 :=
  if c.tls then [c.discoveryTlsPort, c.discoveryPort] else [c.discoveryPort]

/-- How a client talks to the discovery service. -/
def client (c : DiscoveryConfig) : ClientConfig where
  nodeId := c.nodeId
  dialTimeout := c.dialTimeout
  requestTimeout := c.requestTimeout
  tls := c.tls

/-- How a client talks to the discovery service without TLS. -/
def plainClient (c : DiscoveryConfig) : ClientConfig := { c.client with tls := false }

end DiscoveryConfig

/-- How a client talks to a discovery service when nothing is configured. -/
def ClientConfig.standard : ClientConfig := DiscoveryConfig.client {}

end MeshSurvey
