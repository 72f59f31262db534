import MeshSurvey.Address.HostPort
import MeshSurvey.Discovery.Client
import MeshSurvey.Strategy.Chain

/-!
# The well-known name

The service of a control plane has a well-known name within the cluster, made of its own name and
its namespace. The strategy asks for the version under that name, port by port; only the port for
TLS is asked over TLS. An answer shows that a discovery service is there, and the debug endpoint is
taken to be next to it.
-/

namespace MeshSurvey

/-- Accepts an address with a host and a port. -/
def verifyAddress (address : Option String) : Except Failure Unit :=
  match address with
  | none => .error (.verify "no address found")
  | some address =>
    match HostPort.read address with
    | some _ => .ok ()
    | none => .error (.verify (Text.quoted address ++ " is not host:port"))

namespace Strategy

variable {σ κ : Type}

/-- Accepts an update whose discovery address has a host and a port. -/
def verifyDiscovery (update : DiscoveryUpdate) : Except Failure Unit :=
  verifyAddress update.discoveryAddress

/-- The name of the control plane's service in a namespace. -/
def wellKnownHost (config : DiscoveryConfig) (namespaceName : String) : String :=
  config.serviceName ++ "." ++ namespaceName ++ ".svc"

/-- How a client talks to the discovery service on a port. -/
def clientForPort (config : DiscoveryConfig) (port : UInt16) : ClientConfig :=
  if port = config.discoveryTlsPort then config.client else config.plainClient

/-- Asks a host for the version on one port after another. The last failure is that of all. -/
def askPorts (net : Network σ κ) (config : DiscoveryConfig) (host : String) :
    List UInt16 → Failure → Action σ DiscoveryUpdate
  | [], last => throw last
  | port :: ports, _ => do
    let address := HostPort.join host port
    match ← (Client.confirm net address (clientForPort config port)).attempt with
    | .ok version =>
      return {
        discoveryAddress := some address
        debugAddress := some (HostPort.join host config.debugPort)
        version := some version }
    | .error e => askPorts net config host ports e

/-- Asks for the version under the well-known name. The namespace has to be known. -/
def wellKnownName (net : Network σ κ) (config : DiscoveryConfig) : Strategy σ where
  name := "well-known-name"
  run known :=
    match known.namespaceName with
    | none => throw (.verify "namespace not yet discovered")
    | some namespaceName =>
      askPorts net config (wellKnownHost config namespaceName) config.discoveryPorts
        .noControlPlane
  verify := verifyDiscovery

end Strategy

end MeshSurvey
