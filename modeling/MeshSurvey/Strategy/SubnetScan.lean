import MeshSurvey.Address.RouteTable
import MeshSurvey.Discovery.DebugEndpoint
import MeshSurvey.Discovery.Kubelet
import MeshSurvey.Discovery.PodFilter
import MeshSurvey.Scan.Job
import MeshSurvey.Strategy.WellKnownName

/-!
# Scans of the subnet

The strategy looks for kubelets in the network of 256 addresses around the default gateway, and asks
each for its pods. Those of the control plane are probed in turn, until one answers at its discovery
address or at its debug address. Kubelets that do not answer properly are passed over.
-/

namespace MeshSurvey.Strategy

variable {σ κ : Type}

/-- A scan looks for this many kubelets at a time. -/
def kubeletConcurrency : Nat := 255

/-- The scan for kubelets around a gateway. -/
def kubeletScan (config : DiscoveryConfig) (gateway : IPv4) : ScanJob where
  hosts := gateway.neighbours.map IPv4.text
  ports := [config.kubeletPort]
  protocol := .tcp
  concurrency := kubeletConcurrency
  timeout := config.probeTimeout

/-- The pods of the control plane that a kubelet knows of. -/
def podsOf (net : Network σ κ) (config : DiscoveryConfig) (filter : PodFilter) (address : String) :
    Action σ (List ControlPlanePod) := do
  let kubelet ← Kubelet.connect net address config.probeTimeout
  return filter.select (← kubelet.pods net)

/-- The pods of the control plane that kubelets know of. A kubelet that fails knows of none. -/
def candidates (net : Network σ κ) (config : DiscoveryConfig) (filter : PodFilter) :
    List String → Action σ (List ControlPlanePod)
  | [] => return []
  | kubelet :: kubelets => do
    let pods ← (podsOf net config filter kubelet).attempt
    let others ← candidates net config filter kubelets
    return pods.toOption.getD [] ++ others

/-- Whether a debug endpoint answers at an address. -/
def debugAnswers (net : Network σ κ) (config : DiscoveryConfig) (address : String) :
    Action σ Bool := do
  return (← (DebugEndpoint.connect net address config.probeTimeout).attempt).toBool

/-- Probes both addresses of a pod, and keeps those that answer. Without a discovery address of its
own the pod is asked on the configured port. -/
def probePod (net : Network σ κ) (config : DiscoveryConfig) (pod : ControlPlanePod) :
    Action σ DiscoveryUpdate := do
  let discovery := pod.discoveryAddress.getD (pod.ip.withPort config.discoveryPort)
  let version ← (Client.confirm net discovery config.plainClient).attempt
  let debug ← match pod.debugAddress with
    | some address =>
      pure (if ← debugAnswers net config address then some address else none)
    | none => pure none
  match version, debug with
  | .error e, none => throw e
  | .error _, some debug => return { debugAddress := some debug }
  | .ok version, debug =>
    return { discoveryAddress := some discovery, debugAddress := debug, version := some version }

/-- What the first pod that answers has to say. When none does, the last failure is that of all. -/
def firstAnswer (net : Network σ κ) (config : DiscoveryConfig) :
    List ControlPlanePod → Option Failure → Action σ DiscoveryUpdate
  | [], some last => throw last
  | [], none => return {}
  | pod :: pods, _ => do
    match ← (probePod net config pod).attempt with
    | .ok update => return update
    | .error e => firstAnswer net config pods (some e)

/-- Accepts an update with kubelets and with a control plane's address that has a host and a port.
Of two addresses the one of the discovery service counts. -/
def verifySubnet (update : DiscoveryUpdate) : Except Failure Unit :=
  if update.kubelets.isEmpty then .error (.verify "no kubelet answered")
  else match update.discoveryAddress.or update.debugAddress with
    | none => .error (.verify "no control-plane pod answered")
    | some address => verifyAddress (some address)

/-- Scans the network around the gateway in a routing table, unless the table cannot be read for the
given reason. -/
def subnetScan (net : Network σ κ) (config : DiscoveryConfig) (filter : PodFilter)
    (routeTable : Except String String) : Strategy σ where
  name := "subnet-scan"
  run _ := do
    let table ← Action.ofExcept (routeTable.mapError .io)
    match RouteTable.defaultGateway table with
    | none => throw (.verify "no default route")
    | some gateway =>
      let kubelets ← (kubeletScan config gateway).run net
      let pods ← candidates net config filter kubelets
      let update ← firstAnswer net config pods none
      return { update with kubelets }
  verify := verifySubnet

end MeshSurvey.Strategy
