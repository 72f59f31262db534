import MeshSurvey.Strategy.ExpectedNamespace
import MeshSurvey.Strategy.SidecarBootstrap
import MeshSurvey.Strategy.SubnetScan

/-!
# The standard survey

A survey first settles the namespace of the control plane and then looks for its address: under the
well-known name, among the kubelets of the subnet, and in the local sidecar.
-/

namespace MeshSurvey

variable {σ κ : Type}

/-- The chain that settles the namespace. -/
def Chain.ofNamespace (config : DiscoveryConfig) : Chain σ where
  fact := "namespace"
  strategies := [.expectedNamespace config.namespaceName]

/-- The chain that looks for the control plane, given the routing table or why it cannot be
read. -/
def Chain.ofControlPlane (net : Network σ κ) (config : DiscoveryConfig)
    (routeTable : Except String String) : Chain σ where
  fact := "control plane"
  strategies := [
    .wellKnownName net config,
    .subnetScan net config {} routeTable,
    .sidecarBootstrap net config]

/-- Runs both chains. -/
def Survey.standard (net : Network σ κ) (config : DiscoveryConfig)
    (routeTable : Except String String) : Survey σ Unit := do
  let _ ← (Chain.ofNamespace config).run
  let _ ← (Chain.ofControlPlane net config routeTable).run

/-- Finds the control plane, from nothing. -/
def DiscoveryState.discover (net : Network σ κ) (config : DiscoveryConfig)
    (routeTable : Except String String) : Action σ DiscoveryState := ExceptT.mk do
  let (result, found) ← (Survey.standard net config routeTable).run {}
  return result.map fun () ↦ found

end MeshSurvey
