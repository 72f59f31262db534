import MeshSurvey.Discovery.ConfigDump
import MeshSurvey.Discovery.Sidecar
import MeshSurvey.Strategy.WellKnownName

/-!
# The sidecar's bootstrap

A local sidecar knows the address of the discovery service. The strategy asks it for its
configuration.
-/

namespace MeshSurvey.Strategy

variable {σ κ : Type}

/-- Takes the address that the local sidecar knows. -/
def sidecarBootstrap (net : Network σ κ) (config : DiscoveryConfig) : Strategy σ where
  name := "sidecar-bootstrap"
  run _ := do
    let dump ← Sidecar.configDump net config.envoyAdminUrl config.probeTimeout
    match ConfigDump.discoveryAddress dump with
    | some address => return { discoveryAddress := some address }
    | none => throw (.verify "sidecar config_dump names no discovery address")
  verify := verifyDiscovery

end MeshSurvey.Strategy
