import MeshSurvey.Discovery.Client
import MeshSurvey.Discovery.DebugEndpoint
import MeshSurvey.Snapshot
import MeshSurvey.Strategy.Chain

/-!
# Retrieval of a snapshot

The objects come from one source: the discovery stream, or the debug endpoint. The endpoint is asked
only when there is no discovery address, or when the stream could not be reached and an endpoint is
known. A version that is still missing is asked for on the stream, once everything else has been
fetched; whether that succeeds does not matter to the snapshot.
-/

namespace MeshSurvey

namespace DiscoveryConfig

/-- Whether an address ends in the port for TLS. -/
def namesTlsPort (config : DiscoveryConfig) (address : String) : Bool :=
  (':' :: (toString config.discoveryTlsPort.toNat).toList).isSuffixOf address.toList

/-- How a client talks to the discovery service at an address: over TLS only on the port for it. -/
def clientForAddress (config : DiscoveryConfig) (address : String) : ClientConfig :=
  if config.namesTlsPort address then config.client else config.plainClient

end DiscoveryConfig

namespace Snapshot

variable {σ κ : Type}

/-- Asks for the version on a client, unless it is known. -/
def learnVersion (net : Network σ κ) (client : Client κ) : Survey σ Unit := do
  if (← get).version.isNone then
    let (version, _) ← (Client.version net).run client
    match version with
    | .ok version => modify fun known ↦ { known with version := some version }
    | .error _ => pure ()

/-- Takes a snapshot from the discovery stream at an address. -/
def ofStream (net : Network σ κ) (config : DiscoveryConfig) (address : String) :
    Survey σ Snapshot := do
  let client ← .ofAction (Client.connect net address (config.clientForAddress address))
  let (objects, client) ← (Client.resources net).run client
  let objects ← .ofAction (Action.ofExcept objects)
  learnVersion net client
  return ofObjects objects

/-- Takes a snapshot from the debug endpoint at an address. -/
def ofDebugEndpoint (net : Network σ κ) (config : DiscoveryConfig) (address : String) :
    Action σ Snapshot := do
  let endpoint ← DebugEndpoint.connect net address config.probeTimeout
  return ofObjects (← endpoint.objects net .mesh)

/-- Takes a snapshot of what is known. -/
def retrieve (net : Network σ κ) (config : DiscoveryConfig) : Survey σ Snapshot := do
  let known ← get
  let debug : Survey σ Snapshot := match known.debugAddress with
    | some address => .ofAction (ofDebugEndpoint net config address)
    | none => throw .noControlPlane
  match known.discoveryAddress with
  | some address =>
    tryCatch (ofStream net config address) fun e ↦
      if e.isConnectivity && known.debugAddress.isSome then debug else throw e
  | none => debug

end Snapshot

end MeshSurvey
