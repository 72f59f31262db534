import MeshSurvey.Mesh.Object

/-!
# Snapshots

A snapshot holds the configuration objects of one retrieval, apart by kind and in the order in which
they came. Objects of unknown kinds are left out.
-/

namespace MeshSurvey

/-- Configuration objects by kind. -/
structure Snapshot where
  namespaces : List Kubernetes.Namespace := []
  peerAuthentications : List (Custom PeerAuthenticationSpec) := []
  authorizationPolicies : List (Custom AuthorizationPolicySpec) := []
  destinationRules : List (Custom DestinationRuleSpec) := []
  gateways : List (Custom GatewaySpec) := []
  virtualServices : List (Custom VirtualServiceSpec) := []
  deriving Inhabited

namespace Snapshot

/-- The snapshot without objects. -/
def empty : Snapshot := {}

/-- The snapshot with one more object. -/
def push (s : Snapshot) : MeshObject → Snapshot
  | .ofNamespace o => { s with namespaces := s.namespaces ++ [o] }
  | .ofPeerAuthentication o => { s with peerAuthentications := s.peerAuthentications ++ [o] }
  | .ofAuthorizationPolicy o => { s with authorizationPolicies := s.authorizationPolicies ++ [o] }
  | .ofDestinationRule o => { s with destinationRules := s.destinationRules ++ [o] }
  | .ofGateway o => { s with gateways := s.gateways ++ [o] }
  | .ofVirtualService o => { s with virtualServices := s.virtualServices ++ [o] }
  | .unrecognized _ => s

/-- The snapshot of a list of objects. -/
def ofObjects (objects : List MeshObject) : Snapshot := objects.foldl push empty

/-- The number of objects. -/
def size (s : Snapshot) : Nat :=
  s.namespaces.length + s.peerAuthentications.length + s.authorizationPolicies.length +
    s.destinationRules.length + s.gateways.length + s.virtualServices.length

/-- Whether there are no objects. -/
def isEmpty (s : Snapshot) : Bool := s.size = 0

theorem size_push (s : Snapshot) (o : MeshObject) :
    (s.push o).size = s.size + if o.kind?.isSome then 1 else 0 := by
  cases o <;> simp [push, size, MeshObject.kind?] <;> omega

end Snapshot

end MeshSurvey
