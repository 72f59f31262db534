/-!
# Kinds of configuration objects

Six kinds of objects configure the mesh. Each has a name, belongs to a group of the API at a
version, and is requested under the URL made of the three. Only namespaces stand outside of any
namespace.
-/

namespace MeshSurvey

/-- The name of a kind within a version of a group of the API. -/
structure GroupVersionKind where
  /-- The group; empty for the core API. -/
  group : String
  version : String
  /-- The name of the kind. -/
  kind : String
  deriving DecidableEq, Repr, Inhabited

/-- The URL under which the kind is requested. -/
def GroupVersionKind.typeUrl (g : GroupVersionKind) : String :=
  (if g.group = "" then "core" else g.group) ++ "/" ++ g.version ++ "/" ++ g.kind

/-- A kind of configuration objects. -/
inductive Kind where
  | namespaces
  | peerAuthentications
  | authorizationPolicies
  | destinationRules
  | gateways
  | virtualServices
  deriving DecidableEq, Repr, Inhabited

namespace Kind

/-- Every kind, in the order in which they are surveyed. -/
def all : List Kind :=
  [.namespaces, .peerAuthentications, .authorizationPolicies, .destinationRules, .gateways,
    .virtualServices]

theorem mem_all (k : Kind) : k ∈ all := by cases k <;> simp [all]

/-- The group, version and name of a kind. -/
def gvk : Kind → GroupVersionKind
  | .namespaces => ⟨"", "v1", "Namespace"⟩
  | .peerAuthentications => ⟨"security.istio.io", "v1beta1", "PeerAuthentication"⟩
  | .authorizationPolicies => ⟨"security.istio.io", "v1beta1", "AuthorizationPolicy"⟩
  | .destinationRules => ⟨"networking.istio.io", "v1alpha3", "DestinationRule"⟩
  | .gateways => ⟨"networking.istio.io", "v1alpha3", "Gateway"⟩
  | .virtualServices => ⟨"networking.istio.io", "v1alpha3", "VirtualService"⟩

/-- The name of a kind. -/
def name (k : Kind) : String := k.gvk.kind

/-- The version of the API that objects of a kind name. -/
def apiVersion (k : Kind) : String :=
  if k.gvk.group = "" then k.gvk.version else k.gvk.group ++ "/" ++ k.gvk.version

/-- The URL under which a kind is requested. -/
def typeUrl (k : Kind) : String := k.gvk.typeUrl

/-- Whether objects of a kind live in namespaces. -/
def isNamespaced (k : Kind) : Bool := k ≠ .namespaces

end Kind

end MeshSurvey
