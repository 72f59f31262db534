import MeshSurvey.Kubernetes.Namespace
import MeshSurvey.Mesh.Kind
import MeshSurvey.Protocol.Message
import MeshSurvey.Resource.AuthorizationPolicy
import MeshSurvey.Resource.DestinationRule
import MeshSurvey.Resource.Gateway
import MeshSurvey.Resource.PeerAuthentication
import MeshSurvey.Resource.VirtualService

/-!
# Configuration objects

An object of one of the six kinds is its metadata together with what the kind specifies. An object
of any other kind is kept as it is, apart from its metadata.

A kind has a body, which is what an envelope carries of an object besides its metadata, and its
objects have a JSON form. The five kinds besides namespaces ignore the version that a JSON object
names.
-/

namespace MeshSurvey

open Kubernetes (ObjectMeta)

/-- An object of a kind that specifies `σ`. -/
structure Custom (σ : Type) where
  metadata : ObjectMeta
  /-- What the object specifies. -/
  spec : σ
  deriving Inhabited

/-- An object of a kind that is not known. -/
structure Dynamic where
  apiVersion : String
  /-- The name of its kind. -/
  kind : String
  metadata : ObjectMeta
  /-- Everything else. -/
  data : List (String × Json)
  deriving Inhabited

/-- A configuration object. -/
inductive MeshObject where
  | ofNamespace (object : Kubernetes.Namespace)
  | ofPeerAuthentication (object : Custom PeerAuthenticationSpec)
  | ofAuthorizationPolicy (object : Custom AuthorizationPolicySpec)
  | ofDestinationRule (object : Custom DestinationRuleSpec)
  | ofGateway (object : Custom GatewaySpec)
  | ofVirtualService (object : Custom VirtualServiceSpec)
  /-- An object of another kind. -/
  | unrecognized (object : Dynamic)
  deriving Inhabited

/-! ## JSON forms -/

namespace Custom

variable {σ : Type}

/-- An object with its kind and version. -/
def toJson (k : Kind) (spec : Json.Codec σ) (o : Custom σ) : Json :=
  .object [
    ("apiVersion", .string k.apiVersion),
    ("kind", .string k.name),
    ("metadata", ObjectMeta.codec.write o.metadata),
    ("spec", spec.write o.spec)]

/-- Reads the metadata and what is specified, as the members come. -/
def readMembers (spec : Json.Codec σ) : List (String × Json) → Option ObjectMeta → Option σ →
    Except Mismatch (Custom σ)
  | [], some m, some s => .ok ⟨m, s⟩
  | [], _, _ => .error .form
  | (name, v) :: members, m?, s? =>
    if name = "metadata" then
      match m?, ObjectMeta.codec.read v with
      | some _, _ => .error .form
      | none, .ok m => readMembers spec members (some m) s?
      | none, .error e => .error e
    else if name = "spec" then
      match s?, spec.read v with
      | some _, _ => .error .form
      | none, .ok s => readMembers spec members m? (some s)
      | none, .error e => .error e
    else readMembers spec members m? s?

/-- Reads an object. It has to have metadata and a specification; anything else is ignored. -/
def ofJson (spec : Json.Codec σ) : Json → Except Mismatch (Custom σ)
  | .object members => readMembers spec members none none
  | _ => .error .form

end Custom

namespace Dynamic

/-- Whether a member of an object is kept apart from the others. -/
def isApart (name : String) : Bool := name = "apiVersion" || name = "kind" || name = "metadata"

/-- The object, with its metadata in front of everything else. -/
def toJson (o : Dynamic) : Json :=
  .object (("apiVersion", .string o.apiVersion) :: ("kind", .string o.kind) ::
    ("metadata", ObjectMeta.codec.write o.metadata) :: o.data)

/-- Reads an object of the kind and version that it names. Its metadata may be missing. -/
def ofJson (apiVersion kind : String) (v : Json) : Except Mismatch Dynamic :=
  match v with
  | .object members => do
    let metadata ← match v.member? "metadata" with
      | some m => ObjectMeta.codec.read m
      | none => .ok {}
    return ⟨apiVersion, kind, metadata, members.filter (!isApart ·.1)⟩
  | _ => .error .form

end Dynamic

namespace MeshObject

/-- The kind of an object, if it is one of the six. -/
def kind? : MeshObject → Option Kind
  | .ofNamespace _ => some .namespaces
  | .ofPeerAuthentication _ => some .peerAuthentications
  | .ofAuthorizationPolicy _ => some .authorizationPolicies
  | .ofDestinationRule _ => some .destinationRules
  | .ofGateway _ => some .gateways
  | .ofVirtualService _ => some .virtualServices
  | .unrecognized _ => none

/-- The name of an object's kind. -/
def kindName : MeshObject → String
  | .unrecognized o => o.kind
  | o => (o.kind?.map Kind.name).getD ""

/-- The metadata of an object. -/
def metadata : MeshObject → ObjectMeta
  | .ofNamespace o => o.metadata
  | .ofPeerAuthentication o => o.metadata
  | .ofAuthorizationPolicy o => o.metadata
  | .ofDestinationRule o => o.metadata
  | .ofGateway o => o.metadata
  | .ofVirtualService o => o.metadata
  | .unrecognized o => o.metadata

/-- The JSON form of an object. -/
def toJson : MeshObject → Json
  | .ofNamespace o => Kubernetes.Namespace.codec.write o
  | .ofPeerAuthentication o => o.toJson .peerAuthentications PeerAuthenticationSpec.schema.json
  | .ofAuthorizationPolicy o =>
    o.toJson .authorizationPolicies AuthorizationPolicySpec.schema.json
  | .ofDestinationRule o => o.toJson .destinationRules DestinationRuleSpec.schema.json
  | .ofGateway o => o.toJson .gateways GatewaySpec.schema.json
  | .ofVirtualService o => o.toJson .virtualServices VirtualServiceSpec.schema.json
  | .unrecognized o => o.toJson

end MeshObject

/-! ## What a kind adds to the metadata -/

namespace Kind

/-- What an envelope carries of an object of the kind besides its metadata. -/
def Body : Kind → Type
  | .namespaces => NamespaceBody
  | .peerAuthentications => PeerAuthenticationSpec
  | .authorizationPolicies => AuthorizationPolicySpec
  | .destinationRules => DestinationRuleSpec
  | .gateways => GatewaySpec
  | .virtualServices => VirtualServiceSpec

/-- The binary form of a body. -/
def bodyWire : (k : Kind) → Wire.Message k.Body
  | .namespaces => NamespaceBody.wire
  | .peerAuthentications => PeerAuthenticationSpec.schema.wire
  | .authorizationPolicies => AuthorizationPolicySpec.schema.wire
  | .destinationRules => DestinationRuleSpec.schema.wire
  | .gateways => GatewaySpec.schema.wire
  | .virtualServices => VirtualServiceSpec.schema.wire

/-- The namespace with the given metadata and body. Without finalizers the field is absent. -/
def namespaceOfBody (metadata : ObjectMeta) (body : NamespaceBody) : Kubernetes.Namespace where
  metadata
  spec := some ⟨if body.finalizers.isEmpty then none else some body.finalizers⟩

/-- The object of a kind with the given metadata and body. -/
def ofBody : (k : Kind) → ObjectMeta → k.Body → MeshObject
  | .namespaces, m, body => .ofNamespace (namespaceOfBody m body)
  | .peerAuthentications, m, spec => .ofPeerAuthentication ⟨m, spec⟩
  | .authorizationPolicies, m, spec => .ofAuthorizationPolicy ⟨m, spec⟩
  | .destinationRules, m, spec => .ofDestinationRule ⟨m, spec⟩
  | .gateways, m, spec => .ofGateway ⟨m, spec⟩
  | .virtualServices, m, spec => .ofVirtualService ⟨m, spec⟩

theorem kind?_ofBody (k : Kind) (m : ObjectMeta) (body : k.Body) :
    (k.ofBody m body).kind? = some k := by
  cases k <;> rfl

/-- Reads the JSON form of an object of a kind. -/
def ofJson (k : Kind) (v : Json) : Except Mismatch MeshObject :=
  match k with
  | .namespaces => (Kubernetes.Namespace.codec.read v).map .ofNamespace
  | .peerAuthentications =>
    (Custom.ofJson PeerAuthenticationSpec.schema.json v).map .ofPeerAuthentication
  | .authorizationPolicies =>
    (Custom.ofJson AuthorizationPolicySpec.schema.json v).map .ofAuthorizationPolicy
  | .destinationRules =>
    (Custom.ofJson DestinationRuleSpec.schema.json v).map .ofDestinationRule
  | .gateways => (Custom.ofJson GatewaySpec.schema.json v).map .ofGateway
  | .virtualServices => (Custom.ofJson VirtualServiceSpec.schema.json v).map .ofVirtualService

end Kind

end MeshSurvey
