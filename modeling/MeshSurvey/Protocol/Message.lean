import MeshSurvey.Wire.Message

/-!
# Messages of the discovery protocol

A client sends discovery requests, each for one type of resource, and receives discovery responses.
A response holds resources as opaque bytes under the names of their types. The bytes of one resource
are an envelope, which holds the resource's metadata and, again as opaque bytes, its body.
-/

namespace MeshSurvey

/-- A field of a binary message. -/
def wireField {σ α : Type} (number : Nat) (codec : Wire.Codec α) (get : σ → α)
    (set : α → σ → σ) : Wire.Field σ :=
  ⟨α, number, get, set, codec⟩

/-! ## Requests and responses -/

/-- Who sends a request. -/
structure Node where
  /-- The identity of the node. -/
  id : String := ""
  /-- The cluster that it belongs to. -/
  cluster : String := ""
  deriving DecidableEq, Repr, Inhabited

/-- The binary form of a node. -/
def Node.wire : Wire.Message Node where
  empty := {}
  fields := [
    wireField 1 .text (·.id) fun v m ↦ { m with id := v },
    wireField 2 .text (·.cluster) fun v m ↦ { m with cluster := v }]

/-- Who sends a response. -/
structure ControlPlane where
  /-- What the control plane says of itself. -/
  identifier : String := ""
  deriving DecidableEq, Repr, Inhabited

/-- The binary form of a control plane. -/
def ControlPlane.wire : Wire.Message ControlPlane where
  empty := {}
  fields := [wireField 1 .text (·.identifier) fun v m ↦ { m with identifier := v }]

/-- A message of a named type, as opaque bytes. -/
structure AnyMessage where
  /-- The name of the type. -/
  typeUrl : String := ""
  value : Wire.Bytes := []
  deriving DecidableEq, Repr, Inhabited

/-- The binary form of an opaque message. -/
def AnyMessage.wire : Wire.Message AnyMessage where
  empty := {}
  fields := [
    wireField 1 .text (·.typeUrl) fun v m ↦ { m with typeUrl := v },
    wireField 2 .bytes (·.value) fun v m ↦ { m with value := v }]

/-- A request for the resources of a type. -/
structure DiscoveryRequest where
  /-- The version that the client has. -/
  versionInfo : String := ""
  /-- Who sends the request. -/
  node : Option Node := none
  /-- The names of the resources; none of them for all. -/
  resourceNames : List String := []
  /-- The name of the type. -/
  typeUrl : String := ""
  /-- The nonce of the response that the request answers. -/
  responseNonce : String := ""
  deriving DecidableEq, Repr, Inhabited

namespace DiscoveryRequest

/-- The binary form of a request. -/
def wire : Wire.Message DiscoveryRequest where
  empty := {}
  fields := [
    wireField 1 .text (·.versionInfo) fun v m ↦ { m with versionInfo := v },
    wireField 2 (.optional Node.wire) (·.node) fun v m ↦ { m with node := v },
    wireField 3 .texts (·.resourceNames) fun v m ↦ { m with resourceNames := v },
    wireField 4 .text (·.typeUrl) fun v m ↦ { m with typeUrl := v },
    wireField 5 .text (·.responseNonce) fun v m ↦ { m with responseNonce := v }]

/-- The request of a node for all resources of a type. -/
def forType (typeUrl nodeId : String) : DiscoveryRequest :=
  { node := some { id := nodeId }, typeUrl }

end DiscoveryRequest

/-- A response with the resources of a type. -/
structure DiscoveryResponse where
  /-- The version of the resources. -/
  versionInfo : String := ""
  resources : List AnyMessage := []
  /-- The name of the type. -/
  typeUrl : String := ""
  /-- What the client is to repeat in its next request. -/
  nonce : String := ""
  /-- Who sends the response. -/
  controlPlane : Option ControlPlane := none
  deriving DecidableEq, Repr, Inhabited

/-- The binary form of a response. -/
def DiscoveryResponse.wire : Wire.Message DiscoveryResponse where
  empty := {}
  fields := [
    wireField 1 .text (·.versionInfo) fun v m ↦ { m with versionInfo := v },
    wireField 2 (.messages AnyMessage.wire) (·.resources) fun v m ↦ { m with resources := v },
    wireField 4 .text (·.typeUrl) fun v m ↦ { m with typeUrl := v },
    wireField 5 .text (·.nonce) fun v m ↦ { m with nonce := v },
    wireField 6 (.optional ControlPlane.wire) (·.controlPlane)
      fun v m ↦ { m with controlPlane := v }]

/-! ## Envelopes -/

/-- The metadata of an enveloped resource. -/
structure Metadata where
  /-- The namespace and the name of the resource, with a slash between them. -/
  name : String := ""
  /-- The version of the resource. -/
  version : String := ""
  labels : KeyMap String String := ∅
  annotations : KeyMap String String := ∅
  deriving DecidableEq, Inhabited

/-- The binary form of the metadata. -/
def Metadata.wire : Wire.Message Metadata where
  empty := {}
  fields := [
    wireField 1 .text (·.name) fun v m ↦ { m with name := v },
    wireField 3 .text (·.version) fun v m ↦ { m with version := v },
    wireField 4 (.map .text .text) (·.labels) fun v m ↦ { m with labels := v },
    wireField 5 (.map .text .text) (·.annotations) fun v m ↦ { m with annotations := v }]

/-- A resource with its metadata. -/
structure Envelope where
  metadata : Option Metadata := none
  body : Option AnyMessage := none
  deriving DecidableEq, Inhabited

/-- The binary form of an envelope. -/
def Envelope.wire : Wire.Message Envelope where
  empty := {}
  fields := [
    wireField 1 (.optional Metadata.wire) (·.metadata) fun v m ↦ { m with metadata := v },
    wireField 2 (.optional AnyMessage.wire) (·.body) fun v m ↦ { m with body := v }]

/-- The body of an enveloped namespace. -/
structure NamespaceBody where
  /-- What has to be done before the namespace can go. -/
  finalizers : List String := []
  deriving DecidableEq, Repr, Inhabited

/-- The binary form of the body. -/
def NamespaceBody.wire : Wire.Message NamespaceBody where
  empty := {}
  fields := [wireField 1 .texts (·.finalizers) fun v m ↦ { m with finalizers := v }]

end MeshSurvey
