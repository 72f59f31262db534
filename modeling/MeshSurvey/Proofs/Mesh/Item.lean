import MeshSurvey.Proofs.Mesh.FullName
import MeshSurvey.Proofs.Protocol
import MeshSurvey.Proofs.Resource

/-!
# Items in envelopes

An item is what a control plane holds of an object of one of the six kinds: a namespace and a name,
metadata, and the body that the kind specifies. A control plane sends it in an envelope. The object
that a client takes out of the envelope has the item's body, and of the metadata what is not empty.
-/

namespace MeshSurvey

open Kubernetes (ObjectMeta)

/-- What a control plane holds of an object. -/
structure Item where
  kind : Kind
  /-- The namespace. -/
  space : String
  name : String
  /-- The version of the object. -/
  version : String
  labels : KeyMap String String
  annotations : KeyMap String String
  /-- What the kind specifies. -/
  body : kind.Body
  /-- The name of the body's type, which no reader looks at. -/
  bodyType : String
  /-- A slash ends the namespace. -/
  space_noSlash : '/' ∉ space.toList
  /-- The name is what follows the only slash. -/
  name_noSlash : '/' ∉ name.toList
  /-- Every object has a name. -/
  name_ne : name ≠ ""
  /-- Objects live in namespaces unless they are namespaces. -/
  space_ne : kind.isNamespaced = true → space ≠ ""

namespace Item

/-- The metadata in the envelope of an item. -/
def metadata (i : Item) : Metadata where
  name := i.space ++ "/" ++ i.name
  version := i.version
  labels := i.labels
  annotations := i.annotations

/-- The body in the envelope of an item. -/
def payload (i : Item) : AnyMessage := ⟨i.bodyType, i.kind.bodyWire.encode i.body⟩

/-- The envelope of an item. -/
def envelope (i : Item) : Envelope := ⟨some i.metadata, some i.payload⟩

/-- The bytes of the envelope of an item. -/
def bytes (i : Item) : Wire.Bytes := Envelope.wire.encode i.envelope

/-- The metadata of the object that an item is. -/
def objectMeta (i : Item) : ObjectMeta :=
  EnvelopedResource.objectMeta i.metadata i.space i.name

/-- The object that an item is. -/
def object (i : Item) : MeshObject := i.kind.ofBody i.objectMeta i.body

end Item

theorem Item.isFullName (i : Item) :
    IsFullName i.kind.isNamespaced i.metadata.name i.space i.name :=
  IsFullName.iff_notMem.mpr ⟨rfl, ⟨i.space_noSlash, i.name_noSlash⟩, i.name_ne, i.space_ne⟩

/-! ## Out of the envelope -/

theorem Kind.bodyWire_restores (k : Kind) : k.bodyWire.Restores 7 := by
  cases k with
  | namespaces => exact NamespaceBody.wire_lawful.restores_message.mono (by decide)
  | peerAuthentications =>
    exact PeerAuthenticationSpec.schema_lawful.wire.restores_message.mono (by decide)
  | authorizationPolicies =>
    exact AuthorizationPolicySpec.schema_lawful.wire.restores_message.mono (by decide)
  | destinationRules =>
    exact DestinationRuleSpec.schema_lawful.wire.restores_message.mono (by decide)
  | gateways => exact GatewaySpec.schema_lawful.wire.restores_message.mono (by decide)
  | virtualServices => exact VirtualServiceSpec.schema_lawful.wire.restores_message

namespace Item

/-- The bytes of an envelope of an item, written by someone who takes the records of the metadata in
any order. It is the entries of labels and annotations that have no order of their own. -/
def WrittenAs (i : Item) (bytes : Wire.Bytes) : Prop :=
  ∃ records, records.Perm (Metadata.wire.records i.metadata) ∧
    bytes = Wire.encodeRecords [(1, .bytes (Wire.encodeRecords records)),
      (2, .bytes (AnyMessage.wire.encode i.payload))]

theorem WrittenAs.decode_eq {i : Item} {bytes : Wire.Bytes} (h : i.WrittenAs bytes)
    (hcount : bytes.length < UInt64.size) : Envelope.wire.decode bytes = some i.envelope := by
  obtain ⟨records, hperm, rfl⟩ := h
  exact (Envelope.arranges_of_perm (by decide : 1 ≤ 98) hperm (some i.payload)).mergeBytes hcount

theorem WrittenAs.length_body_le {i : Item} {bytes : Wire.Bytes} (h : i.WrittenAs bytes) :
    (i.kind.bodyWire.encode i.body).length ≤ bytes.length := by
  obtain ⟨records, -, rfl⟩ := h
  exact Nat.le_trans i.payload.length_value_le
    (Wire.length_le_of_mem (List.mem_cons_of_mem _ List.mem_cons_self))

/-- **The object of an item comes out of its envelope.** -/
theorem WrittenAs.ofEnvelopeBytes_eq {i : Item} {bytes : Wire.Bytes} (h : i.WrittenAs bytes)
    (hcount : bytes.length < UInt64.size) : i.kind.ofEnvelopeBytes bytes = .ok i.object := by
  have hbody : i.kind.bodyWire.decode (i.kind.bodyWire.encode i.body) = some i.body :=
    i.kind.bodyWire_restores.decode_encode (by decide) (Nat.lt_of_le_of_lt h.length_body_le hcount)
  have hresource : EnvelopedResource.ofEnvelope i.kind i.envelope =
      .ok ⟨i.kind, i.objectMeta, i.kind.bodyWire.encode i.body⟩ :=
    EnvelopedResource.ofEnvelope_eq_ok_iff.mpr ⟨i.space, i.name, i.isFullName, rfl⟩
  simp only [Kind.ofEnvelopeBytes, h.decode_eq hcount, Kind.ofEnvelope, hresource]
  change EnvelopedResource.toObject _ = _
  simp only [EnvelopedResource.toObject, hbody]
  rfl

end Item

end MeshSurvey
