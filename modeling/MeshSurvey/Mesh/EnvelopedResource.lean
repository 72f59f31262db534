import MeshSurvey.Failure
import MeshSurvey.Mesh.Object
import MeshSurvey.Text.Split

/-!
# Resources in envelopes

The name in an envelope holds a namespace and a name with exactly one slash between them. The name
must not be empty, nor must the namespace of a kind whose objects live in namespaces. What is empty
in an envelope is absent in the metadata of an object.
-/

namespace MeshSurvey

open Kubernetes (ObjectMeta)

/-- A resource taken out of its envelope. -/
structure EnvelopedResource where
  kind : Kind
  metadata : ObjectMeta
  /-- The bytes of its body. -/
  payload : Wire.Bytes
  deriving Inhabited

namespace EnvelopedResource

/-- The namespace and the name that a full name holds, if it is well formed. -/
def splitName (namespaced : Bool) (full : String) : Option (String × String) :=
  match Text.cutFirst '/' full.toList with
  | none => none
  | some (space, name) =>
    if name.isEmpty || name.contains '/' || (namespaced && space.isEmpty) then none
    else some (String.ofList space, String.ofList name)

/-- A text, absent when it is empty. -/
def present (s : String) : Option String := if s = "" then none else some s

/-- A map, absent when it is empty. -/
def presentMap (m : KeyMap String String) : Option (KeyMap String String) :=
  if m.isEmpty then none else some m

/-- The metadata of an object, from that of an envelope and the parts of its name. -/
def objectMeta (m : Metadata) (space name : String) : ObjectMeta where
  name := some name
  namespaceName := present space
  labels := presentMap m.labels
  annotations := presentMap m.annotations
  resourceVersion := present m.version

/-- Takes a resource of a kind out of its envelope. -/
def ofEnvelope (k : Kind) (e : Envelope) : Except Failure EnvelopedResource :=
  let m := e.metadata.getD {}
  match splitName k.isNamespaced m.name with
  | none => .error (.malformedName m.name)
  | some (space, name) => .ok ⟨k, objectMeta m space name, (e.body.getD {}).value⟩

/-- The object that a resource is, if its body is one of its kind. -/
def toObject (r : EnvelopedResource) : Except Failure MeshObject :=
  match r.kind.bodyWire.decode r.payload with
  | some body => .ok (r.kind.ofBody r.metadata body)
  | none => .error (.decode r.kind.typeUrl)

end EnvelopedResource

namespace Kind

/-- The object of a kind in an envelope. -/
def ofEnvelope (k : Kind) (e : Envelope) : Except Failure MeshObject := do
  (← EnvelopedResource.ofEnvelope k e).toObject

/-- The object of a kind in the bytes of an envelope. -/
def ofEnvelopeBytes (k : Kind) (bytes : Wire.Bytes) : Except Failure MeshObject :=
  match Envelope.wire.decode bytes with
  | some e => k.ofEnvelope e
  | none => .error (.decode k.typeUrl)

/-- The objects of a kind in a response, one for each resource and in their order; the failure of
the first resource that has none. -/
def ofResponse (k : Kind) (response : DiscoveryResponse) : Except Failure (List MeshObject) :=
  response.resources.mapM fun any ↦ k.ofEnvelopeBytes any.value

end Kind

end MeshSurvey
