import MeshSurvey.Kubernetes.Object
import MeshSurvey.Time.Timestamp

/-!
# Metadata of objects

Every object of the Kubernetes API has metadata: where it is, how it is labelled, and what the API
server notes about it.
-/

namespace MeshSurvey.Kubernetes

/-- An object that another one depends on. -/
structure OwnerReference where
  /-- The version of the owner's API. -/
  apiVersion : String := ""
  /-- Whether the owner waits for the other object to go. -/
  blockOwnerDeletion : Option Bool := none
  /-- Whether the owner manages the other object. -/
  controller : Option Bool := none
  /-- The kind of the owner. -/
  kind : String := ""
  /-- The name of the owner. -/
  name : String := ""
  /-- The identity of the owner. -/
  uid : String := ""
  deriving DecidableEq, Inhabited

/-- The JSON form of an owner. -/
def OwnerReference.codec : Json.Codec OwnerReference := objectCodec {} [
  required "apiVersion" .text (·.apiVersion) fun v m ↦ { m with apiVersion := v },
  optional "blockOwnerDeletion" .flag (·.blockOwnerDeletion)
    fun v m ↦ { m with blockOwnerDeletion := v },
  optional "controller" .flag (·.controller) fun v m ↦ { m with controller := v },
  required "kind" .text (·.kind) fun v m ↦ { m with kind := v },
  required "name" .text (·.name) fun v m ↦ { m with name := v },
  required "uid" .text (·.uid) fun v m ↦ { m with uid := v }]

/-- What one manager of an object has set. -/
structure ManagedFields where
  /-- The version of the manager's API. -/
  apiVersion : Option String := none
  /-- The form of the list of fields. -/
  fieldsType : Option String := none
  /-- The list of fields. -/
  fieldsV1 : Option Json := none
  manager : Option String := none
  /-- How it set the fields. -/
  operation : Option String := none
  /-- The part of the object through which it did. -/
  subresource : Option String := none
  /-- When it did. -/
  time : Option Timestamp := none
  deriving Inhabited

/-- The JSON form of a manager's fields. -/
def ManagedFields.codec : Json.Codec ManagedFields := objectCodec {} [
  optional "apiVersion" .text (·.apiVersion) fun v m ↦ { m with apiVersion := v },
  optional "fieldsType" .text (·.fieldsType) fun v m ↦ { m with fieldsType := v },
  optional "fieldsV1" verbatim (·.fieldsV1) fun v m ↦ { m with fieldsV1 := v },
  optional "manager" .text (·.manager) fun v m ↦ { m with manager := v },
  optional "operation" .text (·.operation) fun v m ↦ { m with operation := v },
  optional "subresource" .text (·.subresource) fun v m ↦ { m with subresource := v },
  optional "time" Timestamp.codec (·.time) fun v m ↦ { m with time := v }]

/-- The metadata of an object. -/
structure ObjectMeta where
  /-- Notes that nothing selects by. -/
  annotations : Option (KeyMap String String) := none
  /-- When the object was created. -/
  creationTimestamp : Option Timestamp := none
  /-- How long the object may take to go. -/
  deletionGracePeriodSeconds : Option Int := none
  /-- When the object is to go. -/
  deletionTimestamp : Option Timestamp := none
  /-- What has to be done before it can go. -/
  finalizers : Option (List String) := none
  /-- How a name for it begins. -/
  generateName : Option String := none
  /-- How often what is wanted of it has changed. -/
  generation : Option Int := none
  /-- Labels that others select by. -/
  labels : Option (KeyMap String String) := none
  /-- What its managers have set. -/
  managedFields : Option (List ManagedFields) := none
  name : Option String := none
  namespaceName : Option String := none
  /-- The objects that it depends on. -/
  ownerReferences : Option (List OwnerReference) := none
  resourceVersion : Option String := none
  /-- The path under which it is served. -/
  selfLink : Option String := none
  /-- Its identity. -/
  uid : Option String := none
  deriving Inhabited

/-- The JSON form of the metadata. -/
def ObjectMeta.codec : Json.Codec ObjectMeta := objectCodec {} [
  optional "annotations" texts (·.annotations) fun v m ↦ { m with annotations := v },
  optional "creationTimestamp" Timestamp.codec (·.creationTimestamp)
    fun v m ↦ { m with creationTimestamp := v },
  optional "deletionGracePeriodSeconds" integer64 (·.deletionGracePeriodSeconds)
    fun v m ↦ { m with deletionGracePeriodSeconds := v },
  optional "deletionTimestamp" Timestamp.codec (·.deletionTimestamp)
    fun v m ↦ { m with deletionTimestamp := v },
  optional "finalizers" (.list .text) (·.finalizers) fun v m ↦ { m with finalizers := v },
  optional "generateName" .text (·.generateName) fun v m ↦ { m with generateName := v },
  optional "generation" integer64 (·.generation) fun v m ↦ { m with generation := v },
  optional "labels" texts (·.labels) fun v m ↦ { m with labels := v },
  optional "managedFields" (.list ManagedFields.codec) (·.managedFields)
    fun v m ↦ { m with managedFields := v },
  optional "name" .text (·.name) fun v m ↦ { m with name := v },
  optional "namespace" .text (·.namespaceName) fun v m ↦ { m with namespaceName := v },
  optional "ownerReferences" (.list OwnerReference.codec) (·.ownerReferences)
    fun v m ↦ { m with ownerReferences := v },
  optional "resourceVersion" .text (·.resourceVersion) fun v m ↦ { m with resourceVersion := v },
  optional "selfLink" .text (·.selfLink) fun v m ↦ { m with selfLink := v },
  optional "uid" .text (·.uid) fun v m ↦ { m with uid := v }]

/-- The namespace and the name of an object, each empty when it is absent, with a slash between
them. -/
def ObjectMeta.fullName (m : ObjectMeta) : String :=
  m.namespaceName.getD "" ++ "/" ++ m.name.getD ""

end MeshSurvey.Kubernetes
