import MeshSurvey.Kubernetes.ObjectMeta

/-!
# Namespaces

A namespace is an object of the core API that holds other objects. It belongs to no namespace
itself.
-/

namespace MeshSurvey.Kubernetes

/-- What is wanted of a namespace. -/
structure NamespaceSpec where
  /-- What has to be done before it can go. -/
  finalizers : Option (List String) := none
  deriving DecidableEq, Inhabited

/-- The JSON form of what is wanted. -/
def NamespaceSpec.codec : Json.Codec NamespaceSpec := objectCodec {} [
  optional "finalizers" (.list .text) (·.finalizers) fun v m ↦ { m with finalizers := v }]

/-- An observation on an object. -/
structure ObjectCondition where
  /-- When it was last made. -/
  lastProbeTime : Option Timestamp := none
  /-- When it last changed. -/
  lastTransitionTime : Option Timestamp := none
  /-- What it means. -/
  message : Option String := none
  /-- Why it is so. -/
  reason : Option String := none
  /-- Whether it holds. -/
  status : String := ""
  /-- What is observed. -/
  type : String := ""
  deriving DecidableEq, Inhabited

/-- The JSON form of an observation on a namespace. -/
def ObjectCondition.codec : Json.Codec ObjectCondition := objectCodec {} [
  optional "lastTransitionTime" Timestamp.codec (·.lastTransitionTime)
    fun v m ↦ { m with lastTransitionTime := v },
  optional "message" .text (·.message) fun v m ↦ { m with message := v },
  optional "reason" .text (·.reason) fun v m ↦ { m with reason := v },
  required "status" .text (·.status) fun v m ↦ { m with status := v },
  required "type" .text (·.type) fun v m ↦ { m with type := v }]

/-- What is observed of a namespace. -/
structure NamespaceStatus where
  /-- Observations. -/
  conditions : Option (List ObjectCondition) := none
  /-- The stage of its life. -/
  phase : Option String := none
  deriving DecidableEq, Inhabited

/-- The JSON form of what is observed. -/
def NamespaceStatus.codec : Json.Codec NamespaceStatus := objectCodec {} [
  optional "conditions" (.list ObjectCondition.codec) (·.conditions)
    fun v m ↦ { m with conditions := v },
  optional "phase" .text (·.phase) fun v m ↦ { m with phase := v }]

/-- A namespace. -/
structure Namespace where
  metadata : ObjectMeta := {}
  /-- What is wanted of it. -/
  spec : Option NamespaceSpec := none
  /-- What is observed of it. -/
  status : Option NamespaceStatus := none
  deriving Inhabited

/-- The JSON form of a namespace. -/
def Namespace.codec : Json.Codec Namespace := objectCodec {} [
  constant "apiVersion" "v1",
  constant "kind" "Namespace",
  required "metadata" ObjectMeta.codec (·.metadata) fun v m ↦ { m with metadata := v },
  optional "spec" NamespaceSpec.codec (·.spec) fun v m ↦ { m with spec := v },
  optional "status" NamespaceStatus.codec (·.status) fun v m ↦ { m with status := v }]

end MeshSurvey.Kubernetes
