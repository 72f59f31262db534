import MeshSurvey.Kubernetes.Namespace
import MeshSurvey.Kubernetes.Volume

/-!
# Pods

A pod is a group of containers on one node, with an address of its own. Of what the API says about
pods, only what concerns labels, ports, addresses and readiness is kept.
-/

namespace MeshSurvey.Kubernetes

/-- What the containers of a pod may do. -/
def podSecurityForm : Form := .object ([
  ("fsGroup", .wide), ("fsGroupChangePolicy", .text), ("supplementalGroups", .list .wide),
  ("supplementalGroupsPolicy", .text),
  ("sysctls", .list (.object [("name", .text), ("value", .text)]))] ++ sharedSecurityForms)

/-- The fields of what is wanted of a pod that are not kept. -/
def podSpecForms : List (String × Form) := [
  ("activeDeadlineSeconds", .wide), ("affinity", affinityForm),
  ("automountServiceAccountToken", .flag),
  ("dnsConfig", .object [
    ("nameservers", .list .text),
    ("options", .list (.object [("name", .text), ("value", .text)])),
    ("searches", .list .text)]),
  ("dnsPolicy", .text), ("enableServiceLinks", .flag),
  ("ephemeralContainers", .list ephemeralContainerForm),
  ("hostAliases", .list (.object [("hostnames", .list .text), ("ip", .text)])),
  ("hostIPC", .flag), ("hostNetwork", .flag), ("hostPID", .flag), ("hostUsers", .flag),
  ("hostname", .text), ("imagePullSecrets", .list nameSelectorForm), ("nodeName", .text),
  ("nodeSelector", .map .text), ("os", nameSelectorForm), ("overhead", .map .quantity),
  ("preemptionPolicy", .text), ("priority", .signed), ("priorityClassName", .text),
  ("readinessGates", .list (.object [("conditionType", .text)])),
  ("resourceClaims", .list (.object [
    ("name", .text), ("resourceClaimName", .text), ("resourceClaimTemplateName", .text)])),
  ("restartPolicy", .text), ("runtimeClassName", .text), ("schedulerName", .text),
  ("schedulingGates", .list nameSelectorForm), ("securityContext", podSecurityForm),
  ("serviceAccount", .text), ("serviceAccountName", .text), ("setHostnameAsFQDN", .flag),
  ("shareProcessNamespace", .flag), ("subdomain", .text),
  ("terminationGracePeriodSeconds", .wide), ("tolerations", .list tolerationForm),
  ("topologySpreadConstraints", .list spreadForm), ("volumes", .list volumeForm)]

/-- What is wanted of a pod. -/
structure PodSpec where
  containers : List Container := []
  /-- The containers that run before these. -/
  initContainers : Option (List Container) := none
  deriving DecidableEq, Inhabited

/-- The JSON form of what is wanted. -/
def PodSpec.codec : Json.Codec PodSpec := objectCodec {} (
  [required "containers" (.list Container.codec) (·.containers)
      fun v m ↦ { m with containers := v },
    optional "initContainers" (.list Container.codec) (·.initContainers)
      fun v m ↦ { m with initContainers := v }] ++
  podSpecForms.map checked)

/-- The JSON form of an observation on a pod. -/
def podConditionCodec : Json.Codec ObjectCondition := objectCodec {} [
  optional "lastProbeTime" Timestamp.codec (·.lastProbeTime)
    fun v m ↦ { m with lastProbeTime := v },
  optional "lastTransitionTime" Timestamp.codec (·.lastTransitionTime)
    fun v m ↦ { m with lastTransitionTime := v },
  optional "message" .text (·.message) fun v m ↦ { m with message := v },
  optional "reason" .text (·.reason) fun v m ↦ { m with reason := v },
  required "status" .text (·.status) fun v m ↦ { m with status := v },
  required "type" .text (·.type) fun v m ↦ { m with type := v }]

/-- The fields of a pod's status that are not kept. -/
def podStatusForms : List (String × Form) := [
  ("containerStatuses", .list containerStatusForm),
  ("ephemeralContainerStatuses", .list containerStatusForm),
  ("hostIP", .text), ("hostIPs", .list (.object [("ip", .text)])),
  ("initContainerStatuses", .list containerStatusForm),
  ("message", .text), ("nominatedNodeName", .text), ("podIPs", .list (.object [("ip", .text)])),
  ("qosClass", .text), ("reason", .text), ("resize", .text),
  ("resourceClaimStatuses", .list (.object [("name", .text), ("resourceClaimName", .text)])),
  ("startTime", .time)]

/-- What is observed of a pod. -/
structure PodStatus where
  /-- Observations. -/
  conditions : Option (List ObjectCondition) := none
  /-- The stage of its life. -/
  phase : Option String := none
  /-- Its address. -/
  podIP : Option String := none
  deriving DecidableEq, Inhabited

/-- The JSON form of what is observed. -/
def PodStatus.codec : Json.Codec PodStatus := objectCodec {} (
  [optional "conditions" (.list podConditionCodec) (·.conditions)
      fun v m ↦ { m with conditions := v },
    optional "phase" .text (·.phase) fun v m ↦ { m with phase := v },
    optional "podIP" .text (·.podIP) fun v m ↦ { m with podIP := v }] ++
  podStatusForms.map checked)

/-- A pod. -/
structure Pod where
  metadata : ObjectMeta := {}
  /-- What is wanted of it. -/
  spec : Option PodSpec := none
  /-- What is observed of it. -/
  status : Option PodStatus := none
  deriving Inhabited

/-- The JSON form of a pod. -/
def Pod.codec : Json.Codec Pod := objectCodec {} [
  constant "apiVersion" "v1",
  constant "kind" "Pod",
  required "metadata" ObjectMeta.codec (·.metadata) fun v m ↦ { m with metadata := v },
  optional "spec" PodSpec.codec (·.spec) fun v m ↦ { m with spec := v },
  optional "status" PodStatus.codec (·.status) fun v m ↦ { m with status := v }]

/-! ## Lists of pods -/

/-- The metadata of a list. -/
structure ListMeta where
  /-- Where the next part of the list begins. -/
  continueToken : Option String := none
  /-- How many items the later parts have. -/
  remainingItemCount : Option Int := none
  /-- The version of the list. -/
  resourceVersion : Option String := none
  /-- The path under which it is served. -/
  selfLink : Option String := none
  deriving DecidableEq, Inhabited

/-- The JSON form of a list's metadata. -/
def ListMeta.codec : Json.Codec ListMeta := objectCodec {} [
  optional "continue" .text (·.continueToken) fun v m ↦ { m with continueToken := v },
  optional "remainingItemCount" integer64 (·.remainingItemCount)
    fun v m ↦ { m with remainingItemCount := v },
  optional "resourceVersion" .text (·.resourceVersion) fun v m ↦ { m with resourceVersion := v },
  optional "selfLink" .text (·.selfLink) fun v m ↦ { m with selfLink := v }]

/-- A list of pods. -/
structure PodList where
  items : List Pod := []
  metadata : ListMeta := {}
  deriving Inhabited

/-- The JSON form of a list of pods. -/
def PodList.codec : Json.Codec PodList := objectCodec {} [
  constant "apiVersion" "v1",
  constant "kind" "PodList",
  required "items" (.list Pod.codec) (·.items) fun v m ↦ { m with items := v },
  required "metadata" ListMeta.codec (·.metadata) fun v m ↦ { m with metadata := v }]

end MeshSurvey.Kubernetes
