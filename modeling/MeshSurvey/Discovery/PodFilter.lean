import MeshSurvey.Address.IP
import MeshSurvey.Kubernetes.Pod

/-!
# Finding the control plane among pods

A pod belongs to the control plane when it carries one of its labels, runs, is not known to be
unready, and has an address. The ports of its discovery service and of its debug endpoint are given
by number or by the name of a container's port; a name may lead to none.
-/

namespace MeshSurvey

open Kubernetes (Pod ContainerPort)

/-- How a port is given. -/
inductive PortRef where
  /-- By its number. -/
  | number (port : UInt16)
  /-- By the name of a container's port. -/
  | name (name : String)
  deriving DecidableEq, Repr

/-- The port that is meant, given the ports of the containers. The first port with the name counts,
even if its number is out of range. -/
def PortRef.resolve (ports : List ContainerPort) : PortRef → Option UInt16
  | .number port => some port
  | .name wanted =>
    match ports.find? (·.name = some wanted) with
    | some p =>
      let n := p.containerPort.toInt
      if 0 ≤ n ∧ n.toNat < UInt16.size then some (.ofNat n.toNat) else none
    | none => none

/-- A pod of the control plane. -/
structure ControlPlanePod where
  /-- The namespace and the name of the pod, with a slash between them. -/
  name : String
  /-- Its address. -/
  ip : IP
  /-- The port of its discovery service, if it was found. -/
  discovery : Option UInt16
  /-- The port of its debug endpoint, if it was found. -/
  debug : Option UInt16
  deriving DecidableEq

namespace ControlPlanePod

/-- The address of the discovery service. -/
def discoveryAddress (p : ControlPlanePod) : Option String := p.discovery.map p.ip.withPort

/-- The address of the debug endpoint. -/
def debugAddress (p : ControlPlanePod) : Option String := p.debug.map p.ip.withPort

end ControlPlanePod

/-- What to look for among pods. -/
structure PodFilter where
  /-- Labels of the control plane. A pod has to carry one of them. -/
  labels : List (String × String) := [("istio", "pilot"), ("app", "istiod")]
  /-- The port of the discovery service. -/
  discovery : PortRef := .name "grpc-xds"
  /-- The port of the debug endpoint. -/
  debug : PortRef := .name "http-monitoring"
  deriving DecidableEq, Repr

namespace PodFilter

/-- Whether a pod carries one of the labels. -/
def hasLabel (f : PodFilter) (pod : Pod) : Bool :=
  match pod.metadata.labels with
  | some labels => f.labels.any fun (key, value) ↦ labels.get? key = some value
  | none => false

/-- Whether a pod runs and the first word on its readiness, if there is one, is that it is ready. -/
def isReady (pod : Pod) : Bool :=
  match pod.status with
  | some status =>
    status.phase = some "Running" &&
      match (status.conditions.getD []).find? (·.type = "Ready") with
      | some condition => condition.status = "True"
      | none => true
  | none => false

/-- The address of a pod. -/
def address? (pod : Pod) : Option IP :=
  (pod.status.bind (·.podIP)).bind fun ip ↦ IP.read ip.toList

/-- The ports of a pod's regular containers. -/
def containerPorts (pod : Pod) : List ContainerPort :=
  match pod.spec with
  | some spec => spec.containers.flatMap fun c ↦ c.ports.getD []
  | none => []

/-- What is found in a pod. -/
def candidate (f : PodFilter) (pod : Pod) : Option ControlPlanePod :=
  if f.hasLabel pod && isReady pod then
    (address? pod).map fun ip ↦
      { name := pod.metadata.fullName, ip, discovery := f.discovery.resolve (containerPorts pod),
        debug := f.debug.resolve (containerPorts pod) }
  else none

/-- What is found in a list of pods, in its order. -/
def select (f : PodFilter) (pods : List Pod) : List ControlPlanePod := pods.filterMap f.candidate

end PodFilter

end MeshSurvey
