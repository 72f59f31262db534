import MeshSurvey.Kubernetes.Form

/-!
# Placement of pods

A pod may say on which nodes it can run, next to which other pods it should, and how it is spread
over the nodes. All of this concerns only the scheduler.
-/

namespace MeshSurvey.Kubernetes

/-- A requirement on the labels of an object. -/
def labelRequirementForm : Form := .object [
  ("key", .text), ("operator", .text), ("values", .list .text)]

/-- A choice of objects by their labels. -/
def labelSelectorForm : Form := .object [
  ("matchExpressions", .list labelRequirementForm), ("matchLabels", .map .text)]

/-- A choice of nodes. -/
def nodeTermForm : Form := .object [
  ("matchExpressions", .list labelRequirementForm), ("matchFields", .list labelRequirementForm)]

/-- The nodes on which a pod can run, and those on which it would rather. -/
def nodeAffinityForm : Form := .object [
  ("preferredDuringSchedulingIgnoredDuringExecution",
    .list (.object [("preference", nodeTermForm), ("weight", .signed)])),
  ("requiredDuringSchedulingIgnoredDuringExecution",
    .object [("nodeSelectorTerms", .list nodeTermForm)])]

/-- A choice of other pods, and of what counts as near to them. -/
def podTermForm : Form := .object [
  ("labelSelector", labelSelectorForm), ("matchLabelKeys", .list .text),
  ("mismatchLabelKeys", .list .text), ("namespaceSelector", labelSelectorForm),
  ("namespaces", .list .text), ("topologyKey", .text)]

/-- The pods near to which a pod has to be, or must not be, and those for which it is a wish. -/
def podAffinityForm : Form := .object [
  ("preferredDuringSchedulingIgnoredDuringExecution",
    .list (.object [("podAffinityTerm", podTermForm), ("weight", .signed)])),
  ("requiredDuringSchedulingIgnoredDuringExecution", .list podTermForm)]

/-- Where a pod is to run. -/
def affinityForm : Form := .object [
  ("nodeAffinity", nodeAffinityForm), ("podAffinity", podAffinityForm),
  ("podAntiAffinity", podAffinityForm)]

/-- A flaw of nodes that a pod can live with. -/
def tolerationForm : Form := .object [
  ("effect", .text), ("key", .text), ("operator", .text), ("tolerationSeconds", .wide),
  ("value", .text)]

/-- How evenly pods are to be spread. -/
def spreadForm : Form := .object [
  ("labelSelector", labelSelectorForm), ("matchLabelKeys", .list .text), ("maxSkew", .signed),
  ("minDomains", .signed), ("nodeAffinityPolicy", .text), ("nodeTaintsPolicy", .text),
  ("topologyKey", .text), ("whenUnsatisfiable", .text)]

end MeshSurvey.Kubernetes
