import MeshSurvey.Json.Bytes
import MeshSurvey.Kubernetes.Pod
import MeshSurvey.Network.Basic

/-!
# Kubelets

The kubelet of a node lists the pods on it over HTTP, to anyone who asks on its read-only port.
-/

namespace MeshSurvey

/-- A kubelet that has answered. -/
structure Kubelet where
  url : String
  /-- The time allowed for a request. -/
  timeout : Duration
  deriving DecidableEq, Repr

namespace Kubelet

variable {σ κ : Type}

/-- The kubelet at an address, if it is well. -/
def connect (net : Network σ κ) (address : String) (timeout : Duration) : Action σ Kubelet := do
  let url := "http://" ++ address
  let _ ← net.request .get (url ++ "/healthz/ping") timeout
  return ⟨url, timeout⟩

/-- The pods in the body of the response from a URL. -/
def podsOfBody (url : String) (body : Wire.Bytes) : Except Failure (List Kubernetes.Pod) :=
  match Json.ofBytesAsWritten? body with
  | none => .error (.json url .form)
  | some v => ((Kubernetes.PodList.codec.read v).map (·.items)).mapError (.json url)

/-- The pods on the node. -/
def pods (net : Network σ κ) (kubelet : Kubelet) : Action σ (List Kubernetes.Pod) := do
  let url := kubelet.url ++ "/pods"
  Action.ofExcept (podsOfBody url (← net.request .get url kubelet.timeout))

end Kubelet

end MeshSurvey
