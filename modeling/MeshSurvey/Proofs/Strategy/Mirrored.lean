import MeshSurvey.Proofs.Client.Mirrored
import MeshSurvey.Proofs.Scan.Job
import MeshSurvey.Strategy.SubnetScan

/-!
# Scans mirror themselves

A scan of the subnet probes addresses, asks kubelets for their pods, and then asks the pods of the
control plane. Only the last of these sets up connections.
-/

namespace MeshSurvey

variable {σ κ : Type}

namespace Strategy

theorem mirrors_podsOf (net : Network σ κ) (config : DiscoveryConfig) (filter : PodFilter)
    (address : String) :
    Mirrors (Traffic.All Traffic.IsRequest) (podsOf net config filter address).run
      (podsOf net.recorded config filter address).run := by
  have hconnect : Mirrors (Traffic.All Traffic.IsRequest)
      (Kubelet.connect net address config.probeTimeout).run
      (Kubelet.connect net.recorded address config.probeTimeout).run :=
    (net.mirrors_request_isRequest _ _ _).bind_action fun _ ↦ .pure _
  refine hconnect.bind_action fun kubelet ↦ ?_
  have hpods : Mirrors (Traffic.All Traffic.IsRequest) (kubelet.pods net).run
      (kubelet.pods net.recorded).run :=
    (net.mirrors_request_isRequest _ _ _).bind_action fun _ ↦ .of_except _
  exact hpods.bind_action fun _ ↦ .pure _

theorem mirrors_candidates (net : Network σ κ) (config : DiscoveryConfig) (filter : PodFilter)
    (kubelets : List String) :
    Mirrors (Traffic.All Traffic.IsRequest) (candidates net config filter kubelets).run
      (candidates net.recorded config filter kubelets).run := by
  induction kubelets with
  | nil => exact .pure _
  | cons kubelet kubelets ih =>
    refine (mirrors_podsOf net config filter kubelet).attempt.bind_action fun pods ↦ ?_
    exact ih.bind_action fun _ ↦ .pure _

/-- The debug address of a pod, if an endpoint answers there. -/
def answeringDebugAddress (net : Network σ κ) (config : DiscoveryConfig) (pod : ControlPlanePod) :
    Action σ (Option String) :=
  match pod.debugAddress with
  | some address => do
    return if ← debugAnswers net config address then some address else none
  | none => return none

/-- What is made of the answers of a pod. -/
def probeOutcome (discovery : String) :
    Except Failure String → Option String → Except Failure DiscoveryUpdate
  | .error e, none => .error e
  | .error _, some debug => .ok { debugAddress := some debug }
  | .ok version, debug =>
    .ok { discoveryAddress := some discovery, debugAddress := debug, version := some version }

theorem probePod_eq (net : Network σ κ) (config : DiscoveryConfig) (pod : ControlPlanePod) :
    probePod net config pod =
      (do
        let discovery := pod.ip.withPort (pod.discovery.getD config.discoveryPort)
        let version ← (Client.confirm net discovery config.plainClient).attempt
        let debug ← answeringDebugAddress net config pod
        Action.ofExcept (probeOutcome discovery version debug)) := by
  have hdiscovery : pod.discoveryAddress.getD (pod.ip.withPort config.discoveryPort) =
      pod.ip.withPort (pod.discovery.getD config.discoveryPort) := by
    rw [ControlPlanePod.discoveryAddress]
    cases pod.discovery <;> rfl
  rw [probePod, hdiscovery]
  refine bind_congr fun version ↦ ?_
  have hlast : ∀ debug, (match version, debug with
      | .error e, none => throw e
      | .error _, some debug => pure { debugAddress := some debug }
      | .ok version, debug => pure
        { discoveryAddress := some (pod.ip.withPort (pod.discovery.getD config.discoveryPort))
          debugAddress := debug, version := some version } : Action σ DiscoveryUpdate) =
      Action.ofExcept (probeOutcome (pod.ip.withPort (pod.discovery.getD config.discoveryPort))
        version debug) := by
    intro debug
    rcases version with e | version <;> cases debug <;> rfl
  rw [answeringDebugAddress]
  cases pod.debugAddress with
  | none => exact hlast none
  | some address =>
    rw [bind_assoc]
    exact bind_congr fun answers ↦ hlast _

theorem mirrors_answeringDebugAddress (net : Network σ κ) (config : DiscoveryConfig)
    (pod : ControlPlanePod) :
    Mirrors (Traffic.All Traffic.IsRequest) (answeringDebugAddress net config pod).run
      (answeringDebugAddress net.recorded config pod).run := by
  unfold answeringDebugAddress
  cases pod.debugAddress with
  | none => exact .pure _
  | some address =>
    have hconnect : Mirrors (Traffic.All Traffic.IsRequest)
        (DebugEndpoint.connect net address config.probeTimeout).run
        (DebugEndpoint.connect net.recorded address config.probeTimeout).run :=
      (net.mirrors_request_isRequest _ _ _).bind_action fun _ ↦ .pure _
    have hanswers : Mirrors (Traffic.All Traffic.IsRequest) (debugAnswers net config address).run
        (debugAnswers net.recorded config address).run :=
      hconnect.attempt.bind_action fun _ ↦ .pure _
    exact hanswers.bind_action fun _ ↦ .pure _

theorem mirrors_probePod (net : Network σ κ) (config : DiscoveryConfig) (pod : ControlPlanePod) :
    Mirrors (Traffic.All Traffic.IsNoProbe) (probePod net config pod).run
      (probePod net.recorded config pod).run := by
  rw [probePod_eq, probePod_eq]
  have hconfirm {address : String} {client : ClientConfig} :=
    (Client.mirrors_confirm net address client).mono_all fun _ ↦ Traffic.IsConnection.isNoProbe
  have hdebug := (mirrors_answeringDebugAddress net config pod).mono_all fun _ ↦
    Traffic.IsRequest.isNoProbe
  exact hconfirm.attempt.bind_action fun _ ↦ hdebug.bind_action fun _ ↦ .of_except _

theorem mirrors_firstAnswer (net : Network σ κ) (config : DiscoveryConfig)
    (pods : List ControlPlanePod) (last : Option Failure) :
    Mirrors (Traffic.All Traffic.IsNoProbe) (firstAnswer net config pods last).run
      (firstAnswer net.recorded config pods last).run := by
  induction pods generalizing last with
  | nil =>
    cases last with
    | none => exact .pure _
    | some last => exact .of_except (.error last)
  | cons pod pods ih =>
    refine (mirrors_probePod net config pod).attempt.bind_action fun r ↦ ?_
    cases r with
    | error e => exact ih (some e)
    | ok update => exact .pure _

end Strategy

end MeshSurvey
