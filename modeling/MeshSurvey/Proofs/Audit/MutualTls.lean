import MeshSurvey.Audit.MutualTls

/-!
# What the silence of the mutual TLS auditor means

Which mode is in force for a workload on a port is said here without the auditor, by the policies
that apply to the workload. A policy may single out workloads by their labels, it may hold for its
whole namespace, and one in the root namespace may hold for the whole mesh; each may set a mode for
all ports, and the first two for single ports as well.

The auditor looks at the modes that hold for whole namespaces, and at single ports for a mode of
plaintext only. It looks neither at a mode for all ports of workloads that are singled out, nor at
ports on which both plaintext and mutual TLS are accepted. So where it is silent, plaintext is
accepted in just these two cases.
-/

namespace MeshSurvey

/-! ## The mode in force -/

namespace PeerAuthenticationSpec

/-- Whether the policy singles out workloads by labels, all of which are among the given ones. -/
def singlesOut (s : PeerAuthenticationSpec) (labels : KeyMap String String) : Bool :=
  match s.selector with
  | some selector => !selector.matchLabels.isEmpty &&
      selector.matchLabels.entries.all fun (key, value) ↦ labels.get? key = some value
  | none => false

/-- The mode that the policy gives for a single port. -/
def portMode? (s : PeerAuthenticationSpec) (port : UInt32) : Option MtlsMode :=
  (s.portLevelMtls.get? port).map (·.mode.value)

theorem exists_mem_of_portMode?_eq_some {s : PeerAuthenticationSpec} {port : UInt32}
    {mode : MtlsMode} (h : s.portMode? port = some mode) :
    ∃ e ∈ s.portLevelMtls.entries, e.2.mode.value = mode := by
  obtain ⟨mtls, hget, rfl⟩ := Option.map_eq_some_iff.mp h
  obtain ⟨e, hfind, rfl⟩ := Option.map_eq_some_iff.mp hget
  exact ⟨e, List.mem_of_find?_eq_some hfind, rfl⟩

end PeerAuthenticationSpec

/-- The first mode that is set. -/
def MtlsMode.firstSet? (modes : List MtlsMode) : Option MtlsMode := modes.find? (· ≠ .unset)

/-- A workload, as far as policies can tell it from others. -/
structure Workload where
  /-- The namespace it runs in. -/
  namespaceName : String
  /-- The labels it carries. -/
  labels : KeyMap String String

namespace Workload

variable (policies : List (Custom PeerAuthenticationSpec)) (rootNamespace : String) (w : Workload)

/-- The policies of the workload's namespace that single it out. -/
def selecting : List (Custom PeerAuthenticationSpec) :=
  policies.filter fun p ↦
    p.metadata.namespaceName = some w.namespaceName && p.spec.singlesOut w.labels

/-- The policies that hold for a whole namespace. -/
def namespaceWide (namespaceName : String) : List (Custom PeerAuthenticationSpec) :=
  policies.filter fun p ↦
    p.metadata.namespaceName = some namespaceName && p.spec.isNamespaceWide

/-- The policies of its namespace that apply to the workload, the more specific ones first. -/
def ownPolicies : List (Custom PeerAuthenticationSpec) :=
  w.selecting policies ++ namespaceWide policies w.namespaceName

/-- The policies that apply to the workload, the more specific ones first. -/
def applying : List (Custom PeerAuthenticationSpec) :=
  w.ownPolicies policies ++ namespaceWide policies rootNamespace

/-- The mode for all ports that the policies singling out the workload set. -/
def selectingMode? : Option MtlsMode :=
  MtlsMode.firstSet? ((w.selecting policies).map (·.spec.mode))

/-- The mode that is set for a single port of the workload. -/
def portMode? (port : UInt32) : Option MtlsMode :=
  MtlsMode.firstSet? ((w.ownPolicies policies).filterMap (·.spec.portMode? port))

/-- The mode in force for the workload on a port. -/
def modeInForce (port : UInt32) : MtlsMode :=
  ((w.portMode? policies port).or
    (MtlsMode.firstSet? ((w.applying policies rootNamespace).map (·.spec.mode)))).getD .permissive

/-- The workload accepts plaintext on a port. -/
def AcceptsPlaintext (port : UInt32) : Prop := w.modeInForce policies rootNamespace port ≠ .strict

instance (port : UInt32) : Decidable (w.AcceptsPlaintext policies rootNamespace port) :=
  inferInstanceAs (Decidable (_ ≠ _))

variable {policies rootNamespace w}

theorem exists_policy_of_portMode?_eq_some {port : UInt32} {mode : MtlsMode}
    (h : w.portMode? policies port = some mode) :
    mode ≠ .unset ∧ ∃ p ∈ policies, p.spec.portMode? port = some mode := by
  rw [portMode?, MtlsMode.firstSet?] at h
  have hset := List.find?_some h
  obtain ⟨p, hp, hport⟩ := List.mem_filterMap.mp (List.mem_of_find?_eq_some h)
  refine ⟨of_decide_eq_true hset, p, ?_, hport⟩
  rcases List.mem_append.mp hp with hp | hp
  · exact (List.mem_filter.mp hp).1
  · exact (List.mem_filter.mp hp).1

open MutualTlsAudit (namespaceMode?)

theorem firstSet?_applying :
    MtlsMode.firstSet? ((w.applying policies rootNamespace).map (·.spec.mode)) =
      (w.selectingMode? policies).or ((namespaceMode? policies w.namespaceName).or
        (namespaceMode? policies rootNamespace)) := by
  rw [applying, ownPolicies, List.map_append, List.map_append, MtlsMode.firstSet?,
    List.find?_append, List.find?_append, Option.or_assoc]
  rfl

end Workload

/-! ## Silence -/

namespace MutualTlsAudit

theorem namespaceFinding?_eq_none_iff {namespaceName : String} {mode : MtlsMode} :
    namespaceFinding? namespaceName mode = none ↔ mode = .strict := by
  rw [namespaceFinding?]
  split <;> simp [*]

theorem portFindings_eq_nil_iff {policy : Custom PeerAuthenticationSpec} :
    portFindings policy = [] ↔
      ∀ e ∈ policy.spec.portLevelMtls.entries, e.2.mode.value ≠ .disable := by
  rw [portFindings, List.filterMap_eq_nil_iff]
  refine forall₂_congr fun ⟨port, mtls⟩ _ ↦ ?_
  by_cases h : mtls.mode.value = .disable <;> simp [h]

/-- The auditor is silent if all namespaces with a name inherit the strict mode, and no policy
disables mutual TLS on a port. -/
theorem findings_eq_nil_iff {context : AuditContext} :
    findings context = [] ↔
      (∀ n ∈ context.snapshot.namespaces, ∀ name, n.metadata.name = some name →
        inheritedMode context.snapshot.peerAuthentications context.rootNamespace name = .strict) ∧
      ∀ p ∈ context.snapshot.peerAuthentications, ∀ e ∈ p.spec.portLevelMtls.entries,
        e.2.mode.value ≠ .disable := by
  rw [findings, List.append_eq_nil_iff, List.filterMap_eq_nil_iff, List.flatMap_eq_nil_iff]
  refine and_congr (forall₂_congr fun n _ ↦ ?_) (forall₂_congr fun p _ ↦ portFindings_eq_nil_iff)
  simp only [Option.bind_eq_none_iff, namespaceFinding?_eq_none_iff]

theorem inheritedMode_eq_strict_iff {policies : List (Custom PeerAuthenticationSpec)}
    {rootNamespace namespaceName : String} :
    inheritedMode policies rootNamespace namespaceName = .strict ↔
      (namespaceMode? policies namespaceName).or (namespaceMode? policies rootNamespace) =
        some .strict := by
  rw [inheritedMode]
  cases (namespaceMode? policies namespaceName).or (namespaceMode? policies rootNamespace) <;> simp

/-- **Where the auditor is silent, plaintext is accepted in two cases.** Let a namespace be listed
under a name, and let a workload run in it, with any labels. On a port for which some mode is set by
the policies that apply to the workload there, plaintext is accepted just if both plaintext and
mutual TLS are; no other mode but the strict one can be set. On all other ports plaintext is
accepted just if policies that single out the workload set a mode, and that is not the strict
one. -/
theorem acceptsPlaintext_iff_of_silence {context : AuditContext} {n : Kubernetes.Namespace}
    {name : String} (hsilent : findings context = [])
    (hn : n ∈ context.snapshot.namespaces) (hname : n.metadata.name = some name)
    (labels : KeyMap String String) (port : UInt32) :
    let policies := context.snapshot.peerAuthentications
    let w : Workload := ⟨name, labels⟩
    w.AcceptsPlaintext policies context.rootNamespace port ↔
      w.portMode? policies port = some .permissive ∨
        w.portMode? policies port = none ∧
          ∃ mode, w.selectingMode? policies = some mode ∧ mode ≠ .strict := by
  intro policies w
  obtain ⟨hnamespaces, hports⟩ := findings_eq_nil_iff.mp hsilent
  have hinherited := inheritedMode_eq_strict_iff.mp (hnamespaces n hn name hname)
  rw [Workload.AcceptsPlaintext, Workload.modeInForce, Workload.firstSet?_applying, hinherited]
  cases hport : w.portMode? policies port with
  | some mode =>
    -- a mode for the port itself is neither unset nor one that the auditor would have found
    obtain ⟨hset, p, hp, hmode⟩ := Workload.exists_policy_of_portMode?_eq_some hport
    obtain ⟨e, he, rfl⟩ := PeerAuthenticationSpec.exists_mem_of_portMode?_eq_some hmode
    have hdisable := hports p hp e he
    cases hvalue : e.2.mode.value <;> simp_all
  | none => cases w.selectingMode? policies <;> simp

/-! ### Silence in spite of plaintext -/

/-- A namespace with some policies. -/
def billing (policies : List (Custom PeerAuthenticationSpec)) : AuditContext where
  snapshot := {
    namespaces := [{ metadata := { name := some "billing" } }]
    peerAuthentications := policies }
  rootNamespace := "istio-system"
  version := none

/-- A policy of the namespace. -/
def billingPolicy (name : String) (spec : PeerAuthenticationSpec) : Custom PeerAuthenticationSpec :=
  ⟨{ name := some name, namespaceName := some "billing" }, spec⟩

/-- A strict policy for the whole namespace. -/
def strictPolicy : Custom PeerAuthenticationSpec :=
  billingPolicy "default" { mtls := some ⟨.of .strict⟩ }

/-- A policy for the whole namespace that is strict but for one port. -/
def permissivePortPolicy : Custom PeerAuthenticationSpec :=
  billingPolicy "default" {
    mtls := some ⟨.of .strict⟩
    portLevelMtls := .ofList [(8080, ⟨.of .permissive⟩)] }

/-- A policy for the workloads with a label, whose peers need not use TLS. -/
def legacyPolicy : Custom PeerAuthenticationSpec :=
  billingPolicy "legacy" {
    selector := some ⟨.ofList [("app", "legacy")]⟩
    mtls := some ⟨.of .permissive⟩ }

/-- The port is the only one on which plaintext is accepted. -/
theorem acceptsPlaintext_iff_of_silence_port :
    findings (billing [permissivePortPolicy]) = [] ∧
      (Workload.mk "billing" ∅).AcceptsPlaintext [permissivePortPolicy] "istio-system" 8080 ∧
      ¬ (Workload.mk "billing" ∅).AcceptsPlaintext [permissivePortPolicy] "istio-system" 80 := by
  have hsilent : findings (billing [permissivePortPolicy]) = [] := by decide +kernel
  have hiff := acceptsPlaintext_iff_of_silence hsilent List.mem_cons_self rfl ∅
  refine ⟨hsilent, (hiff 8080).mpr (.inl (by decide +kernel)), fun hplain ↦ ?_⟩
  rcases (hiff 80).mp hplain with hport | ⟨-, mode, hmode, -⟩
  · exact absurd hport (by decide +kernel)
  · cases hmode

/-- Silence does not mean that no workload accepts plaintext: neither on a port for which the mode
is set, nor for workloads that are singled out. -/
theorem not_strict_of_silence :
    (findings (billing [permissivePortPolicy]) = [] ∧
      (Workload.mk "billing" ∅).AcceptsPlaintext [permissivePortPolicy] "istio-system" 8080) ∧
    findings (billing [strictPolicy, legacyPolicy]) = [] ∧
      (Workload.mk "billing" (.ofList [("app", "legacy")])).AcceptsPlaintext
        [strictPolicy, legacyPolicy] "istio-system" 80 := by
  decide +kernel

end MutualTlsAudit

end MeshSurvey
