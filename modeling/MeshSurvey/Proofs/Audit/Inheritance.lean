import MeshSurvey.Audit.MutualTls
import MeshSurvey.Proofs.KeyMap
import MeshSurvey.Proofs.Resource

/-!
# Which plaintext is reported

The mode that a namespace inherits is said here by the policies that set one: the first in the order
of arrival decides, and those of the root namespace are asked only if none of the namespace's own
sets any. A policy that leaves the mode unset, or gives it by a number without a name, is passed
over like one that is not there.

So all that the order of policies can decide is which of several set modes a namespace has. Where
the policies of each namespace agree on the mode they set, any order leads to the same findings.
-/

namespace MeshSurvey

/-! ## Policies -/

theorem MutualTls.value_mode_eq_iff {mtls : MutualTls} {mode : MtlsMode} (hset : mode ≠ .unset) :
    mtls.mode.value = mode ↔ mtls = ⟨.of mode⟩ := by
  rw [Coded.value_eq_iff_of_ne hset]
  exact ⟨congrArg MutualTls.mk, congrArg MutualTls.mode⟩

namespace PeerAuthenticationSpec

theorem mode_eq_iff {s : PeerAuthenticationSpec} {mode : MtlsMode} (hset : mode ≠ .unset) :
    s.mode = mode ↔ s.mtls = some ⟨.of mode⟩ := by
  rw [PeerAuthenticationSpec.mode]
  split
  next mtls hmtls => rw [hmtls, MutualTls.value_mode_eq_iff hset, Option.some_inj]
  next hmtls => exact iff_of_false hset.symm fun h ↦ nomatch hmtls.symm.trans h

theorem isNamespaceWide_iff {s : PeerAuthenticationSpec} :
    s.isNamespaceWide = true ↔ s.selector = none ∨ s.selector = some ⟨∅⟩ := by
  rw [isNamespaceWide]
  split
  next selector hselector =>
    have hempty : selector.matchLabels.isEmpty = true ↔ selector = ⟨∅⟩ := by
      rw [KeyMap.isEmpty, List.isEmpty_iff]
      exact ⟨fun h ↦ congrArg WorkloadSelector.mk (KeyMap.ext h), fun h ↦ by rw [h]; rfl⟩
    rw [hselector, hempty, Option.some_inj]
    exact (or_iff_right nofun).symm
  next hselector => exact iff_of_true rfl (.inl hselector)

/-- The ports on which the policy disables mutual TLS. -/
def disabledPorts (s : PeerAuthenticationSpec) : List UInt32 :=
  (s.portLevelMtls.entries.filter (·.2.mode.value = .disable)).map (·.1)

theorem disabledPorts_ascending (s : PeerAuthenticationSpec) :
    s.disabledPorts.Pairwise (· < ·) := by
  refine List.pairwise_map.mpr ((s.portLevelMtls.ascending.filter _).imp ?_)
  intro a b h
  exact Std.compare_eq_lt.mp h

theorem mem_disabledPorts_iff {s : PeerAuthenticationSpec} {port : UInt32} :
    port ∈ s.disabledPorts ↔ s.portLevelMtls.get? port = some ⟨.of .disable⟩ := by
  have hdisable {mtls : MutualTls} : mtls.mode.value = .disable ↔ mtls = ⟨.of .disable⟩ :=
    MutualTls.value_mode_eq_iff nofun
  simp only [disabledPorts, List.mem_map, List.mem_filter, decide_eq_true_eq, hdisable]
  rw [← KeyMap.mem_entries_iff]
  constructor
  · rintro ⟨⟨_, _⟩, ⟨hmem, rfl⟩, rfl⟩
    exact hmem
  · exact fun h ↦ ⟨_, ⟨h, rfl⟩, rfl⟩

end PeerAuthenticationSpec

/-- The same context, but with other policies on peers. -/
def AuditContext.withPolicies (context : AuditContext)
    (policies : List (Custom PeerAuthenticationSpec)) : AuditContext :=
  { context with snapshot := { context.snapshot with peerAuthentications := policies } }

namespace MutualTlsAudit

variable {policies policies' : List (Custom PeerAuthenticationSpec)}
  {p : Custom PeerAuthenticationSpec} {rootNamespace namespaceName : String} {mode : MtlsMode}

/-- A policy sets the mode of its whole namespace: it has no selector, or one without labels, and
the number it has for the mode is that of a mode other than the unset one. A number that no mode has
sets nothing. -/
structure SetsMode (p : Custom PeerAuthenticationSpec) (namespaceName : String) (mode : MtlsMode) :
    Prop where
  namespaceName : p.metadata.namespaceName = some namespaceName
  selector : p.spec.selector = none ∨ p.spec.selector = some ⟨∅⟩
  mtls : p.spec.mtls = some ⟨.of mode⟩
  set : mode ≠ .unset

/-- Whether a policy sets some mode of its whole namespace. -/
def settles (namespaceName : String) (p : Custom PeerAuthenticationSpec) : Bool :=
  (p.metadata.namespaceName = some namespaceName && p.spec.isNamespaceWide) &&
    p.spec.mode ≠ .unset

theorem setsMode_iff :
    SetsMode p namespaceName mode ↔ settles namespaceName p = true ∧ p.spec.mode = mode := by
  simp only [settles, Bool.and_eq_true, decide_eq_true_eq]
  constructor
  · intro h
    have hmode := (PeerAuthenticationSpec.mode_eq_iff h.set).mpr h.mtls
    have hwide := PeerAuthenticationSpec.isNamespaceWide_iff.mpr h.selector
    exact ⟨⟨⟨h.namespaceName, hwide⟩, hmode.trans_ne h.set⟩, hmode⟩
  · rintro ⟨⟨⟨hname, hwide⟩, hset⟩, rfl⟩
    exact ⟨hname, PeerAuthenticationSpec.isNamespaceWide_iff.mp hwide,
      (PeerAuthenticationSpec.mode_eq_iff hset).mp rfl, hset⟩

/-- No policy sets a mode of the namespace. -/
def NoneSetsMode (policies : List (Custom PeerAuthenticationSpec)) (namespaceName : String) :
    Prop :=
  ∀ p ∈ policies, ∀ mode, ¬ SetsMode p namespaceName mode

theorem noneSetsMode_iff :
    NoneSetsMode policies namespaceName ↔ ∀ p ∈ policies, ¬ settles namespaceName p = true := by
  refine forall₂_congr fun p _ ↦ ⟨fun hnone hp ↦ ?_, fun hp mode hsets ↦ ?_⟩
  · exact hnone p.spec.mode (setsMode_iff.mpr ⟨hp, rfl⟩)
  · exact hp (setsMode_iff.mp hsets).1

/-- The first of the policies that set a mode of the namespace sets this one. -/
def FirstSetsMode (policies : List (Custom PeerAuthenticationSpec)) (namespaceName : String)
    (mode : MtlsMode) : Prop :=
  ∃ before p after, policies = before ++ p :: after ∧ NoneSetsMode before namespaceName ∧
    SetsMode p namespaceName mode

theorem namespaceMode?_eq_map_find? :
    namespaceMode? policies namespaceName =
      (policies.find? (settles namespaceName)).map (·.spec.mode) := by
  rw [namespaceMode?, List.find?_map, List.find?_filter]
  simp only [Function.comp_apply, Bool.decide_and, Bool.decide_eq_true]
  rfl

theorem namespaceMode?_eq_none_iff :
    namespaceMode? policies namespaceName = none ↔ NoneSetsMode policies namespaceName := by
  rw [namespaceMode?_eq_map_find?, Option.map_eq_none_iff, List.find?_eq_none, noneSetsMode_iff]

theorem namespaceMode?_eq_some_iff :
    namespaceMode? policies namespaceName = some mode ↔
      FirstSetsMode policies namespaceName mode := by
  rw [namespaceMode?_eq_map_find?, Option.map_eq_some_iff]
  simp only [List.find?_eq_some_iff_append, Bool.not_eq_true', ← Bool.not_eq_true,
    ← noneSetsMode_iff]
  constructor
  · rintro ⟨p, ⟨hp, before, after, heq, hbefore⟩, hmode⟩
    exact ⟨before, p, after, heq, hbefore, setsMode_iff.mpr ⟨hp, hmode⟩⟩
  · rintro ⟨before, p, after, heq, hbefore, hsets⟩
    obtain ⟨hp, hmode⟩ := setsMode_iff.mp hsets
    exact ⟨p, ⟨hp, before, after, heq, hbefore⟩, hmode⟩

/-! ## Inheritance -/

/-- The mode that a namespace inherits. -/
inductive Inherits (policies : List (Custom PeerAuthenticationSpec))
    (rootNamespace namespaceName : String) : MtlsMode → Prop where
  /-- The namespace has policies that set a mode. -/
  | own {mode : MtlsMode} (h : FirstSetsMode policies namespaceName mode) :
    Inherits policies rootNamespace namespaceName mode
  /-- It has none, but the root namespace does. -/
  | root {mode : MtlsMode} (hown : NoneSetsMode policies namespaceName)
    (h : FirstSetsMode policies rootNamespace mode) :
    Inherits policies rootNamespace namespaceName mode
  /-- Neither of them does. -/
  | neither (hown : NoneSetsMode policies namespaceName)
    (hroot : NoneSetsMode policies rootNamespace) :
    Inherits policies rootNamespace namespaceName .permissive

theorem inheritedMode_eq_iff :
    inheritedMode policies rootNamespace namespaceName = mode ↔
      Inherits policies rootNamespace namespaceName mode := by
  constructor
  · rintro rfl
    rw [inheritedMode]
    rcases hown : namespaceMode? policies namespaceName with _ | mode
    · have hnone := namespaceMode?_eq_none_iff.mp hown
      rcases hroot : namespaceMode? policies rootNamespace with _ | mode
      · exact .neither hnone (namespaceMode?_eq_none_iff.mp hroot)
      · exact .root hnone (namespaceMode?_eq_some_iff.mp hroot)
    · exact .own (namespaceMode?_eq_some_iff.mp hown)
  · intro h
    rw [inheritedMode]
    cases h with
    | own h =>
      rw [namespaceMode?_eq_some_iff.mpr h]
      rfl
    | root hown h =>
      rw [namespaceMode?_eq_none_iff.mpr hown, namespaceMode?_eq_some_iff.mpr h]
      rfl
    | neither hown hroot =>
      rw [namespaceMode?_eq_none_iff.mpr hown, namespaceMode?_eq_none_iff.mpr hroot]
      rfl

/-! ## The order of policies -/

/-- Two policies set different modes of the namespace. -/
def Disputed (policies : List (Custom PeerAuthenticationSpec)) (namespaceName : String) : Prop :=
  ∃ p ∈ policies, ∃ q ∈ policies, ∃ mode other, SetsMode p namespaceName mode ∧
    SetsMode q namespaceName other ∧ mode ≠ other

theorem FirstSetsMode.exists_mem (h : FirstSetsMode policies namespaceName mode) :
    ∃ p ∈ policies, SetsMode p namespaceName mode := by
  obtain ⟨before, p, after, rfl, -, hsets⟩ := h
  exact ⟨p, List.mem_append_right before List.mem_cons_self, hsets⟩

/-- Where nothing is disputed, the first policy that sets a mode is as good as any. -/
theorem namespaceMode?_eq_some_iff_of_not_disputed (h : ¬ Disputed policies namespaceName) :
    namespaceMode? policies namespaceName = some mode ↔
      ∃ p ∈ policies, SetsMode p namespaceName mode := by
  constructor
  · intro hmode
    exact (namespaceMode?_eq_some_iff.mp hmode).exists_mem
  · rintro ⟨p, hp, hsets⟩
    have hne : namespaceMode? policies namespaceName ≠ none := fun hnone ↦
      namespaceMode?_eq_none_iff.mp hnone p hp mode hsets
    obtain ⟨first, hfirst⟩ := Option.ne_none_iff_exists'.mp hne
    obtain ⟨q, hq, hother⟩ := (namespaceMode?_eq_some_iff.mp hfirst).exists_mem
    -- two policies set a mode: they agree, or else the mode is disputed
    by_cases heq : first = mode
    · rw [hfirst, heq]
    · exact absurd ⟨q, hq, p, hp, first, mode, hother, hsets, heq⟩ h

theorem Disputed.perm (hperm : policies.Perm policies') (h : Disputed policies' namespaceName) :
    Disputed policies namespaceName := by
  obtain ⟨p, hp, q, hq, hmodes⟩ := h
  exact ⟨p, hperm.mem_iff.mpr hp, q, hperm.mem_iff.mpr hq, hmodes⟩

theorem namespaceMode?_eq_of_perm (hperm : policies.Perm policies')
    (h : ¬ Disputed policies namespaceName) :
    namespaceMode? policies namespaceName = namespaceMode? policies' namespaceName := by
  refine Option.ext fun mode ↦ ?_
  rw [namespaceMode?_eq_some_iff_of_not_disputed h,
    namespaceMode?_eq_some_iff_of_not_disputed (mt (Disputed.perm hperm) h)]
  simp only [hperm.mem_iff]

theorem inheritedMode_eq_of_perm (hperm : policies.Perm policies')
    (h : ∀ namespaceName, ¬ Disputed policies namespaceName) :
    inheritedMode policies = inheritedMode policies' := by
  funext rootNamespace namespaceName
  rw [inheritedMode, inheritedMode, namespaceMode?_eq_of_perm hperm (h namespaceName),
    namespaceMode?_eq_of_perm hperm (h rootNamespace)]

/-! ## Findings -/

theorem filterMap_eq_map_filter {α β : Type} {f : α → Option β} {reported : α → Bool} {g : α → β}
    (h : ∀ a, f a = if reported a then some (g a) else none) (items : List α) :
    items.filterMap f = (items.filter reported).map g := by
  induction items with
  | nil => rfl
  | cons a items ih =>
    rw [List.filterMap_cons, List.filter_cons, h, ih]
    by_cases ha : reported a = true
    · rw [if_pos ha, if_pos ha, List.map_cons]
    · rw [if_neg ha, if_neg ha]

theorem portFindings_eq (p : Custom PeerAuthenticationSpec) :
    portFindings p = p.spec.disabledPorts.map fun port ↦
      ⟨"mtls", some ("peerauthentication/" ++ p.metadata.fullName),
        "mutual TLS is disabled on port " ++ toString port.toNat⟩ := by
  rw [PeerAuthenticationSpec.disabledPorts, List.map_map]
  refine filterMap_eq_map_filter (fun e ↦ ?_) p.spec.portLevelMtls.entries
  simp only [decide_eq_true_eq]
  rfl

theorem namespaceFindings_eq (namespaces : List Kubernetes.Namespace) (mode : String → MtlsMode) :
    (namespaces.filterMap fun n ↦ n.metadata.name.bind fun name ↦
        namespaceFinding? name (mode name)) =
      ((namespaces.filterMap (·.metadata.name)).filter (mode · ≠ .strict)).map fun name ↦
        ⟨"mtls", some ("namespace/" ++ name),
          "mutual TLS is " ++ (mode name).text ++ " rather than STRICT"⟩ := by
  rw [← List.filterMap_filterMap]
  refine filterMap_eq_map_filter (fun name ↦ ?_) _
  simp only [decide_eq_true_eq, ite_not]
  rfl

theorem findings_perm {context : AuditContext}
    (hperm : context.snapshot.peerAuthentications.Perm policies)
    (h : ∀ namespaceName, ¬ Disputed context.snapshot.peerAuthentications namespaceName) :
    (findings context).Perm (findings (context.withPolicies policies)) := by
  simp only [findings, AuditContext.withPolicies]
  rw [inheritedMode_eq_of_perm hperm h]
  exact (hperm.flatMap_right portFindings).append_left _

/-- **The plaintext that is reported.** First come the namespaces that have a name, in their order,
each with the mode it inherits unless that is the strict one, and then, policy by policy, the ports
on which one disables mutual TLS, in ascending order and whatever else is in the policy. Policies in
another order lead to other findings only if two of them set different modes of a namespace. -/
theorem reports_plaintext (context : AuditContext) :
    let policies := context.snapshot.peerAuthentications
    let mode := inheritedMode policies context.rootNamespace
    auditor.audit context = .ok (
      ((context.snapshot.namespaces.filterMap (·.metadata.name)).filter (mode · ≠ .strict)).map
        (fun name ↦ ⟨"mtls", some ("namespace/" ++ name),
          "mutual TLS is " ++ (mode name).text ++ " rather than STRICT"⟩) ++
      policies.flatMap fun p ↦ p.spec.disabledPorts.map fun port ↦
        ⟨"mtls", some ("peerauthentication/" ++ p.metadata.fullName),
          "mutual TLS is disabled on port " ++ toString port.toNat⟩) ∧
      (∀ name m, mode name = m ↔ Inherits policies context.rootNamespace name m) ∧
      (∀ p : Custom PeerAuthenticationSpec, p.spec.disabledPorts.Pairwise (· < ·) ∧
        ∀ port, port ∈ p.spec.disabledPorts ↔
          p.spec.portLevelMtls.get? port = some ⟨.of .disable⟩) ∧
      ∀ policies', policies.Perm policies' →
        ¬ (findings context).Perm (findings (context.withPolicies policies')) →
        ∃ name, Disputed policies name := by
  refine ⟨?_, fun name m ↦ inheritedMode_eq_iff, fun p ↦ ⟨p.spec.disabledPorts_ascending,
    fun port ↦ PeerAuthenticationSpec.mem_disabledPorts_iff⟩, fun policies' hperm hother ↦ ?_⟩
  · simp only [auditor, findings, namespaceFindings_eq, funext portFindings_eq]
  · by_contra hagreed
    exact hother (findings_perm hperm (not_exists.mp hagreed))

/-- Of two policies that set different modes the first decides. -/
example :
    let policy (mode : MtlsMode) : Custom PeerAuthenticationSpec :=
      ⟨{ namespaceName := some "billing" }, { mtls := some ⟨.of mode⟩ }⟩
    inheritedMode [policy .strict, policy .permissive] "istio-system" "billing" = .strict ∧
      inheritedMode [policy .permissive, policy .strict] "istio-system" "billing" =
        .permissive := by
  decide +kernel

end MutualTlsAudit

end MeshSurvey
