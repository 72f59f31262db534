import MeshSurvey.Proofs.Address.Endpoint
import MeshSurvey.Proofs.Strategy.Confirmation

/-!
# The first pod that answers

A scan of the subnet is three loops, one after another. The sweep looks for kubelets around the
gateway and reports them in any order; each of them is asked for its pods; and each pod of the
control plane is asked at two addresses, until one of them answers. What the loops do is said here
without them, as a sequence of states of the network: kubelets *know in turn* of pods, the pods
before the one that counts are *silent in turn*, and that one is *asked* where the others have left
the network. All facts that the scan finds are then facts of that pod.
-/

namespace MeshSurvey

variable {σ κ : Type}

theorem IPv4.join_text (ip : IPv4) (port : UInt16) :
    HostPort.join ip.text port = (IP.v4 ip).withPort port := by
  have hcolon : ip.text.toList.contains ':' = false := by
    rw [List.contains_eq_mem, decide_eq_false_iff_not]
    intro hmem
    exact absurd (IPv4.isPlain_of_mem_text hmem) (by decide)
  rw [HostPort.join, hcolon]
  rfl

namespace Strategy

variable {net : Network σ κ} {config : DiscoveryConfig} {filter : PodFilter}

/-- A scan probes the kubelet's port of the 254 hosts around the gateway. -/
theorem addresses_kubeletScan (config : DiscoveryConfig) (gateway : IPv4) :
    (kubeletScan config gateway).addresses = (List.range' 1 254).map fun d ↦
      (IP.v4 (gateway.withLast (.ofNat d))).withPort config.kubeletPort := by
  have hhost : (fun host ↦ (kubeletScan config gateway).ports.map (HostPort.join host)) =
      fun host ↦ [HostPort.join host config.kubeletPort] := rfl
  rw [ScanJob.addresses, hhost, ← List.map_eq_flatMap, kubeletScan, IPv4.neighbours,
    List.range'_eq_map_range, List.map_map, List.map_map, List.map_map]
  refine List.map_congr_left fun i _ ↦ ?_
  simp only [Function.comp_apply, IPv4.join_text, Nat.add_comm 1 i]

/-! ## Kubelets in turn -/

/-- Kubelets are asked in turn for the pods of the control plane that they know of. The network goes
from the first state to the second. -/
inductive KnowInTurn (net : Network σ κ) (config : DiscoveryConfig) (filter : PodFilter) :
    List String → σ → List ControlPlanePod → σ → Prop where
  /-- There is no kubelet to ask. -/
  | nil (n : σ) : KnowInTurn net config filter [] n [] n
  /-- A kubelet that is not well knows of none. -/
  | unwell {address : String} {addresses : List String} {pods : List ControlPlanePod}
    {n n₁ n₂ : σ} {e : Failure}
    (hconnect : (Kubelet.connect net address config.probeTimeout).run.run n = (.error e, n₁))
    (htail : KnowInTurn net config filter addresses n₁ pods n₂) :
    KnowInTurn net config filter (address :: addresses) n pods n₂
  /-- A kubelet that does not list its pods knows of none. -/
  | unlisted {address : String} {addresses : List String} {pods : List ControlPlanePod}
    {n n₁ n₂ n₃ : σ} {kubelet : Kubelet} {e : Failure}
    (hconnect : (Kubelet.connect net address config.probeTimeout).run.run n = (.ok kubelet, n₁))
    (hpods : (kubelet.pods net).run.run n₁ = (.error e, n₂))
    (htail : KnowInTurn net config filter addresses n₂ pods n₃) :
    KnowInTurn net config filter (address :: addresses) n pods n₃
  /-- A kubelet knows of the pods that the filter selects from its list. -/
  | listed {address : String} {addresses : List String} {pods : List ControlPlanePod}
    {n n₁ n₂ n₃ : σ} {kubelet : Kubelet} {list : List Kubernetes.Pod}
    (hconnect : (Kubelet.connect net address config.probeTimeout).run.run n = (.ok kubelet, n₁))
    (hpods : (kubelet.pods net).run.run n₁ = (.ok list, n₂))
    (htail : KnowInTurn net config filter addresses n₂ pods n₃) :
    KnowInTurn net config filter (address :: addresses) n (filter.select list ++ pods) n₃

theorem KnowInTurn.addresses_ne_nil {addresses : List String} {pods : List ControlPlanePod}
    {n n' : σ} (h : KnowInTurn net config filter addresses n pods n') (hpods : pods ≠ []) :
    addresses ≠ [] := by
  rintro rfl
  cases h
  exact hpods rfl

theorem run_candidates_cons {address : String} {addresses : List String}
    {r : Except Failure (List ControlPlanePod)} {pods : List ControlPlanePod} {n n₁ n₂ : σ}
    (hhead : (podsOf net config filter address).run.run n = (r, n₁))
    (htail : (candidates net config filter addresses).run.run n₁ = (.ok pods, n₂)) :
    (candidates net config filter (address :: addresses)).run.run n =
      (.ok (r.toOption.getD [] ++ pods), n₂) := by
  rw [candidates]
  simp only [Action.run_bind, Action.run_attempt, hhead, htail]
  rfl

/-- However kubelets fail, the pods of the others are gathered. -/
theorem exists_knowInTurn (net : Network σ κ) (config : DiscoveryConfig) (filter : PodFilter)
    (addresses : List String) (n : σ) :
    ∃ pods n', KnowInTurn net config filter addresses n pods n' ∧
      (candidates net config filter addresses).run.run n = (.ok pods, n') := by
  induction addresses generalizing n with
  | nil => exact ⟨[], n, .nil n, rfl⟩
  | cons address addresses ih =>
    -- a kubelet is passed over if either of its two requests fails
    rcases hconnect : (Kubelet.connect net address config.probeTimeout).run.run n with
      ⟨e | kubelet, n₁⟩
    · have hhead : (podsOf net config filter address).run.run n = (.error e, n₁) := by
        rw [podsOf, Action.run_bind, hconnect]
      obtain ⟨pods, n', hturn, hrun⟩ := ih n₁
      exact ⟨pods, n', .unwell hconnect hturn, run_candidates_cons hhead hrun⟩
    have hhead : (podsOf net config filter address).run.run n =
        (do return filter.select (← kubelet.pods net) : Action σ _).run.run n₁ := by
      rw [podsOf, Action.run_bind, hconnect]
    rcases hpods : (kubelet.pods net).run.run n₁ with ⟨e | list, n₂⟩
    · rw [Action.run_bind, hpods] at hhead
      obtain ⟨pods, n', hturn, hrun⟩ := ih n₂
      exact ⟨pods, n', .unlisted hconnect hpods hturn, run_candidates_cons hhead hrun⟩
    · rw [Action.run_bind, hpods] at hhead
      obtain ⟨pods, n', hturn, hrun⟩ := ih n₂
      exact ⟨filter.select list ++ pods, n', .listed hconnect hpods hturn,
        run_candidates_cons hhead hrun⟩

/-! ## A pod that is asked -/

/-- Whether a pod has a debug endpoint that answers, and at which address. -/
inductive DebugAsked (net : Network σ κ) (config : DiscoveryConfig) (pod : ControlPlanePod) :
    σ → Option String → σ → Prop where
  /-- It has no debug endpoint. -/
  | absent (n : σ) (haddress : pod.debugAddress = none) : DebugAsked net config pod n none n
  /-- Its debug endpoint does not answer. -/
  | silent {n n' : σ} {address : String} {e : Failure} (haddress : pod.debugAddress = some address)
    (hconnect : (DebugEndpoint.connect net address config.probeTimeout).run.run n =
      (.error e, n')) : DebugAsked net config pod n none n'
  /-- Its debug endpoint answers. -/
  | answering {n n' : σ} {address : String} {endpoint : DebugEndpoint}
    (haddress : pod.debugAddress = some address)
    (hconnect : (DebugEndpoint.connect net address config.probeTimeout).run.run n =
      (.ok endpoint, n')) : DebugAsked net config pod n (some address) n'

/-- A pod is asked for the version at its discovery address, on the configured port if it has none
of its own, and its debug endpoint is asked after that. -/
inductive Asked (net : Network σ κ) (config : DiscoveryConfig) (pod : ControlPlanePod) :
    σ → Except Failure String → Option String → σ → Prop where
  | intro {n n₁ n₂ : σ} {version : Except Failure String} {debug : Option String}
    (hversion : (Client.confirm net (pod.ip.withPort (pod.discovery.getD config.discoveryPort))
      config.plainClient).run.run n = (version, n₁))
    (hdebug : DebugAsked net config pod n₁ debug n₂) : Asked net config pod n version debug n₂

theorem exists_debugAsked (net : Network σ κ) (config : DiscoveryConfig) (pod : ControlPlanePod)
    (n : σ) :
    ∃ debug n', DebugAsked net config pod n debug n' ∧
      (answeringDebugAddress net config pod).run.run n = (.ok debug, n') := by
  rw [answeringDebugAddress]
  cases haddress : pod.debugAddress with
  | none => exact ⟨none, n, .absent n haddress, rfl⟩
  | some address =>
    simp only [debugAnswers, Action.run_bind, Action.run_attempt]
    rcases hconnect : (DebugEndpoint.connect net address config.probeTimeout).run.run n with
      ⟨e | endpoint, n'⟩
    · exact ⟨none, n', .silent haddress hconnect, rfl⟩
    · exact ⟨some address, n', .answering haddress hconnect, rfl⟩

theorem exists_asked (net : Network σ κ) (config : DiscoveryConfig) (pod : ControlPlanePod)
    (n : σ) :
    ∃ version debug n', Asked net config pod n version debug n' ∧
      (probePod net config pod).run.run n =
        (probeOutcome (pod.ip.withPort (pod.discovery.getD config.discoveryPort)) version debug,
          n') := by
  rcases hversion : (Client.confirm net (pod.ip.withPort (pod.discovery.getD config.discoveryPort))
    config.plainClient).run.run n with ⟨version, n₁⟩
  obtain ⟨debug, n₂, hdebug, hrun⟩ := exists_debugAsked net config pod n₁
  refine ⟨version, debug, n₂, .intro hversion hdebug, ?_⟩
  rw [probePod_eq]
  simp only [Action.run_bind, Action.run_attempt, Action.run_ofExcept, hversion, hrun]

/-- The debug address that answers is an address of the pod. -/
theorem Asked.debug_eq {pod : ControlPlanePod} {version : Except Failure String} {n n' : σ}
    {address : String} (h : Asked net config pod n version (some address) n') :
    ∃ port, address = pod.ip.withPort port := by
  obtain ⟨-, hdebug⟩ := h
  cases hdebug with
  | answering haddress _ =>
    obtain ⟨port, -, rfl⟩ := Option.map_eq_some_iff.mp haddress
    exact ⟨port, rfl⟩

/-- A pod answers at one of its addresses, or else the failure is that of the discovery address. -/
theorem probeOutcome_cases (discovery : String) (version : Except Failure String)
    (debug : Option String) :
    ((version.toOption.isSome = true ∨ debug.isSome = true) ∧
        probeOutcome discovery version debug = .ok {
          discoveryAddress := version.toOption.map fun _ ↦ discovery
          debugAddress := debug
          version := version.toOption }) ∨
      ∃ e, version = .error e ∧ debug = none ∧ probeOutcome discovery version debug = .error e := by
  rcases version with e | version
  · cases debug with
    | none => exact .inr ⟨e, rfl, rfl, rfl⟩
    | some address => exact .inl ⟨.inr rfl, rfl⟩
  · exact .inl ⟨.inl rfl, rfl⟩

/-! ## Pods in turn -/

/-- Pods are asked in turn and none of them answers. Their failures are those of their discovery
addresses. -/
inductive SilentInTurn (net : Network σ κ) (config : DiscoveryConfig) :
    List ControlPlanePod → σ → List Failure → σ → Prop where
  /-- There is no pod to ask. -/
  | nil (n : σ) : SilentInTurn net config [] n [] n
  /-- The first one does not answer, and then the others do not in the network that it leaves. -/
  | cons {pod : ControlPlanePod} {pods : List ControlPlanePod} {n n₁ n₂ : σ} {e : Failure}
    {failures : List Failure} (hhead : Asked net config pod n (.error e) none n₁)
    (htail : SilentInTurn net config pods n₁ failures n₂) :
    SilentInTurn net config (pod :: pods) n (e :: failures) n₂

/-- A pod that fails leaves it to the others to answer. -/
theorem run_firstAnswer_cons (net : Network σ κ) (config : DiscoveryConfig) (pod : ControlPlanePod)
    (pods : List ControlPlanePod) (last : Option Failure) (n : σ) :
    (firstAnswer net config (pod :: pods) last).run.run n =
      match (probePod net config pod).run.run n with
      | (.ok update, n') => (.ok update, n')
      | (.error e, n') => (firstAnswer net config pods (some e)).run.run n' := by
  rw [firstAnswer, Action.run_bind, Action.run_attempt]
  rcases (probePod net config pod).run.run n with ⟨e | update, n'⟩
  · rfl
  · rfl

/-- Either some pod is the first to answer, and what it says is taken, or none does, and the last
failure is that of all. -/
theorem exists_run_firstAnswer (net : Network σ κ) (config : DiscoveryConfig)
    (pods : List ControlPlanePod) (last : Option Failure) (n : σ) :
    (∃ before pod after failures n₁ version debug n', pods = before ++ pod :: after ∧
        SilentInTurn net config before n failures n₁ ∧ Asked net config pod n₁ version debug n' ∧
        (version.toOption.isSome = true ∨ debug.isSome = true) ∧
        (firstAnswer net config pods last).run.run n = (.ok {
          discoveryAddress := version.toOption.map fun _ ↦
            pod.ip.withPort (pod.discovery.getD config.discoveryPort)
          debugAddress := debug
          version := version.toOption }, n')) ∨
      ∃ failures n', SilentInTurn net config pods n failures n' ∧
        (firstAnswer net config pods last).run.run n =
          ((failures.getLast?.or last).elim (.ok {}) .error, n') := by
  induction pods generalizing n last with
  | nil =>
    refine .inr ⟨[], n, .nil n, ?_⟩
    cases last with
    | none => rfl
    | some last => rfl
  | cons pod pods ih =>
    obtain ⟨version, debug, n₁, hasked, hprobe⟩ := exists_asked net config pod n
    have hcons := run_firstAnswer_cons net config pod pods last n
    rw [hprobe] at hcons
    rcases probeOutcome_cases (pod.ip.withPort (pod.discovery.getD config.discoveryPort)) version
      debug with ⟨hanswers, houtcome⟩ | ⟨e, rfl, rfl, houtcome⟩
    · rw [houtcome] at hcons
      exact .inl ⟨[], pod, pods, [], n, version, debug, n₁, rfl, .nil n, hasked, hanswers, hcons⟩
    rw [houtcome] at hcons
    -- the failure of this pod is the last one so far
    rcases ih (some e) n₁ with ⟨before, pod', after, failures, n₂, version, debug, n', rfl, hsilent,
      hasked', hanswers, hrun⟩ | ⟨failures, n', hsilent, hrun⟩
    · exact .inl ⟨pod :: before, pod', after, e :: failures, n₂, version, debug, n', rfl,
        .cons hasked hsilent, hasked', hanswers, hcons.trans hrun⟩
    · refine .inr ⟨e :: failures, n', .cons hasked hsilent, hcons.trans (hrun.trans ?_)⟩
      rw [List.getLast?_cons]
      cases failures.getLast? with
      | none => rfl
      | some last => rfl

/-! ## The scan -/

theorem verifySubnet_eq_ok {ip : IP} {port : UInt16} {version debug : Option String}
    {kubelets : List String} (hkubelets : kubelets ≠ [])
    (hdebug : ∀ address, debug = some address → ∃ port, address = ip.withPort port)
    (hanswers : version.isSome = true ∨ debug.isSome = true) :
    verifySubnet {
      discoveryAddress := version.map fun _ ↦ ip.withPort port
      debugAddress := debug, kubelets, version } = .ok () := by
  -- whatever its port, an address of the pod can be read
  have hread : ∀ port, verifyAddress (some (ip.withPort port)) = .ok () := by
    intro port
    exact verifyAddress_eq_ok_iff.mpr (ip.read_withPort_isSome port)
  have hkubelets' : ¬ kubelets.isEmpty = true := by rwa [List.isEmpty_iff]
  rw [verifySubnet, if_neg hkubelets']
  cases version with
  | some version => exact hread port
  | none =>
    cases debug with
    | some address =>
      obtain ⟨port, rfl⟩ := hdebug address rfl
      exact hread port
    | none => simp at hanswers

theorem verifySubnet_ne_ok (kubelets : List String) : verifySubnet { kubelets } ≠ .ok () := by
  rw [verifySubnet]
  split
  · exact nofun
  · exact nofun

theorem run_subnetScan {table : String} {gateway : IPv4}
    (hgateway : RouteTable.defaultGateway table = some gateway) (known : DiscoveryState)
    {kubelets : List String} {pods : List ControlPlanePod} {n n₁ n₂ n₃ : σ}
    {r : Except Failure DiscoveryUpdate}
    (hscan : ((kubeletScan config gateway).run net).run n = (kubelets, n₁))
    (hpods : (candidates net config filter kubelets).run.run n₁ = (.ok pods, n₂))
    (hfirst : (firstAnswer net config pods none).run.run n₂ = (r, n₃)) :
    ((subnetScan net config filter (.ok table)).run known).run.run n =
      (r.map ({ · with kubelets }), n₃) := by
  have htable : (Except.ok table : Except String String).mapError Failure.io = .ok table := rfl
  simp only [subnetScan, htable, Action.run_bind, Action.run_ofExcept, hgateway, Action.run_liftM,
    hscan, hpods, hfirst]
  rcases r with e | update
  · rfl
  · rfl

/-- The three loops run one after another, and only the first of them probes. -/
theorem exists_run_subnetScan (net : Network σ κ) (config : DiscoveryConfig) (filter : PodFilter)
    {table : String} {gateway : IPv4} (hgateway : RouteTable.defaultGateway table = some gateway)
    (known : DiscoveryState) (n : σ) :
    ∃ kubelets n₁ pods n₂ r n₃ record,
      ((kubeletScan config gateway).run net).run n = (kubelets, n₁) ∧
      KnowInTurn net config filter kubelets n₁ pods n₂ ∧
      (firstAnswer net config pods none).run.run n₂ = (r, n₃) ∧
      ((subnetScan net config filter (.ok table)).run known).run.run n =
        (r.map ({ · with kubelets }), n₃) ∧
      ((subnetScan net.recorded config filter (.ok table)).run known).run.run (n, []) =
        (r.map ({ · with kubelets }), (n₃, record)) ∧
      ((Traffic.probes record).map (·.1)).Perm
        ((kubeletScan config gateway).addresses.map (.tcp, ·)) ∧
      kubelets.Perm (((Traffic.probes record).filter (·.2)).map (·.1.2)) := by
  obtain ⟨kubelets, n₁, sweep, hsweep, hprobed, hopen⟩ :=
    (kubeletScan config gateway).exists_sweep net n []
  have hscan := ((kubeletScan config gateway).mirrors_run net).run_eq hsweep
  obtain ⟨pods, n₂, hturn, hpods⟩ := exists_knowInTurn net config filter kubelets n₁
  rcases hfirst : (firstAnswer net config pods none).run.run n₂ with ⟨r, n₃⟩
  obtain ⟨listing, hlisting, hpods'⟩ := mirrors_candidates net config filter kubelets n₁ sweep
  obtain ⟨asking, hasking, hfirst'⟩ := mirrors_firstAnswer net config pods none n₂ (sweep ++ listing)
  rw [hpods] at hpods'
  rw [hfirst] at hfirst'
  -- the record is that of the three loops
  have hprobes : Traffic.probes (sweep ++ listing ++ asking) = Traffic.probes sweep := by
    have hnone := (hlisting.mono fun _ ↦ Traffic.IsRequest.isNoProbe).probes_eq_nil
    rw [Traffic.probes_append, Traffic.probes_append, hnone, hasking.probes_eq_nil,
      List.append_nil, List.append_nil]
  refine ⟨kubelets, n₁, pods, n₂, r, n₃, sweep ++ listing ++ asking, hscan, hturn, hfirst,
    run_subnetScan hgateway known hscan hpods hfirst,
    run_subnetScan hgateway known hsweep hpods' hfirst', ?_, ?_⟩
  · rw [hprobes]
    exact hprobed
  · rwa [hprobes]

/-- **A scan of the subnet keeps to the first pod that answers.** Around the default gateway it
probes the kubelet's port of 254 hosts, and nothing else ever. The kubelets that it reports are
those that were found open, in the order in which the sweep has reported them. In this order they
know in turn of pods. If a pod answers, be it at its discovery address or at its debug address, then
those before it are silent in turn, those behind it are not asked, and the update is usable: its
addresses are those at which this pod has answered, with the version that it has told. If there are
pods and all are silent in turn, the failure is the last of theirs. Without pods the scan finds the
kubelets alone, and that is not usable. -/
theorem subnetScan_keeps_first_answer (net : Network σ κ) (config : DiscoveryConfig)
    (filter : PodFilter) (table : String) (gateway : IPv4)
    (hgateway : RouteTable.defaultGateway table = some gateway) (known : DiscoveryState) (n : σ) :
    ∃ kubelets pods result n₁ n₂ n₃ record,
      ((subnetScan net config filter (.ok table)).run known).run.run n = (result, n₃) ∧
      ((subnetScan net.recorded config filter (.ok table)).run known).run.run (n, []) =
        (result, (n₃, record)) ∧
      ((Traffic.probes record).map (·.1)).Perm ((List.range' 1 254).map fun d ↦
        (.tcp, (IP.v4 (gateway.withLast (.ofNat d))).withPort config.kubeletPort)) ∧
      kubelets.Perm (((Traffic.probes record).filter (·.2)).map (·.1.2)) ∧
      ((kubeletScan config gateway).run net).run n = (kubelets, n₁) ∧
      KnowInTurn net config filter kubelets n₁ pods n₂ ∧
      ((∃ before pod after failures n' version debug, pods = before ++ pod :: after ∧
          SilentInTurn net config before n₂ failures n' ∧
          Asked net config pod n' version debug n₃ ∧
          (version.toOption.isSome = true ∨ debug.isSome = true) ∧
          ∃ update, result = .ok update ∧ verifySubnet update = .ok () ∧ update = {
            discoveryAddress := version.toOption.map fun _ ↦
              pod.ip.withPort (pod.discovery.getD config.discoveryPort)
            debugAddress := debug
            kubelets
            version := version.toOption }) ∨
        (∃ failures last, SilentInTurn net config pods n₂ (failures ++ [last]) n₃ ∧
          result = .error last) ∨
        (pods = [] ∧ n₃ = n₂ ∧ result = .ok { kubelets } ∧
          verifySubnet { kubelets } ≠ .ok ())) := by
  obtain ⟨kubelets, n₁, pods, n₂, r, n₃, record, hscan, hturn, hfirst, hrun, hrecord, hprobed,
    hopen⟩ := exists_run_subnetScan net config filter hgateway known n
  rw [addresses_kubeletScan, List.map_map] at hprobed
  refine ⟨kubelets, pods, _, n₁, n₂, n₃, record, hrun, hrecord, hprobed, hopen, hscan, hturn, ?_⟩
  rcases exists_run_firstAnswer net config pods none n₂ with
    ⟨before, pod, after, failures, n', version, debug, _, rfl, hsilent, hasked, hanswers, hanswer⟩ |
    ⟨failures, _, hsilent, hanswer⟩
  · cases hfirst.symm.trans hanswer
    have hkubelets := hturn.addresses_ne_nil (List.append_ne_nil_of_right_ne_nil _ nofun)
    refine .inl ⟨before, pod, after, failures, n', version, debug, rfl, hsilent, hasked, hanswers,
      _, rfl, verifySubnet_eq_ok hkubelets ?_ hanswers, rfl⟩
    rintro address rfl
    exact hasked.debug_eq
  · cases hfirst.symm.trans hanswer
    rcases List.eq_nil_or_concat failures with rfl | ⟨failures, last, rfl⟩
    · cases hsilent
      exact .inr (.inr ⟨rfl, rfl, rfl, verifySubnet_ne_ok kubelets⟩)
    · rw [List.concat_eq_append] at hsilent
      refine .inr (.inl ⟨failures, last, hsilent, ?_⟩)
      rw [List.concat_eq_append, List.getLast?_concat]
      rfl

/-- A network with two kubelets, which are the addresses that are probed first. Each of them knows of
one pod of the control plane. No connection comes about, but HTTP requests are answered, and only
the first pod has no debug endpoint. -/
def twoKubeletNetwork : Network Nat Unit where
  dial _ _ := pure [.finished .handshakeFailed, .checked]
  send _ _ _ := pure .silence
  openStream _ _ := pure .silence
  receive _ _ := pure .silence
  http _ url _ := pure (
    if url = "http://10.0.0.7:15014/debug/configz" then none
    else
      let ip := if url = "http://10.0.0.1:10255/pods" then "10.0.0.7" else "10.0.0.8"
      let pod : Json := .object [
        ("metadata", .object [("labels", .object [("app", .string "istiod")])]),
        ("status", .object [("phase", .string "Running"), ("podIP", .string ip)])]
      some ⟨200, Wire.Codec.bytesOfText (Json.object [("items", .array [pod])]).text⟩)
  probe _ _ _ := fun probed ↦ (decide (probed < 2), probed + 1)
  choose turns := pure (turns - 1)

/-- Of two pods the second one answers, and only at its debug address. -/
theorem subnetScan_keeps_first_answer_debug :
    RouteTable.defaultGateway routeTable = some ⟨10, 0, 0, 1⟩ ∧
      ∃ before pod after n₂ n' n₃ failures e,
        (subnetScan twoKubeletNetwork {} { debug := .number 15014 } (.ok routeTable)).Finds {} 0
          { debugAddress := some "10.0.0.8:15014"
            kubelets := ["10.0.0.1:10255", "10.0.0.2:10255"] } n₃ ∧
        KnowInTurn twoKubeletNetwork {} { debug := .number 15014 }
          ["10.0.0.1:10255", "10.0.0.2:10255"] 254 (before ++ pod :: after) n₂ ∧
        SilentInTurn twoKubeletNetwork {} before n₂ failures n' ∧
        Asked twoKubeletNetwork {} pod n' (.error e) (some "10.0.0.8:15014") n₃ := by
  have hgateway : RouteTable.defaultGateway routeTable = some ⟨10, 0, 0, 1⟩ := by decide +kernel
  refine ⟨hgateway, ?_⟩
  have hfound : (((subnetScan twoKubeletNetwork {} { debug := .number 15014 } (.ok routeTable)).run
      {}).run.run 0).1.toOption = some {
        debugAddress := some "10.0.0.8:15014"
        kubelets := ["10.0.0.1:10255", "10.0.0.2:10255"] } := by
    decide +kernel
  have hsweep : (((kubeletScan {} ⟨10, 0, 0, 1⟩).run twoKubeletNetwork).run 0).2 = 254 := by
    decide +kernel
  obtain ⟨kubelets, pods, result, n₁, n₂, n₃, record, hrun, -, -, -, hscan, hturn, hcases⟩ :=
    subnetScan_keeps_first_answer twoKubeletNetwork {} { debug := .number 15014 } routeTable _
      hgateway {} 0
  rw [hrun] at hfound
  rw [hscan] at hsweep
  obtain rfl : n₁ = 254 := hsweep
  rcases hcases with ⟨before, pod, after, failures, n', version, debug, rfl, hsilent, hasked, -,
    update, rfl, hverify, rfl⟩ | ⟨failures, last, -, rfl⟩ | ⟨-, -, rfl, -⟩
  · rcases version with e | version
    · obtain ⟨-, -, rfl, rfl, -⟩ := DiscoveryUpdate.mk.inj (Option.some.inj hfound)
      exact ⟨before, pod, after, n₂, n', n₃, failures, e, ⟨hrun, hverify⟩, hturn, hsilent, hasked⟩
    · cases hfound
  · cases hfound
  · cases hfound

end Strategy

end MeshSurvey
