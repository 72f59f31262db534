import MeshSurvey.Json.Writer
import MeshSurvey.Proofs.Address.Port
import MeshSurvey.Proofs.Retrieval.Connection
import MeshSurvey.Proofs.Strategy.FirstSuccess
import MeshSurvey.Proofs.Strategy.Mirrored

/-!
# Confirmed addresses

Two strategies find a discovery address by asking for the version there. Later a snapshot is to be
taken at the same address, and what is left of the confirmation by then is the address itself. The
strategies and the retrieval decide by rules of their own whether to use TLS. For addresses under
the well-known name the rules agree. A scan never uses TLS, so that a service without TLS on the
port for TLS is confirmed by it, and is then asked over TLS all the same.
-/

namespace MeshSurvey

variable {σ κ : Type}

/-! ## The confirming connection -/

namespace Client

/-- Between the two records the version was asked for at the address, over a connection to the
endpoint, and no connection has been set up after that. -/
inductive ConfirmedOver (net : Network σ κ) (address : String) (config : ClientConfig)
    (version : String) (endpoint : Endpoint) (record : List (Traffic κ)) :
    List (Traffic κ) → Prop where
  | intro {n n' : σ} {before exchange after : List (Traffic κ)} (hbefore : record <+: before)
    (hrun : (confirm net.recorded address config).run.run (n, before) =
      (.ok version, (n', before ++ exchange)))
    (hdials : Traffic.dials exchange = [endpoint]) (hafter : Traffic.All Traffic.IsNoDial after) :
    ConfirmedOver net address config version endpoint record (before ++ exchange ++ after)

namespace ConfirmedOver

variable {net : Network σ κ} {address version : String} {config : ClientConfig}
  {endpoint : Endpoint} {record₁ record₂ record₃ : List (Traffic κ)}

theorem of_isPrefix (h : ConfirmedOver net address config version endpoint record₂ record₃)
    (hle : record₁ <+: record₂) :
    ConfirmedOver net address config version endpoint record₁ record₃ := by
  obtain ⟨hbefore, hrun, hdials, hafter⟩ := h
  exact .intro (hle.trans hbefore) hrun hdials hafter

theorem append (h : ConfirmedOver net address config version endpoint record₁ record₂)
    {more : List (Traffic κ)} (hmore : Traffic.All Traffic.IsNoDial more) :
    ConfirmedOver net address config version endpoint record₁ (record₂ ++ more) := by
  obtain ⟨hbefore, hrun, hdials, hafter⟩ := h
  rw [List.append_assoc _ _ more]
  exact .intro hbefore hrun hdials (Mirrors.forall_mem_append hafter hmore)

theorem endpoint_eq (h : ConfirmedOver net address config version endpoint record₁ record₂) :
    config.dialTimeout.isZero = false ∧ Network.endpoint address config.tls = .ok endpoint := by
  obtain ⟨-, hrun, hdials, -⟩ := h
  obtain ⟨htimeout, endpoint', hendpoint⟩ := exists_endpoint_of_confirm hrun
  obtain ⟨more, hmore, happend⟩ := (mirrors_confirm_dials net address htimeout).exists_append hrun
  obtain rfl := List.append_cancel_left happend
  rw [hdials, hendpoint] at hmore
  exact ⟨htimeout, (List.cons.inj hmore).1 ▸ hendpoint⟩

end ConfirmedOver

/-- A snapshot at the address goes the same way, if it decides for TLS as the confirmation did. -/
theorem ConfirmedOver.connectsTo {net : Network σ κ} {address version : String}
    {config : DiscoveryConfig} {client : ClientConfig} {endpoint : Endpoint}
    {record record' : List (Traffic κ)}
    (h : ConfirmedOver net address client version endpoint record record')
    (htimeout : client.dialTimeout = config.dialTimeout)
    (htls : (config.clientForAddress address).tls = client.tls) :
    Snapshot.ConnectsTo net config address [endpoint] := by
  obtain ⟨hnonzero, hendpoint⟩ := h.endpoint_eq
  rw [htimeout] at hnonzero
  rw [← htls] at hendpoint
  exact Snapshot.connectsTo_of_endpoint_eq net hnonzero hendpoint

theorem exists_confirmedOver {net : Network σ κ} {address version : String} {config : ClientConfig}
    {n n' : σ} {record record' : List (Traffic κ)}
    (h : (confirm net.recorded address config).run.run (n, record) =
      (.ok version, (n', record'))) :
    ∃ endpoint, ConfirmedOver net address config version endpoint record record' := by
  obtain ⟨htimeout, endpoint, hendpoint⟩ := exists_endpoint_of_confirm h
  obtain ⟨more, hmore, rfl⟩ := (mirrors_confirm_dials net address htimeout).exists_append h
  rw [hendpoint] at hmore
  refine ⟨endpoint, ?_⟩
  rw [← List.append_nil (record ++ more)]
  exact .intro List.prefix_rfl h hmore (List.forall_mem_nil _)

end Client

namespace Strategy

open Client (ConfirmedOver)

/-! ## The well-known name -/

/-- The first port that answers is the one that is kept. The debug endpoint is not asked. -/
theorem confirmedOver_of_run_askPorts {net : Network σ κ} {config : DiscoveryConfig} {host : String}
    {ports : List UInt16} {last : Failure} {n n' : σ} {record record' : List (Traffic κ)}
    {update : DiscoveryUpdate}
    (h : (askPorts net.recorded config host ports last).run.run (n, record) =
      (.ok update, (n', record'))) :
    ∃ port version endpoint,
      update = {
        discoveryAddress := some (HostPort.join host port)
        debugAddress := some (HostPort.join host config.debugPort)
        version := some version } ∧
      ConfirmedOver net (HostPort.join host port) (clientForPort config port) version endpoint
        record record' := by
  induction ports generalizing n record last with
  | nil => cases h
  | cons port ports ih =>
    rw [askPorts, Action.run_bind] at h
    simp only [Action.run_attempt] at h
    rcases hconfirm : (Client.confirm net.recorded (HostPort.join host port)
      (clientForPort config port)).run.run (n, record) with ⟨e | version, n₁, record₁⟩
    · -- a port that fails only adds to the record
      rw [hconfirm] at h
      obtain ⟨port, version, endpoint, hupdate, hover⟩ := ih h
      obtain ⟨more, -, rfl⟩ := (Client.mirrors_confirm net _ _).exists_append hconfirm
      exact ⟨port, version, endpoint, hupdate,
        hover.of_isPrefix (List.prefix_append record more)⟩
    · rw [hconfirm] at h
      obtain ⟨endpoint, hover⟩ := Client.exists_confirmedOver hconfirm
      cases h
      exact ⟨port, version, endpoint, rfl, hover⟩

theorem exists_run_askPorts_of_finds {net : Network σ κ} {config : DiscoveryConfig}
    {known : DiscoveryState} {n n' : σ} {update : DiscoveryUpdate}
    (h : (wellKnownName net config).Finds known n update n') :
    ∃ host, (askPorts net config host config.discoveryPorts .noControlPlane).run.run n =
      (.ok update, n') := by
  obtain ⟨hrun, -⟩ := h
  simp only [wellKnownName] at hrun
  split at hrun
  · cases hrun
  next namespaceName _ => exact ⟨_, hrun⟩

theorem confirmedOver_of_finds_wellKnownName {net : Network σ κ} {config : DiscoveryConfig}
    {known : DiscoveryState} {n n' : σ} {record record' : List (Traffic κ)}
    {update : DiscoveryUpdate}
    (h : (wellKnownName net.recorded config).Finds known (n, record) update (n', record')) :
    ∃ host port version endpoint, update.discoveryAddress = some (HostPort.join host port) ∧
      update.version = some version ∧
      ConfirmedOver net (HostPort.join host port) (clientForPort config port) version endpoint
        record record' := by
  obtain ⟨host, hrun⟩ := exists_run_askPorts_of_finds h
  obtain ⟨port, version, endpoint, rfl, hover⟩ := confirmedOver_of_run_askPorts hrun
  exact ⟨host, port, version, endpoint, rfl, rfl, hover⟩

/-! ## The scan of the subnet -/

theorem confirmedOver_of_run_probePod {net : Network σ κ} {config : DiscoveryConfig}
    {pod : ControlPlanePod} {n n' : σ} {record record' : List (Traffic κ)}
    {update : DiscoveryUpdate} {address : String}
    (h : (probePod net.recorded config pod).run.run (n, record) = (.ok update, (n', record')))
    (haddress : update.discoveryAddress = some address) :
    address = pod.ip.withPort (pod.discovery.getD config.discoveryPort) ∧
      ∃ version endpoint, update.version = some version ∧
        ConfirmedOver net address config.plainClient version endpoint record record' := by
  rw [probePod_eq, Action.run_bind] at h
  simp only [Action.run_attempt] at h
  rcases hconfirm : (Client.confirm net.recorded
    (pod.ip.withPort (pod.discovery.getD config.discoveryPort)) config.plainClient).run.run
      (n, record) with ⟨version, n₁, record₁⟩
  rw [hconfirm, Action.run_bind] at h
  rcases hdebug : (answeringDebugAddress net.recorded config pod).run.run (n₁, record₁) with
    ⟨e | debug, n₂, record₂⟩
  · rw [hdebug] at h
    cases h
  rw [hdebug] at h
  simp only [Action.run_ofExcept] at h
  obtain ⟨more, hmore, rfl⟩ := (mirrors_answeringDebugAddress net config pod).exists_append hdebug
  cases version with
  | error e =>
    -- then there is no discovery address
    cases debug <;> cases h
    cases haddress
  | ok version =>
    obtain ⟨endpoint, hover⟩ := Client.exists_confirmedOver hconfirm
    cases h
    obtain rfl := Option.some.inj haddress
    have hrequests := hmore.mono fun _ ↦ Traffic.IsRequest.isNoDial
    exact ⟨rfl, version, endpoint, rfl, hover.append hrequests⟩

theorem confirmedOver_of_run_firstAnswer {net : Network σ κ} {config : DiscoveryConfig}
    {pods : List ControlPlanePod} {last : Option Failure} {n n' : σ}
    {record record' : List (Traffic κ)} {update : DiscoveryUpdate} {address : String}
    (h : (firstAnswer net.recorded config pods last).run.run (n, record) =
      (.ok update, (n', record')))
    (haddress : update.discoveryAddress = some address) :
    ∃ (ip : IP) (port : UInt16) (version : String) (endpoint : Endpoint),
      address = ip.withPort port ∧ update.version = some version ∧
      ConfirmedOver net address config.plainClient version endpoint record record' := by
  induction pods generalizing n record last with
  | nil =>
    cases last with
    | none =>
      cases h
      cases haddress
    | some last => cases h
  | cons pod pods ih =>
    rw [firstAnswer, Action.run_bind] at h
    simp only [Action.run_attempt] at h
    rcases hprobe : (probePod net.recorded config pod).run.run (n, record) with
      ⟨e | found, n₁, record₁⟩
    · rw [hprobe] at h
      -- a pod that fails only adds to the record
      obtain ⟨ip, port, version, endpoint, hip, hversion, hover⟩ := ih h
      obtain ⟨more, -, rfl⟩ := (mirrors_probePod net config pod).exists_append hprobe
      exact ⟨ip, port, version, endpoint, hip, hversion,
        hover.of_isPrefix (List.prefix_append record more)⟩
    · rw [hprobe] at h
      cases h
      obtain ⟨hip, version, endpoint, hversion, hover⟩ :=
        confirmedOver_of_run_probePod hprobe haddress
      exact ⟨pod.ip, _, version, endpoint, hip, hversion, hover⟩

/-- A scan has found kubelets and pods by the time that the pods are asked. -/
theorem exists_run_firstAnswer_of_finds {net : Network σ κ} {config : DiscoveryConfig}
    {filter : PodFilter} {routeTable : Except String String} {known : DiscoveryState} {n n' : σ}
    {record record' : List (Traffic κ)} {update : DiscoveryUpdate}
    (h : (subnetScan net.recorded config filter routeTable).Finds known (n, record) update
      (n', record')) :
    ∃ kubelets pods found n₁ record₁, record <+: record₁ ∧
      (firstAnswer net.recorded config pods none).run.run (n₁, record₁) =
        (.ok found, (n', record')) ∧ update = { found with kubelets } := by
  obtain ⟨hrun, -⟩ := h
  simp only [subnetScan] at hrun
  rw [Action.run_bind, Action.run_ofExcept] at hrun
  rcases routeTable with e | table
  · cases hrun
  have htable : (Except.ok table : Except String String).mapError Failure.io = .ok table := rfl
  simp only [htable] at hrun
  split at hrun
  · cases hrun
  next gateway _ =>
    rw [Action.run_bind, Action.run_liftM] at hrun
    rcases hkubelets : ((kubeletScan config gateway).run net.recorded).run (n, record) with
      ⟨kubelets, n₁, record₁⟩
    -- the sweep adds to the record, and so do the kubelets after it
    obtain ⟨scan, -, rfl⟩ := (ScanJob.mirrors_run net _).exists_append hkubelets
    simp only [hkubelets, Action.run_bind] at hrun
    split at hrun
    next pods s₂ hcandidates =>
      obtain ⟨n₂, record₂⟩ := s₂
      obtain ⟨asked, -, rfl⟩ :=
        (mirrors_candidates net config filter kubelets).exists_append hcandidates
      split at hrun
      next found s₃ hfound =>
        cases hrun
        exact ⟨kubelets, pods, found, n₂, _,
          (List.prefix_append record scan).trans (List.prefix_append _ asked), hfound, rfl⟩
      next => cases hrun
    next => cases hrun

theorem confirmedOver_of_finds_subnetScan {net : Network σ κ} {config : DiscoveryConfig}
    {filter : PodFilter} {routeTable : Except String String} {known : DiscoveryState} {n n' : σ}
    {record record' : List (Traffic κ)} {update : DiscoveryUpdate} {address : String}
    (h : (subnetScan net.recorded config filter routeTable).Finds known (n, record) update
      (n', record'))
    (haddress : update.discoveryAddress = some address) :
    ∃ (ip : IP) (port : UInt16) (version : String) (endpoint : Endpoint),
      address = ip.withPort port ∧ update.version = some version ∧
      ConfirmedOver net address config.plainClient version endpoint record record' := by
  obtain ⟨kubelets, pods, found, n₁, record₁, hle, hfound, rfl⟩ :=
    exists_run_firstAnswer_of_finds h
  obtain ⟨ip, port, version, endpoint, hip, hversion, hover⟩ :=
    confirmedOver_of_run_firstAnswer hfound haddress
  exact ⟨ip, port, version, endpoint, hip, hversion, hover.of_isPrefix hle⟩

/-! ## Where a snapshot of a confirmed address goes -/

open Snapshot (ConnectsTo)

/-- **A snapshot goes where the version was asked, with one exception.** Under the well-known name
it goes to the same endpoint, over TLS if and only if the version was asked over TLS. An address
from a scan of the subnet is an address of a pod, and has been asked without TLS. The snapshot goes
to the same endpoint, too, unless TLS is configured and the port is that for TLS: in that case the
snapshot uses no connection without TLS. -/
theorem connectsTo_confirmed (net : Network σ κ) (config : DiscoveryConfig)
    (known : DiscoveryState) (n n' : σ) (record record' : List (Traffic κ))
    (update : DiscoveryUpdate) (address : String)
    (haddress : update.discoveryAddress = some address) :
    ((wellKnownName net.recorded config).Finds known (n, record) update (n', record') →
      ∃ client version endpoint, update.version = some version ∧
        ConfirmedOver net address client version endpoint record record' ∧
        endpoint.tls = client.tls ∧ ConnectsTo net config address [endpoint]) ∧
    ∀ filter routeTable,
      (subnetScan net.recorded config filter routeTable).Finds known (n, record) update
        (n', record') →
      ∃ (ip : IP) (port : UInt16) (version : String) (endpoint : Endpoint),
        address = ip.withPort port ∧ update.version = some version ∧
        ConfirmedOver net address config.plainClient version endpoint record record' ∧
        endpoint.tls = false ∧
        (¬ (config.tls = true ∧ port = config.discoveryTlsPort) →
          ConnectsTo net config address [endpoint]) ∧
        (config.tls = true ∧ port = config.discoveryTlsPort →
          ∃ endpoints, ConnectsTo net config address endpoints ∧
            ∀ other ∈ endpoints, other.tls = true) := by
  constructor
  · intro hfinds
    obtain ⟨host, port, version, endpoint, hjoin, hversion, hover⟩ :=
      confirmedOver_of_finds_wellKnownName hfinds
    obtain rfl := Option.some.inj (haddress.symm.trans hjoin)
    have hclient : config.clientForAddress (HostPort.join host port) = clientForPort config port :=
      config.clientForAddress_eq (HostPort.join_endsIn host port)
    have htimeout : (clientForPort config port).dialTimeout = config.dialTimeout := by
      rw [clientForPort]
      split <;> rfl
    exact ⟨_, version, endpoint, hversion, hover, Network.tls_of_endpoint hover.endpoint_eq.2,
      hover.connectsTo htimeout (congrArg ClientConfig.tls hclient)⟩
  · intro filter routeTable hfinds
    obtain ⟨ip, port, version, endpoint, rfl, hversion, hover⟩ :=
      confirmedOver_of_finds_subnetScan hfinds haddress
    have hclient := config.clientForAddress_eq (ip.withPort_endsIn port)
    refine ⟨ip, port, version, endpoint, rfl, hversion, hover,
      Network.tls_of_endpoint hover.endpoint_eq.2, fun hplain ↦ ?_, fun ⟨htls, hport⟩ ↦ ?_⟩
    · have htls : (config.clientForAddress (ip.withPort port)).tls = false := by
        rw [hclient]
        split
        next hport => exact eq_false_of_ne_true fun htls ↦ hplain ⟨htls, hport⟩
        next => rfl
      exact hover.connectsTo rfl htls
    · -- the stream goes over TLS, and whether it gets an endpoint depends on the pod's address
      refine ⟨_, Snapshot.connectsTo_streamEndpoints net hover.endpoint_eq.1, fun other hother ↦ ?_⟩
      rw [Snapshot.tls_of_mem_streamEndpoints hother, hclient, if_pos hport]
      exact htls

/-! ## A control plane without TLS on the port for TLS -/

/-- What the control plane says of itself. -/
def identifierJson : Json := .object [("Info", .object [("version", .string "1.19.3")])]

/-- The list of the only pod of the control plane. -/
def podListJson : Json :=
  .object [("items", .array [.object [
    ("metadata", .object [("labels", .object [("app", .string "istiod")])]),
    ("status", .object [("phase", .string "Running"), ("podIP", .string "10.0.0.7")])]])]

/-- A network with a control plane that does not speak TLS. HTTP requests are answered with the list
of its pods, and of all addresses the one that is probed first is open. -/
def plaintextNetwork : Network Bool Unit where
  dial endpoint _ :=
    pure [.finished (if endpoint.tls then .handshakeFailed else .connected ()), .checked]
  send _ _ _ := pure (.value ())
  openStream _ _ := pure (.value ())
  receive _ _ := pure (.value
    ⟨"", [], Client.versionTypeUrl, "", some ⟨identifierJson.text⟩⟩)
  http _ _ _ := pure (some ⟨200, Wire.Codec.bytesOfText podListJson.text⟩)
  probe _ _ _ := fun probed ↦ (!probed, true)
  choose turns := pure (turns - 1)

/-- A routing table with the gateway 10.0.0.1. -/
def routeTable : String := "Iface Destination Gateway\neth0 00000000 0100000A\n"

/-- Under the well-known name the port for TLS fails, and the other port is asked without TLS. A
scan asks the pod on that port, too. -/
theorem connectsTo_confirmed_plaintext :
    (∃ update n' record',
      (wellKnownName plaintextNetwork.recorded { tls := true }).Finds
        { namespaceName := some "istio-system" } (false, []) update (n', record') ∧
      ∃ client version endpoint, update.version = some version ∧
        ConfirmedOver plaintextNetwork "istiod.istio-system.svc:15010" client version endpoint []
          record' ∧
        endpoint.tls = client.tls ∧
        ConnectsTo plaintextNetwork { tls := true } "istiod.istio-system.svc:15010" [endpoint]) ∧
    ∃ update n' record',
      (subnetScan plaintextNetwork.recorded {} {} (.ok routeTable)).Finds {} (false, []) update
        (n', record') ∧
      ∃ version endpoint,
        ConfirmedOver plaintextNetwork "10.0.0.7:15010" (DiscoveryConfig.plainClient {}) version
          endpoint [] record' ∧
        ConnectsTo plaintextNetwork {} "10.0.0.7:15010" [endpoint] := by
  constructor
  · have hfound : (((wellKnownName plaintextNetwork.recorded { tls := true }).tryOnce
        { namespaceName := some "istio-system" }).run.run (false, [])).1.toOption.bind
          (·.discoveryAddress) = some "istiod.istio-system.svc:15010" := by decide +kernel
    obtain ⟨update, ⟨n', record'⟩, hfinds, haddress⟩ := exists_finds_of_tryOnce hfound
    exact ⟨update, n', record', hfinds,
      (connectsTo_confirmed plaintextNetwork { tls := true } _ false n' [] record' update _
        haddress).1 hfinds⟩
  · have hfound : (((subnetScan plaintextNetwork.recorded {} {} (.ok routeTable)).tryOnce
        {}).run.run (false, [])).1.toOption.bind (·.discoveryAddress) =
          some "10.0.0.7:15010" := by decide +kernel
    obtain ⟨update, ⟨n', record'⟩, hfinds, haddress⟩ := exists_finds_of_tryOnce hfound
    obtain ⟨ip, port, version, endpoint, -, -, hover, -, hconnects, -⟩ :=
      (connectsTo_confirmed plaintextNetwork {} {} false n' [] record' update _ haddress).2 _ _
        hfinds
    exact ⟨update, n', record', hfinds, version, endpoint, hover, hconnects nofun⟩

/-- With TLS configured, a scan for pods on the port for TLS confirms the pod without TLS, and a
snapshot does not go there that way. -/
theorem not_connectsTo_confirmed :
    ∃ update n' record' version endpoint,
      (subnetScan plaintextNetwork.recorded { tls := true } { discovery := .number 15012 }
        (.ok routeTable)).Finds {} (false, []) update (n', record') ∧
      update.discoveryAddress = some "10.0.0.7:15012" ∧
      ConfirmedOver plaintextNetwork "10.0.0.7:15012"
        (DiscoveryConfig.plainClient { tls := true }) version endpoint [] record' ∧
      endpoint.tls = false ∧
      ¬ ConnectsTo plaintextNetwork { tls := true } "10.0.0.7:15012" [endpoint] := by
  have hfound : (((subnetScan plaintextNetwork.recorded { tls := true }
      { discovery := .number 15012 } (.ok routeTable)).tryOnce {}).run.run
        (false, [])).1.toOption.bind (·.discoveryAddress) = some "10.0.0.7:15012" := by
    decide +kernel
  obtain ⟨update, ⟨n', record'⟩, hfinds, haddress⟩ := exists_finds_of_tryOnce hfound
  obtain ⟨ip, port, version, endpoint, -, -, hover⟩ :=
    confirmedOver_of_finds_subnetScan hfinds haddress
  obtain ⟨htimeout, hendpoint⟩ := hover.endpoint_eq
  have hplain : endpoint.tls = false := Network.tls_of_endpoint hendpoint
  refine ⟨update, n', record', version, endpoint, hfinds, haddress, hover, hplain, ?_⟩
  intro hconnects
  -- the stream of the address uses TLS
  have htls : (DiscoveryConfig.clientForAddress { tls := true } "10.0.0.7:15012").tls = true := by
    decide +kernel
  have hstream : endpoint ∈ Snapshot.streamEndpoints { tls := true } "10.0.0.7:15012" := by
    rw [← hconnects.eq (Snapshot.connectsTo_streamEndpoints _ htimeout) false]
    exact List.mem_singleton_self endpoint
  rw [Snapshot.tls_of_mem_streamEndpoints hstream, htls] at hplain
  cases hplain

end Strategy

end MeshSurvey
