import MeshSurvey.Proofs.Client.Telling
import MeshSurvey.Proofs.Strategy.SubnetScan
import MeshSurvey.Discovery.Standard

/-!
# What the update of a strategy promises

The three strategies for the control plane come by addresses in three ways: a host is put together
with ports, a pod is found with its ports, or a sidecar names an address. Only one address of an
update is checked by its strategy, and an update may have two. They are all as good as the checked
one, since the same host was put together with either port, or since the address of a pod needs no
check.
-/

namespace MeshSurvey

variable {σ κ : Type}

/-- What is to be expected of an update, given what went on in the network until it was found. -/
structure DiscoveryUpdate.KeepsPromise (u : DiscoveryUpdate) (record : List (Traffic κ)) :
    Prop where
  /-- It has an address of the control plane. -/
  hasAddress : u.discoveryAddress.isSome = true ∨ u.debugAddress.isSome = true
  /-- Either address has a host and a port. -/
  verify_eq : ∀ address, u.discoveryAddress = some address ∨ u.debugAddress = some address →
    verifyAddress (some address) = .ok ()
  /-- A version was told at the discovery address. -/
  tells : ∀ version, u.version = some version →
    ∃ address, u.discoveryAddress = some address ∧ Traffic.Tells address version record

theorem Client.ConfirmedOver.tells {net : Network σ κ} {address version : String}
    {config : ClientConfig} {endpoint : Endpoint} {record record' : List (Traffic κ)}
    (h : ConfirmedOver net address config version endpoint record record') :
    Traffic.Tells address version record' := by
  obtain ⟨-, hrun, -, -⟩ := h
  exact (tells_of_run_confirm hrun).append _

namespace Strategy

variable {net : Network σ κ} {config : DiscoveryConfig} {known : DiscoveryState}
  {update : DiscoveryUpdate} {n n' : σ} {record record' : List (Traffic κ)}

/-! ## The well-known name -/

theorem keepsPromise_of_finds_wellKnownName
    (h : (wellKnownName net.recorded config).Finds known (n, record) update (n', record')) :
    update.KeepsPromise record' := by
  have hverify : verifyDiscovery update = .ok () := h.2
  obtain ⟨host, hrun⟩ := exists_run_askPorts_of_finds h
  obtain ⟨port, version, endpoint, rfl, hover⟩ := confirmedOver_of_run_askPorts hrun
  -- the check of the discovery address does for the debug address, too
  have hread := verifyAddress_eq_ok_iff.mp hverify
  refine ⟨.inl rfl, ?_, ?_⟩
  · rintro address (haddress | haddress)
    · exact Option.some.inj haddress ▸ hverify
    · obtain rfl := Option.some.inj haddress
      exact verifyAddress_eq_ok_iff.mpr ((HostPort.read_join_isSome_iff host _ _).mp hread)
  · intro version' hversion
    obtain rfl := Option.some.inj hversion
    exact ⟨_, rfl, hover.tells⟩

/-! ## The scan of the subnet -/

/-- An update that comes from a pod, if from anywhere. -/
structure FromPod (u : DiscoveryUpdate) : Prop where
  /-- The addresses are the pod's. -/
  address : ∀ address, u.discoveryAddress = some address ∨ u.debugAddress = some address →
    ∃ (ip : IP) (port : UInt16), address = ip.withPort port
  /-- The version comes with the discovery address. -/
  version : ∀ version, u.version = some version → u.discoveryAddress.isSome = true

theorem fromPod_of_run_firstAnswer {pods : List ControlPlanePod} {last : Option Failure}
    (h : (firstAnswer net config pods last).run.run n = (.ok update, n')) : FromPod update := by
  rcases exists_run_firstAnswer net config pods last n with
    ⟨_, pod, _, _, _, version, debug, n₁, -, -, hasked, -, hrun⟩ | ⟨failures, n₁, -, hrun⟩
  · cases h.symm.trans hrun
    refine ⟨?_, ?_⟩
    · rintro address (haddress | rfl)
      · obtain ⟨-, -, rfl⟩ := Option.map_eq_some_iff.mp haddress
        exact ⟨pod.ip, _, rfl⟩
      · exact ⟨pod.ip, hasked.debug_eq⟩
    · intro told htold
      rw [Option.isSome_map, show version.toOption = some told from htold]
      rfl
  · have hfound := h.symm.trans hrun
    cases hlast : failures.getLast?.or last with
    | none =>
      rw [hlast] at hfound
      cases hfound
      refine ⟨?_, nofun⟩
      rintro address (haddress | haddress)
      · cases haddress
      · cases haddress
    | some e =>
      rw [hlast] at hfound
      cases hfound

theorem hasAddress_of_verifySubnet (h : verifySubnet update = .ok ()) :
    update.discoveryAddress.isSome = true ∨ update.debugAddress.isSome = true := by
  rw [verifySubnet] at h
  split at h
  · cases h
  split at h
  · cases h
  next address haddress =>
    rw [← Bool.or_eq_true, ← Option.isSome_or, haddress]
    rfl

theorem keepsPromise_of_finds_subnetScan {filter : PodFilter} {routeTable : Except String String}
    (h : (subnetScan net.recorded config filter routeTable).Finds known (n, record) update
      (n', record')) :
    update.KeepsPromise record' := by
  obtain ⟨kubelets, pods, found, n₁, record₁, -, hfound, hupdate⟩ :=
    exists_run_firstAnswer_of_finds h
  have hpod : FromPod update := by
    obtain ⟨haddress, hversion⟩ := fromPod_of_run_firstAnswer hfound
    exact hupdate ▸ ⟨haddress, hversion⟩
  refine ⟨hasAddress_of_verifySubnet h.2, fun address haddress ↦ ?_, fun version hversion ↦ ?_⟩
  · obtain ⟨ip, port, rfl⟩ := hpod.address address haddress
    exact verifyAddress_eq_ok_iff.mpr (ip.read_withPort_isSome port)
  · obtain ⟨address, haddress⟩ := Option.isSome_iff_exists.mp (hpod.version version hversion)
    obtain ⟨ip, port, version', endpoint, -, hversion', hover⟩ :=
      confirmedOver_of_finds_subnetScan h haddress
    obtain rfl := Option.some.inj (hversion.symm.trans hversion')
    exact ⟨address, haddress, hover.tells⟩

/-! ## The sidecar -/

theorem keepsPromise_of_finds_sidecarBootstrap
    (h : (sidecarBootstrap net.recorded config).Finds known (n, record) update (n', record')) :
    update.KeepsPromise record' := by
  obtain ⟨hrun, hverify⟩ := h
  simp only [sidecarBootstrap, Action.run_bind] at hrun
  split at hrun
  · split at hrun
    next address _ =>
      cases hrun
      refine ⟨.inl rfl, ?_, nofun⟩
      rintro address' (haddress | haddress)
      · exact Option.some.inj haddress ▸ hverify
      · cases haddress
    next => cases hrun
  · cases hrun

/-- Whichever strategy for the control plane finds an update, the update keeps its promise. -/
theorem keepsPromise_of_finds {routeTable : Except String String} {s : Strategy _}
    (hs : s ∈ (Chain.ofControlPlane net.recorded config routeTable).strategies)
    (h : s.Finds known (n, record) update (n', record')) : update.KeepsPromise record' := by
  simp only [Chain.ofControlPlane, List.mem_cons, List.not_mem_nil, or_false] at hs
  rcases hs with rfl | rfl | rfl
  · exact keepsPromise_of_finds_wellKnownName h
  · exact keepsPromise_of_finds_subnetScan h
  · exact keepsPromise_of_finds_sidecarBootstrap h

end Strategy

end MeshSurvey
