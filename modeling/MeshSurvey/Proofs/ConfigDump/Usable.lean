import MeshSurvey.Proofs.Address.Endpoint
import MeshSurvey.Proofs.ConfigDump.First

/-!
# Which addresses made of names can be used

An address is made of a name by putting the host, a colon and the port together as the name spells
them. Elsewhere a host and a port are joined anew, with brackets around an IPv6 address and with the
port in plain decimal. The two ways agree just if the name spells the port in plain decimal and its
host needs no brackets; otherwise the address is not recognized as one for TLS, or it cannot be used
at all.
-/

namespace MeshSurvey.ConfigDump

theorem colon_notMem_numeral {n : Nat} {cs : List Char} (h : Text.IsNumeral n cs) : ':' ∉ cs :=
  fun hmem ↦ absurd (Authority.isPlain_of_mem_numeral h hmem) (by decide)

/-- Either a host is shown as it is written, or it is an IPv6 address without brackets. -/
theorem shown_eq_or_of_isHost {host shown : List Char} (h : IsHost (String.ofList host) shown) :
    shown = host ∨ shown ≠ host ∧ ∃ ip, IPv6.read host = some ip := by
  have hlist : (String.ofList host).toList = host := String.toList_ofList
  generalize hname : String.ofList host = name at h hlist
  cases h with
  | name => exact .inl hlist
  | v4 => exact .inl hlist
  | bracketed => exact .inl hlist
  | v6 h =>
    rw [hlist] at h ⊢
    refine .inr ⟨fun heq ↦ ?_, _, h⟩
    have hlength := congrArg List.length heq
    simp only [List.length_append, List.length_cons, List.length_nil] at hlength
    omega

/-- The host that a name tells can stand before a port if and only if it is shown as it is. -/
theorem isFront_iff_of_isHost {host shown : List Char} (h : IsHost (String.ofList host) shown) :
    HostPort.IsFront host ↔ shown = host := by
  rcases shown_eq_or_of_isHost h with rfl | ⟨hne, ip, hip⟩
  · exact iff_of_true h.isShown.isFront rfl
  · exact iff_of_false (IPv6.not_isFront_of_read hip) hne

section Answer

variable {host port shown : List Char} (hport : Text.IsNumeral discoveryPort.toNat port)

include hport

theorem verifyAddress_answer_iff (h : IsHost (String.ofList host) shown) :
    verifyAddress (some (String.ofList (host ++ ':' :: port))) = .ok () ↔ shown = host := by
  have hlist : (String.ofList (host ++ ':' :: port)).toList = host ++ ':' :: port :=
    String.toList_ofList
  rw [verifyAddress_eq_ok_iff, ← isFront_iff_of_isHost h, Option.isSome_iff_exists]
  constructor
  · rintro ⟨⟨host', port'⟩, hread⟩
    exact ((HostPort.read_eq_some_iff hlist hport).mp hread).1
  · intro hfront
    exact ⟨_, (HostPort.read_eq_some_iff hlist hport).mpr ⟨hfront, rfl, rfl⟩⟩

theorem read_answer (h : IsHost (String.ofList host) host) :
    HostPort.read (String.ofList (host ++ ':' :: port)) = some (host, discoveryPort) :=
  h.isShown.read_eq String.toList_ofList hport

theorem answer_eq_join_iff (h : IsHost (String.ofList host) shown) :
    String.ofList (host ++ ':' :: port) = HostPort.join (String.ofList host) discoveryPort ↔
      shown = host ∧ port = "15012".toList := by
  rw [← String.toList_inj, String.toList_ofList, HostPort.toList_join h,
    Text.append_cons_inj (colon_notMem_numeral hport) (colon_notMem_toString _)]
  exact and_congr_left fun _ ↦ eq_comm

theorem clientForAddress_answer {config : DiscoveryConfig}
    (hconfig : config.discoveryTlsPort = discoveryPort) :
    config.clientForAddress (String.ofList (host ++ ':' :: port)) =
      if port = "15012".toList then config.client else config.plainClient := by
  have hlist : (String.ofList (host ++ ':' :: port)).toList = host ++ ':' :: port :=
    String.toList_ofList
  have hnames := config.namesTlsPort_iff_of_append hlist (colon_notMem_numeral hport)
  rw [hconfig] at hnames
  rw [DiscoveryConfig.clientForAddress]
  by_cases hplain : port = "15012".toList
  · rw [if_pos hplain, if_pos (hnames.mpr hplain)]
  · rw [if_neg hplain, if_neg (mt hnames.mp hplain)]

end Answer

/-- **An address that is made of a name is usable just if the name spells it as it would be joined.**
If no entry tells what its sidecar was started with, an answer is made of a name in the dump, which
tells a host and the port. Suppose that the host is a name or an IP address. Then the answer is the
host joined with the port if and only if the name spells the port in plain decimal and the host, if
it is an IPv6 address, in brackets. It passes the check of a strategy if and only if the host has
the brackets that it needs, and then it is read as that host and the port. And if the port is the
one for TLS, then the settings for TLS are kept if and only if it is spelled in plain decimal. -/
theorem named_address_usable_iff {dump : Json} {answer : String}
    (hstarted : ∀ i address, ¬ Told dump [0, i] address)
    (hanswer : discoveryAddress dump = some answer) :
    ∃ entries, dump.member? "configs" = some (.array entries) ∧
      ∃ entry ∈ entries, ∃ place name host port, StandsIn entry place name ∧
        name.Tells host port ∧ answer = String.ofList (host ++ ':' :: port) ∧
        (∀ shown, IsHost (String.ofList host) shown →
          (answer = HostPort.join (String.ofList host) discoveryPort ↔
            shown = host ∧ port = "15012".toList) ∧
          (verifyAddress (some answer) = .ok () ↔ shown = host) ∧
          (shown = host → HostPort.read answer = some (host, discoveryPort))) ∧
        ∀ config : DiscoveryConfig, config.discoveryTlsPort = discoveryPort →
          config.clientForAddress answer =
            if port = "15012".toList then config.client else config.plainClient := by
  obtain ⟨place, htold, -⟩ := (findsFirst_discoveryAddress dump).of_some hanswer
  cases htold with
  | started hentries hentry haddress =>
    exact absurd (.started hentries hentry haddress) (hstarted _ _)
  | named hentries hentry hname htells =>
    have hport := htells.isNumeral
    refine ⟨_, hentries, _, List.mem_of_getElem? hentry, _, _, _, _, hname, htells, rfl, ?_, ?_⟩
    · intro shown hhost
      refine ⟨answer_eq_join_iff hport hhost, verifyAddress_answer_iff hport hhost, ?_⟩
      rintro rfl
      exact read_answer hport hhost
    · exact fun config hconfig ↦ clientForAddress_answer hport hconfig

/-- The cluster of a discovery service on the port for TLS tells an address that can be used. -/
theorem named_address_usable_iff_of_cluster :
    discoveryAddress (clusterDump [] [clusterNamed "outbound|15012||istiod.mesh.svc"]) =
        some "istiod.mesh.svc:15012" ∧
      "istiod.mesh.svc:15012" = HostPort.join "istiod.mesh.svc" discoveryPort ∧
      verifyAddress (some "istiod.mesh.svc:15012") = .ok () ∧
      DiscoveryConfig.clientForAddress { tls := true } "istiod.mesh.svc:15012" =
        DiscoveryConfig.client { tls := true } := by
  have hfound : discoveryAddress (clusterDump [] [clusterNamed "outbound|15012||istiod.mesh.svc"]) =
      some "istiod.mesh.svc:15012" := by decide +kernel
  have hstarted : ∀ i address,
      ¬ Told (clusterDump [] [clusterNamed "outbound|15012||istiod.mesh.svc"]) [0, i] address :=
    findSome?_bootstrapAddress_eq_none_iff.mp (by decide +kernel)
  obtain ⟨_, -, _, -, _, _, host, port, -, htells, hanswer, husable, htls⟩ :=
    named_address_usable_iff hstarted hfound
  -- the host and the port are what stands on either side of the only colon
  have hlist : host ++ ':' :: port = "istiod.mesh.svc".toList ++ ':' :: "15012".toList := by
    rw [← String.toList_ofList (l := host ++ ':' :: port), ← hanswer]
    decide
  obtain ⟨rfl, rfl⟩ :=
    (Text.append_cons_inj (colon_notMem_numeral htells.isNumeral) (by decide)).mp hlist
  have hchars : "istiod.mesh.svc".toList.all
      (fun c ↦ decide (ServerName.isLabelChar c = true ∨ c = '.')) = true := by decide
  have hhost : IsHost (String.ofList "istiod.mesh.svc".toList) "istiod.mesh.svc".toList :=
    .name (by decide) fun c hc ↦ of_decide_eq_true (List.all_eq_true.mp hchars c hc)
  obtain ⟨hjoin, hverify, -⟩ := husable _ hhost
  exact ⟨hfound, hjoin.mpr ⟨rfl, rfl⟩, hverify.mpr rfl, htls { tls := true } rfl⟩

/-- An IPv6 address in the name of a cluster gets no brackets, so that the answer is neither what
joining would give nor an address; and another spelling of the port does without TLS. -/
theorem not_usable_without_brackets :
    discoveryAddress (clusterDump [] [clusterNamed "outbound|15012||fd00::7"]) =
        some "fd00::7:15012" ∧
      (IPv6.read "fd00::7".toList).isSome = true ∧
      HostPort.join "fd00::7" discoveryPort = "[fd00::7]:15012" ∧
      verifyAddress (some "fd00::7:15012") ≠ .ok () ∧
      discoveryAddress (clusterDump [] [clusterNamed "outbound|+15012||istiod.mesh.svc"]) =
        some "istiod.mesh.svc:+15012" ∧
      HostPort.join "istiod.mesh.svc" discoveryPort = "istiod.mesh.svc:15012" ∧
      DiscoveryConfig.namesTlsPort {} "istiod.mesh.svc:+15012" = false := by
  refine ⟨by decide +kernel, by decide +kernel, by decide +kernel, ?_, by decide +kernel,
    by decide +kernel, by decide +kernel⟩
  intro hverify
  have hread : (HostPort.read "fd00::7:15012").isSome = false := by decide +kernel
  rw [verifyAddress_eq_ok_iff.mp hverify] at hread
  cases hread

end MeshSurvey.ConfigDump
