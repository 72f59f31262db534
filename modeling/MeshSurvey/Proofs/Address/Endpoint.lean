import Mathlib.Data.List.TakeWhile
import MeshSurvey.Network.Basic
import MeshSurvey.Proofs.Address.Host
import MeshSurvey.Strategy.WellKnownName

/-!
# Where an address is dialled

A strategy checks that an address names a host and a port, and dialling reads the address again, as
a part of a URI. The two readings agree: nothing follows the authority of such an address, so its
host and its port are those of the URI, and the port that the scheme stands for is never used. Over
TLS the host has to be the name of a server besides, which not every host is that an address may
name.
-/

namespace MeshSurvey

theorem verifyAddress_eq_ok_iff {address : String} :
    verifyAddress (some address) = .ok () ↔ (HostPort.read address).isSome = true := by
  rw [verifyAddress]
  cases HostPort.read address <;> simp

/-- An address is short enough for the URI that it is dialled as. -/
def Endpoint.Fits (tls : Bool) (address : String) : Prop :=
  (scheme tls).utf8ByteSize + 3 + address.utf8ByteSize ≤ maxUriLength

instance (tls : Bool) (address : String) : Decidable (Endpoint.Fits tls address) :=
  inferInstanceAs (Decidable (_ ≤ _))

theorem HostPort.read_eq_some {address : String} {host : List Char} {port : UInt16}
    (h : read address = some (host, port)) :
    address.toList ≠ [] ∧ (∀ c ∈ address.toList, Authority.isEnd c = false) ∧
      Authority.isWellFormed address.toList = true ∧ Authority.host address.toList = host ∧
      Authority.port address.toList = some port := by
  rw [read] at h
  split at h
  · next host' port' hauthority =>
    obtain ⟨hcond, hparts⟩ := Option.ite_none_right_eq_some.mp hauthority
    obtain ⟨-, heq⟩ := Option.ite_none_left_eq_some.mp h
    obtain ⟨rfl, rfl⟩ := Prod.mk.inj (Option.some.inj heq)
    obtain ⟨hhost, hport⟩ := Prod.mk.inj (Option.some.inj hparts)
    simp only [Bool.and_eq_true, Bool.not_eq_true', List.isEmpty_eq_false_iff,
      List.any_eq_false] at hcond
    exact ⟨hcond.1.1, fun c hc ↦ Bool.eq_false_iff.mpr (hcond.1.2 c hc), hcond.2, hhost, hport⟩
  · cases h

/-- An address that names a host and a port is dialled as both of them say. -/
theorem Endpoint.ofAddress_eq {tls : Bool} {address : String} {host : List Char} {port : UInt16}
    (hread : HostPort.read address = some (host, port)) (hfits : Fits tls address) :
    ofAddress tls address = some ⟨host, port, tls⟩ := by
  obtain ⟨hne, hend, hform, hhost, hport⟩ := HostPort.read_eq_some hread
  have hauthority : ∀ c ∈ address.toList, (!Authority.isEnd c) = true := fun c hc ↦ by
    rw [hend c hc]
    rfl
  have htake : address.toList.takeWhile (!Authority.isEnd ·) = address.toList :=
    List.takeWhile_eq_self_iff.mpr hauthority
  have hdrop : address.toList.dropWhile (!Authority.isEnd ·) = [] :=
    List.dropWhile_eq_nil_iff.mpr hauthority
  have hshort : decide ((scheme tls).utf8ByteSize + 3 + address.utf8ByteSize ≤ maxUriLength) =
      true := decide_eq_true hfits
  have hcond : (!address.toList.isEmpty && Authority.isWellFormed address.toList &&
      isPathAndQuery [] &&
      decide ((scheme tls).utf8ByteSize + 3 + address.utf8ByteSize ≤ maxUriLength)) = true := by
    rw [hform, hshort, List.isEmpty_eq_false_iff.mpr hne]
    rfl
  rw [ofAddress, htake, hdrop, hhost, hport]
  exact if_pos hcond

theorem Network.endpoint_eq {tls : Bool} {address : String} {host : List Char} {port : UInt16}
    (hread : HostPort.read address = some (host, port)) (hfits : Endpoint.Fits tls address) :
    endpoint address tls =
      if tls = true ∧ ServerName.isValid host = false then .error (.transport address)
      else .ok ⟨host, port, tls⟩ := by
  rw [endpoint, Endpoint.ofAddress_eq hread hfits]
  cases hvalid : ServerName.isValid host <;> cases tls <;> simp [hvalid]

/-- **A checked address is dialled as it was read.** An address that passes the check of a strategy
names a host and a port, and if it is short enough, then a connection goes to exactly these two.
Only over TLS it does not go anywhere if the host is not the name of a server: that is an error of
the transport, and not of the address. A host that is a name or an IP address passes the check
together with any port, and is read back as it is shown, with that port. -/
theorem HostPort.dialled_as_read :
    (∀ address, verifyAddress (some address) = .ok () → ∃ host port,
      read address = some (host, port) ∧ ∀ tls, Endpoint.Fits tls address →
        Network.endpoint address tls =
          if tls = true ∧ ServerName.isValid host = false then .error (.transport address)
          else .ok ⟨host, port, tls⟩) ∧
    ∀ host shown port, IsHost host shown →
      verifyAddress (some (join host port)) = .ok () ∧
        read (join host port) = some (shown, port) := by
  constructor
  · intro address hverify
    obtain ⟨⟨host, port⟩, hread⟩ := Option.isSome_iff_exists.mp (verifyAddress_eq_ok_iff.mp hverify)
    exact ⟨host, port, hread, fun tls ↦ Network.endpoint_eq hread⟩
  · intro host shown port hhost
    have hread := read_join hhost port
    exact ⟨verifyAddress_eq_ok_iff.mpr (by rw [hread]; rfl), hread⟩

/-- A user's name is neither part of the host that is read nor of the one that is dialled, and an
IPv6 address that is joined with a port gets its brackets. -/
theorem HostPort.dialled_as_read_of_user :
    (∃ host port, read "mesh@[fd00::7]:15012" = some (host, port) ∧
      Network.endpoint "mesh@[fd00::7]:15012" true = .ok ⟨host, port, true⟩) ∧
    read (join "fd00::7" 15012) = some ("[fd00::7]".toList, 15012) := by
  obtain ⟨hdialled, hjoined⟩ := HostPort.dialled_as_read
  constructor
  · have hverify : verifyAddress (some "mesh@[fd00::7]:15012") = .ok () :=
      verifyAddress_eq_ok_iff.mpr (by decide +kernel)
    obtain ⟨host, port, hread, hendpoint⟩ := hdialled _ hverify
    refine ⟨host, port, hread, ?_⟩
    have hhost : read "mesh@[fd00::7]:15012" = some ("[fd00::7]".toList, 15012) := by
      decide +kernel
    obtain ⟨rfl, rfl⟩ := Prod.mk.inj (Option.some.inj (hread.symm.trans hhost))
    rw [hendpoint true (by decide +kernel)]
    exact if_neg (by decide +kernel)
  · have hip : ∃ ip, IPv6.read "fd00::7".toList = some ip :=
      Option.isSome_iff_exists.mp (by decide +kernel)
    obtain ⟨ip, hip⟩ := hip
    exact (hjoined "fd00::7" _ 15012 (.v6 hip)).2

/-- It is not so that a checked address is dialled with and without TLS: a host of three numbers
passes the check, but no server can have it as its name. -/
theorem HostPort.not_dialled_of_verify :
    ¬ ∀ (address : String) (tls : Bool), verifyAddress (some address) = .ok () →
      Endpoint.Fits tls address → ∃ endpoint, Network.endpoint address tls = .ok endpoint := by
  intro h
  have hverify : verifyAddress (some "127.77.265:15012") = .ok () :=
    verifyAddress_eq_ok_iff.mpr (by decide +kernel)
  obtain ⟨endpoint, hendpoint⟩ := h _ true hverify (by decide +kernel)
  have hrefused : (Network.endpoint "127.77.265:15012" true).isOk = false := by decide +kernel
  rw [hendpoint] at hrefused
  cases hrefused

end MeshSurvey
