import MeshSurvey.Address.HostPort
import MeshSurvey.Address.IP
import MeshSurvey.Discovery.Retrieval

/-!
# The port that an address ends in

Where a snapshot is to be taken, only the text of an address is left to tell the port for TLS from
others. That is enough if the address was put together of a host and a port: there is no colon among
digits, so that what stands behind the last colon is the port.
-/

namespace MeshSurvey

/-- An address ends in a port: the digits of the port stand behind a colon. -/
def HostPort.EndsIn (address : String) (port : UInt16) : Prop :=
  ∃ front : List Char, address.toList = front ++ ':' :: (toString port.toNat).toList

theorem HostPort.join_endsIn (host : String) (port : UInt16) : EndsIn (join host port) port := by
  rw [EndsIn, join]
  split
  · refine ⟨'[' :: host.toList ++ [']'], ?_⟩
    simp only [String.toList_append, List.append_assoc]
    rfl
  · refine ⟨host.toList, ?_⟩
    simp only [String.toList_append, List.append_assoc]
    rfl

theorem IP.withPort_endsIn (ip : IP) (port : UInt16) :
    HostPort.EndsIn (ip.withPort port) port := by
  rw [HostPort.EndsIn]
  cases ip with
  | v4 ip =>
    refine ⟨ip.text.toList, ?_⟩
    simp only [withPort, String.toList_append, List.append_assoc]
    rfl
  | v6 ip =>
    refine ⟨'[' :: ip.text.toList ++ [']'], ?_⟩
    simp only [withPort, String.toList_append, List.append_assoc]
    rfl

theorem colon_notMem_toString (n : Nat) : ':' ∉ (toString n).toList := by
  intro h
  have hdigits : ':' ∈ Nat.toDigits 10 n := Nat.toList_repr ▸ h
  cases Nat.isDigit_of_mem_toDigits (by decide) (by decide) hdigits

theorem toString_injective {m n : Nat} (h : (toString m).toList = (toString n).toList) : m = n := by
  have hdigits : Nat.toDigits 10 m = Nat.toDigits 10 n :=
    Nat.toList_repr.symm.trans (h.trans Nat.toList_repr)
  have hvalues := congrArg (Nat.ofDigitChars 10 · 0) hdigits
  exact Nat.ofDigitChars_ten_toDigits.symm.trans (hvalues.trans Nat.ofDigitChars_ten_toDigits)

theorem eq_of_cons_suffix_cons {sep : Char} {a b : List Char} (ha : sep ∉ a)
    (h : (sep :: b) <:+ (sep :: a)) : b = a := by
  rcases List.suffix_cons_iff.mp h with heq | hsuffix
  · exact (List.cons.inj heq).2
  · exact absurd (hsuffix.subset List.mem_cons_self) ha

theorem DiscoveryConfig.namesTlsPort_iff_of_append (config : DiscoveryConfig) {address : String}
    {front back : List Char} (h : address.toList = front ++ ':' :: back) (hback : ':' ∉ back) :
    config.namesTlsPort address = true ↔
      back = (toString config.discoveryTlsPort.toNat).toList := by
  rw [namesTlsPort, List.isSuffixOf_iff_suffix, h]
  constructor
  · intro hsuffix
    -- of two ends of one text the shorter ends the longer, and neither has another colon
    rcases List.suffix_or_suffix_of_suffix hsuffix (List.suffix_append front _) with hle | hle
    · exact (eq_of_cons_suffix_cons hback hle).symm
    · exact eq_of_cons_suffix_cons (colon_notMem_toString _) hle
  · rintro rfl
    exact List.suffix_append front _

/-- An address names the port for TLS if and only if that is the port that it ends in. -/
theorem DiscoveryConfig.namesTlsPort_iff (config : DiscoveryConfig) {address : String}
    {port : UInt16} (h : HostPort.EndsIn address port) :
    config.namesTlsPort address = true ↔ port = config.discoveryTlsPort := by
  obtain ⟨front, hfront⟩ := h
  rw [config.namesTlsPort_iff_of_append hfront (colon_notMem_toString _)]
  exact ⟨fun heq ↦ UInt16.toNat_inj.mp (toString_injective heq), fun heq ↦ by rw [heq]⟩

/-- So the address of a port is spoken to as the port is. -/
theorem DiscoveryConfig.clientForAddress_eq (config : DiscoveryConfig) {address : String}
    {port : UInt16} (h : HostPort.EndsIn address port) :
    config.clientForAddress address =
      if port = config.discoveryTlsPort then config.client else config.plainClient := by
  rw [clientForAddress]
  by_cases hport : port = config.discoveryTlsPort
  · rw [if_pos hport, if_pos ((config.namesTlsPort_iff h).mpr hport)]
  · rw [if_neg hport, if_neg (mt (config.namesTlsPort_iff h).mp hport)]

end MeshSurvey
