import MeshSurvey.Address.ServerName
import MeshSurvey.Proofs.Address.Literal

/-!
# Hosts in addresses

A host is a name or an IP address. In front of a port an IPv6 address has to stand in brackets, or
the colons of the two could not be told apart. Whatever host is joined with a port, the address is
read back as the host, as it is shown, and the port.
-/

namespace MeshSurvey

/-! ## The host of an authority -/

namespace Authority

theorem host_append_colon {front back : List Char} (hfront : ∀ c ∈ front, isPlain c = true)
    (hback : ∀ c ∈ back, isPlain c = true) : host (front ++ ':' :: back) = front := by
  have hat : '@' ∉ front ++ ':' :: back := by
    simp only [List.mem_append, List.mem_cons, not_or]
    exact ⟨fun h ↦ absurd (hfront _ h) (by decide), by decide,
      fun h ↦ absurd (hback _ h) (by decide)⟩
  have htake : (front ++ ':' :: back).takeWhile (· ≠ ':') = front := by
    have hne : ∀ c ∈ front, decide (c ≠ ':') = true := by
      intro c hc
      rw [decide_eq_true_eq]
      rintro rfl
      exact absurd (hfront _ hc) (by decide)
    rw [List.takeWhile_append_of_pos hne, List.takeWhile_cons_of_neg (by simp), List.append_nil]
  rw [host, Text.cutLast_eq_none_iff.mpr hat]
  dsimp only
  split
  · next heq =>
    cases front with
    | nil => exact absurd (List.cons.inj heq).1 (by decide)
    | cons c front =>
      obtain rfl := (List.cons.inj heq).1
      exact absurd (hfront _ List.mem_cons_self) (by decide)
  · exact htake

theorem host_brackets_append {inner back : List Char}
    (hinner : ∀ c ∈ inner, c = ':' ∨ isPlain c = true) (hback : ∀ c ∈ back, isPlain c = true) :
    host (('[' :: inner ++ [']']) ++ ':' :: back) = '[' :: inner ++ [']'] := by
  have hnot {d : Char} (hd : d ≠ ':') (hplain : isPlain d = false) : d ∉ inner := by
    intro hmem
    rcases hinner d hmem with rfl | h
    · exact hd rfl
    · exact Bool.false_ne_true (hplain.symm.trans h)
  have hat : '@' ∉ ('[' :: inner ++ [']']) ++ ':' :: back := by
    simp only [List.mem_append, List.mem_cons, not_or]
    exact ⟨⟨⟨by decide, hnot (by decide) (by decide)⟩, by decide, List.not_mem_nil⟩, by decide,
      fun h ↦ absurd (hback _ h) (by decide)⟩
  have hclose : ']' ∉ '[' :: inner := by
    rw [List.mem_cons, not_or]
    exact ⟨by decide, hnot (by decide) (by decide)⟩
  rw [host, Text.cutLast_eq_none_iff.mpr hat, List.append_assoc, List.singleton_append,
    List.cons_append]
  dsimp only
  rw [← List.cons_append, Text.cutFirst_append hclose]
  rfl

end Authority

/-! ## Hosts -/

/-- A host as it may be written, and as an address shows it in front of a port. -/
inductive IsHost : String → List Char → Prop where
  /-- A name: letters, digits, underscores, hyphens and dots. -/
  | name {host : String} (hne : host.toList ≠ [])
    (hchars : ∀ c ∈ host.toList, ServerName.isLabelChar c = true ∨ c = '.') :
    IsHost host host.toList
  /-- An IPv4 address. -/
  | v4 {host : String} {ip : IPv4} (h : IPv4.read host.toList = some ip) : IsHost host host.toList
  /-- An IPv6 address. -/
  | v6 {host : String} {ip : IPv6} (h : IPv6.read host.toList = some ip) :
    IsHost host ('[' :: host.toList ++ [']'])
  /-- An IPv6 address that is in brackets already. -/
  | bracketed {host : String} {inner : List Char} {ip : IPv6} (h : IPv6.read inner = some ip)
    (hhost : host.toList = '[' :: inner ++ [']']) : IsHost host host.toList

/-- A host as an address shows it: plain characters, or an IPv6 address in brackets. -/
inductive IsShown : List Char → Prop where
  /-- There are only plain characters. -/
  | plain {cs : List Char} (hne : cs ≠ []) (h : ∀ c ∈ cs, Authority.isPlain c = true) : IsShown cs
  /-- There is an IPv6 address in brackets. -/
  | brackets {cs : List Char} {ip : IPv6} (h : IPv6.read cs = some ip) :
    IsShown ('[' :: cs ++ [']'])

theorem ServerName.isPlain_of_isLabelChar {c : Char} (h : isLabelChar c = true ∨ c = '.') :
    Authority.isPlain c = true := by
  rcases h with h | rfl
  · rw [isLabelChar, Bool.or_eq_true, Bool.or_eq_true, decide_eq_true_eq, decide_eq_true_eq] at h
    rcases h with (halnum | rfl) | rfl
    · rw [Authority.isPlain, halnum, Bool.true_or]
    · decide
    · decide
  · decide

theorem IsHost.isShown {host : String} {shown : List Char} (h : IsHost host shown) :
    IsShown shown := by
  cases h with
  | name hne hchars => exact .plain hne fun c hc ↦ ServerName.isPlain_of_isLabelChar (hchars c hc)
  | v4 h => exact .plain (IPv4.isPlain_of_read h).1 (IPv4.isPlain_of_read h).2
  | v6 h => exact .brackets h
  | bracketed h hhost =>
    rw [hhost]
    exact .brackets h

/-! ## Hosts with a port -/

namespace IsShown

variable {shown : List Char} (h : IsShown shown)

include h

theorem isFront : HostPort.IsFront shown := by
  cases h with
  | plain hne h => exact HostPort.isFront_of_isPlain h hne
  | brackets h =>
    obtain ⟨hchars, hcount⟩ := (IPv6.hasColons_of_read h).1
    exact HostPort.isFront_brackets hchars hcount

theorem host_append {back : List Char} (hback : ∀ c ∈ back, Authority.isPlain c = true) :
    Authority.host (shown ++ ':' :: back) = shown := by
  cases h with
  | plain _ h => exact Authority.host_append_colon h hback
  | brackets h => exact Authority.host_brackets_append (IPv6.hasColons_of_read h).1.chars hback

theorem read_eq {address : String} {back : List Char} {port : UInt16}
    (haddress : address.toList = shown ++ ':' :: back) (hback : Text.IsNumeral port.toNat back) :
    HostPort.read address = some (shown, port) :=
  (HostPort.read_eq_some_iff haddress hback).mpr
    ⟨h.isFront, h.host_append fun _ ↦ Authority.isPlain_of_mem_numeral hback, rfl⟩

end IsShown

namespace HostPort

theorem toList_join_of_notMem {host : String} (h : ':' ∉ host.toList) (port : UInt16) :
    (join host port).toList = host.toList ++ ':' :: (toString port.toNat).toList := by
  have hcontains : ¬ (host.toList.contains ':' && decide (host.toList.head? ≠ some '[')) = true := by
    simp [h]
  rw [join, if_neg hcontains]
  simp only [String.toList_append, List.append_assoc]
  rfl

theorem toList_join {host : String} {shown : List Char} (h : IsHost host shown) (port : UInt16) :
    (join host port).toList = shown ++ ':' :: (toString port.toNat).toList := by
  have hplain {cs : List Char} (hcs : ∀ c ∈ cs, Authority.isPlain c = true) : ':' ∉ cs :=
    fun hmem ↦ absurd (hcs _ hmem) (by decide)
  cases h with
  | name _ hchars =>
    exact toList_join_of_notMem
      (hplain fun c hc ↦ ServerName.isPlain_of_isLabelChar (hchars c hc)) port
  | v4 h => exact toList_join_of_notMem (hplain (IPv4.isPlain_of_read h).2) port
  | v6 h =>
    obtain ⟨hcolons, hcolon⟩ := IPv6.hasColons_of_read h
    have hbracket : host.toList.head? ≠ some '[' := by
      intro hhead
      rcases hcolons.chars _ (List.mem_of_head? hhead) with heq | hplain
      · cases heq
      · exact absurd hplain (by decide)
    have hcond : (host.toList.contains ':' && decide (host.toList.head? ≠ some '[')) = true := by
      simp [hcolon, hbracket]
    rw [join, if_pos hcond]
    simp only [String.toList_append, List.append_assoc]
    rfl
  | bracketed _ hhost =>
    have hcond : ¬ (host.toList.contains ':' && decide (host.toList.head? ≠ some '[')) = true := by
      simp [hhost]
    rw [join, if_neg hcond]
    simp only [String.toList_append, List.append_assoc]
    rfl

/-- **A host that is joined with a port is read back as it is shown.** -/
theorem read_join {host : String} {shown : List Char} (h : IsHost host shown) (port : UInt16) :
    read (join host port) = some (shown, port) :=
  h.isShown.read_eq (toList_join h port) (Text.isNumeral_toString _)

end HostPort

end MeshSurvey
