import MeshSurvey.Discovery.ConfigDump
import MeshSurvey.Proofs.Text.Numeral
import MeshSurvey.Proofs.Text.Split

/-!
# Names that tell an address

A sidecar names its clusters and its virtual hosts. Some of these names hold a host and the port of
the discovery service, and the address is the host, a colon and the port as the name spells it: any
numeral of the port counts, and it is not written anew.
-/

namespace MeshSurvey.ConfigDump

/-- A name in a sidecar's configuration. -/
inductive Name where
  /-- The name of a cluster. -/
  | cluster (text : String)
  /-- The name of a virtual host. -/
  | virtualHost (text : String)

namespace Name

/-- The address that is made of a name. -/
def address? : Name → Option String
  | .cluster text => addressOfCluster text
  | .virtualHost text => addressOfVirtualHost text

/-- A name tells a host and a port, the port being a numeral of the discovery port. -/
inductive Tells : Name → List Char → List Char → Prop where
  /-- Of the fields between the bars, the second is the port and the fourth is the host. -/
  | cluster {text : String} {direction port subset host : List Char} {rest : List (List Char)}
    (htext : text.toList = ['|'].intercalate (direction :: port :: subset :: host :: rest))
    (hfields : ∀ field ∈ direction :: port :: subset :: host :: rest, '|' ∉ field)
    (hport : Text.IsNumeral discoveryPort.toNat port) (hhost : host ≠ []) :
    Tells (.cluster text) host port
  /-- The port stands behind the last colon, and the host is all that stands before it. -/
  | virtualHost {text : String} {host port : List Char} (htext : text.toList = host ++ ':' :: port)
    (hcolon : ':' ∉ port) (hport : Text.IsNumeral discoveryPort.toNat port) (hhost : host ≠ []) :
    Tells (.virtualHost text) host port

/-- Whether a name tells any address. -/
def Qualifies (name : Name) : Prop := ∃ host port, name.Tells host port

end Name

theorem isDiscoveryPort_iff {cs : List Char} :
    isDiscoveryPort cs = true ↔ Text.IsNumeral discoveryPort.toNat cs := by
  have hlt : discoveryPort.toNat < UInt16.size := by decide
  rw [isDiscoveryPort, decide_eq_true_eq, Text.readBelow_ten_eq_some_iff]
  exact and_iff_right hlt

theorem isDiscoveryPort_and_iff {host port : List Char} :
    (isDiscoveryPort port && !host.isEmpty) = true ↔
      Text.IsNumeral discoveryPort.toNat port ∧ host ≠ [] := by
  rw [Bool.and_eq_true, isDiscoveryPort_iff, Bool.not_eq_true', List.isEmpty_eq_false_iff]

theorem addressOfCluster_eq_some_iff {text address : String} :
    addressOfCluster text = some address ↔
      ∃ host port, (Name.cluster text).Tells host port ∧
        address = String.ofList (host ++ ':' :: port) := by
  constructor
  · intro h
    rw [addressOfCluster] at h
    split at h
    · next direction port subset host rest hpieces =>
      obtain ⟨hcond, haddress⟩ := Option.ite_none_right_eq_some.mp h
      obtain ⟨hport, hhost⟩ := isDiscoveryPort_and_iff.mp hcond
      obtain ⟨htext, hfields⟩ := Text.pieces_eq_iff.mp hpieces
      exact ⟨host, port, .cluster htext hfields hport hhost, (Option.some.inj haddress).symm⟩
    · cases h
  · rintro ⟨host, port, htells, rfl⟩
    cases htells with
    | cluster htext hfields hport hhost =>
      rw [addressOfCluster, Text.pieces_eq_iff.mpr ⟨htext, hfields⟩]
      exact if_pos (isDiscoveryPort_and_iff.mpr ⟨hport, hhost⟩)

theorem addressOfVirtualHost_eq_some_iff {text address : String} :
    addressOfVirtualHost text = some address ↔
      ∃ host port, (Name.virtualHost text).Tells host port ∧
        address = String.ofList (host ++ ':' :: port) := by
  constructor
  · intro h
    rw [addressOfVirtualHost] at h
    split at h
    · next host port hcut =>
      obtain ⟨hcond, haddress⟩ := Option.ite_none_right_eq_some.mp h
      obtain ⟨hport, hhost⟩ := isDiscoveryPort_and_iff.mp hcond
      obtain ⟨htext, hcolon⟩ := Text.cutLast_eq_some_iff.mp hcut
      refine ⟨host, port, .virtualHost htext hcolon hport hhost, ?_⟩
      rw [← htext, String.ofList_toList]
      exact (Option.some.inj haddress).symm
    · cases h
  · rintro ⟨host, port, htells, rfl⟩
    cases htells with
    | virtualHost htext hcolon hport hhost =>
      rw [addressOfVirtualHost, Text.cutLast_eq_some_iff.mpr ⟨htext, hcolon⟩]
      dsimp only
      rw [if_pos (isDiscoveryPort_and_iff.mpr ⟨hport, hhost⟩), ← htext, String.ofList_toList]

namespace Name

/-- The address that is made of a name is the one that it tells. -/
theorem address?_eq_some_iff {name : Name} {address : String} :
    name.address? = some address ↔
      ∃ host port, name.Tells host port ∧ address = String.ofList (host ++ ':' :: port) := by
  cases name with
  | cluster text => exact addressOfCluster_eq_some_iff
  | virtualHost text => exact addressOfVirtualHost_eq_some_iff

theorem address?_eq_none_iff {name : Name} : name.address? = none ↔ ¬ name.Qualifies := by
  rw [Option.eq_none_iff_forall_ne_some]
  constructor
  · rintro h ⟨host, port, htells⟩
    exact h _ (address?_eq_some_iff.mpr ⟨host, port, htells, rfl⟩)
  · intro h address haddress
    obtain ⟨host, port, htells, -⟩ := address?_eq_some_iff.mp haddress
    exact h ⟨host, port, htells⟩

theorem Tells.isNumeral {name : Name} {host port : List Char} (h : name.Tells host port) :
    Text.IsNumeral discoveryPort.toNat port := by
  cases h <;> assumption

end Name

end MeshSurvey.ConfigDump
