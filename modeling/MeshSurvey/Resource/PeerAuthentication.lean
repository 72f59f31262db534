import MeshSurvey.Resource.Enumeration
import MeshSurvey.Resource.WorkloadSelector

/-!
# Peer authentication policies

A peer authentication policy says whether workloads demand mutual TLS of their peers, on all ports
and on single ones.
-/

namespace MeshSurvey

/-- Whether mutual TLS is demanded. -/
inductive MtlsMode where
  /-- As the enclosing scope says. -/
  | unset
  /-- Plaintext only. -/
  | disable
  /-- Both plaintext and mutual TLS. -/
  | permissive
  /-- Mutual TLS only. -/
  | strict
  deriving DecidableEq, Repr, Inhabited

instance : Enumeration MtlsMode where
  title := "MtlsMode"
  values := [.unset, .disable, .permissive, .strict]
  first := .unset
  name
    | .unset => "UNSET"
    | .disable => "DISABLE"
    | .permissive => "PERMISSIVE"
    | .strict => "STRICT"
  number
    | .unset => 0
    | .disable => 1
    | .permissive => 2
    | .strict => 3

/-- The name of a mode. -/
def MtlsMode.text (m : MtlsMode) : String := Enumeration.name m

/-- Settings of mutual TLS. -/
structure MutualTls where
  /-- Whether it is demanded. -/
  mode : Coded MtlsMode := ⟨0⟩
  deriving DecidableEq, Repr, Inhabited

/-- The two forms of the settings. -/
def MutualTls.schema : Schema MutualTls where
  empty := {}
  members := [member 1 "mode" Coded.shape (·.mode) fun v s ↦ { s with mode := v }]

/-- What a peer authentication policy demands. -/
structure PeerAuthenticationSpec where
  /-- The workloads concerned; all of the namespace when absent. -/
  selector : Option WorkloadSelector := none
  /-- The settings for every port. -/
  mtls : Option MutualTls := none
  /-- The settings for single ports. -/
  portLevelMtls : KeyMap UInt32 MutualTls := ∅
  deriving DecidableEq, Inhabited

namespace PeerAuthenticationSpec

/-- The two forms of the policy. -/
def schema : Schema PeerAuthenticationSpec where
  empty := {}
  members := [
    member 1 "selector" (.optional WorkloadSelector.schema) (·.selector)
      fun v s ↦ { s with selector := v },
    member 2 "mtls" (.optional MutualTls.schema) (·.mtls) fun v s ↦ { s with mtls := v },
    member 3 "portLevelMtls" (.numbered MutualTls.schema) (·.portLevelMtls)
      fun v s ↦ { s with portLevelMtls := v }]

/-- The mode for every port; unset when the policy has no settings. -/
def mode (s : PeerAuthenticationSpec) : MtlsMode :=
  match s.mtls with
  | some mtls => mtls.mode.value
  | none => .unset

/-- Whether the policy concerns every workload of its namespace. -/
def isNamespaceWide (s : PeerAuthenticationSpec) : Bool :=
  match s.selector with
  | some selector => selector.matchLabels.isEmpty
  | none => true

end PeerAuthenticationSpec

end MeshSurvey
