/-!
# What a survey has found

A survey collects facts about the control plane. A fact that is set stays as it is: an update fills
in only what is still missing. A text is set when it is there, even if it is empty; the list of
kubelets is set when it is not empty.
-/

namespace MeshSurvey

/-- Facts about the control plane. -/
structure DiscoveryState where
  /-- The namespace it runs in. -/
  namespaceName : Option String := none
  /-- The address of its discovery service. -/
  discoveryAddress : Option String := none
  /-- The address of its debug endpoint. -/
  debugAddress : Option String := none
  /-- The kubelets that answered. -/
  kubelets : List String := []
  version : Option String := none
  deriving DecidableEq, Repr, Inhabited

/-- Facts that one strategy has found. -/
structure DiscoveryUpdate where
  /-- The namespace found. -/
  namespaceName : Option String := none
  /-- The discovery address found. -/
  discoveryAddress : Option String := none
  /-- The debug address found. -/
  debugAddress : Option String := none
  /-- The kubelets found. -/
  kubelets : List String := []
  /-- The version learned along the way. -/
  version : Option String := none
  deriving DecidableEq, Repr, Inhabited

namespace DiscoveryState

/-- The facts together with those of an update that were still missing. -/
def merge (s : DiscoveryState) (u : DiscoveryUpdate) : DiscoveryState where
  namespaceName := s.namespaceName.or u.namespaceName
  discoveryAddress := s.discoveryAddress.or u.discoveryAddress
  debugAddress := s.debugAddress.or u.debugAddress
  kubelets := if s.kubelets.isEmpty then u.kubelets else s.kubelets
  version := s.version.or u.version

/-- Whether an address of the control plane is known. -/
def hasControlPlane (s : DiscoveryState) : Bool :=
  s.discoveryAddress.isSome || s.debugAddress.isSome

theorem merge_merge_self (s : DiscoveryState) (u : DiscoveryUpdate) :
    (s.merge u).merge u = s.merge u := by
  cases h : s.kubelets <;> simp [merge, h, Option.or_assoc]

end DiscoveryState

end MeshSurvey
