import MeshSurvey.Snapshot

/-!
# What a snapshot holds

A snapshot holds the objects of each kind in the order in which they came, and nothing else: so two
lists of objects make the same snapshot if they have the same objects of each kind in the same
order, however the kinds are mixed and whatever else is among them.
-/

namespace MeshSurvey

theorem MeshObject.isSome_kind?_iff {o : MeshObject} :
    o.kind?.isSome ↔ ∀ object, o ≠ .unrecognized object := by
  cases o with
  | unrecognized object => exact ⟨nofun, fun h ↦ absurd rfl (h object)⟩
  | _ => exact ⟨fun _ _ ↦ nofun, fun _ ↦ rfl⟩

namespace Snapshot

/-- The objects of a kind. -/
def objectsOf (s : Snapshot) : Kind → List MeshObject
  | .namespaces => s.namespaces.map .ofNamespace
  | .peerAuthentications => s.peerAuthentications.map .ofPeerAuthentication
  | .authorizationPolicies => s.authorizationPolicies.map .ofAuthorizationPolicy
  | .destinationRules => s.destinationRules.map .ofDestinationRule
  | .gateways => s.gateways.map .ofGateway
  | .virtualServices => s.virtualServices.map .ofVirtualService

theorem ext_objectsOf {s t : Snapshot} (h : ∀ k, s.objectsOf k = t.objectsOf k) : s = t := by
  have hnamespaces := (List.map_inj_right fun _ _ ↦ MeshObject.ofNamespace.inj).mp (h .namespaces)
  have hpeers := (List.map_inj_right fun _ _ ↦ MeshObject.ofPeerAuthentication.inj).mp
    (h .peerAuthentications)
  have hpolicies := (List.map_inj_right fun _ _ ↦ MeshObject.ofAuthorizationPolicy.inj).mp
    (h .authorizationPolicies)
  have hrules := (List.map_inj_right fun _ _ ↦ MeshObject.ofDestinationRule.inj).mp
    (h .destinationRules)
  have hgateways := (List.map_inj_right fun _ _ ↦ MeshObject.ofGateway.inj).mp (h .gateways)
  have hservices := (List.map_inj_right fun _ _ ↦ MeshObject.ofVirtualService.inj).mp
    (h .virtualServices)
  cases s
  cases t
  simp only at hnamespaces hpeers hpolicies hrules hgateways hservices
  rw [hnamespaces, hpeers, hpolicies, hrules, hgateways, hservices]

theorem objectsOf_push (s : Snapshot) (o : MeshObject) (k : Kind) :
    (s.push o).objectsOf k = s.objectsOf k ++ [o].filter (·.kind? = some k) := by
  cases o <;> cases k <;> simp [push, objectsOf, MeshObject.kind?]

theorem objectsOf_foldl_push (objects : List MeshObject) (s : Snapshot) (k : Kind) :
    (objects.foldl push s).objectsOf k = s.objectsOf k ++ objects.filter (·.kind? = some k) := by
  induction objects generalizing s with
  | nil => rw [List.foldl_nil, List.filter_nil, List.append_nil]
  | cons o objects ih =>
    rw [List.foldl_cons, ih, objectsOf_push, List.append_assoc, ← List.filter_append,
      List.singleton_append]

/-- **A snapshot holds of each kind the objects that came, in their order.** -/
theorem objectsOf_ofObjects (objects : List MeshObject) (k : Kind) :
    (ofObjects objects).objectsOf k = objects.filter (·.kind? = some k) := by
  have hempty : empty.objectsOf k = [] := by cases k <;> rfl
  rw [ofObjects, objectsOf_foldl_push, hempty, List.nil_append]

/-- The order of objects of different kinds does not matter. -/
theorem ofObjects_eq_of_filter_eq {objects objects' : List MeshObject}
    (h : ∀ k : Kind, objects.filter (·.kind? = some k) = objects'.filter (·.kind? = some k)) :
    ofObjects objects = ofObjects objects' := by
  refine ext_objectsOf fun k ↦ ?_
  rw [objectsOf_ofObjects, objectsOf_ofObjects, h]

/-- Nothing but the order of objects of one kind matters. -/
theorem ofObjects_eq_iff {objects objects' : List MeshObject} :
    ofObjects objects = ofObjects objects' ↔
      ∀ k : Kind, objects.filter (·.kind? = some k) = objects'.filter (·.kind? = some k) := by
  refine ⟨fun h k ↦ ?_, ofObjects_eq_of_filter_eq⟩
  rw [← objectsOf_ofObjects, h, objectsOf_ofObjects]

theorem exists_mem_objectsOf_iff {objects : List MeshObject} {o : MeshObject} :
    (∃ k, o ∈ (ofObjects objects).objectsOf k) ↔ o ∈ objects ∧ ∀ d, o ≠ .unrecognized d := by
  simp only [objectsOf_ofObjects, List.mem_filter, decide_eq_true_eq, exists_and_left,
    ← Option.isSome_iff_exists, MeshObject.isSome_kind?_iff]

theorem size_foldl_push (objects : List MeshObject) (s : Snapshot) :
    (objects.foldl push s).size = s.size + objects.countP (·.kind?.isSome) := by
  induction objects generalizing s with
  | nil => rfl
  | cons o objects ih => rw [List.foldl_cons, ih, size_push, List.countP_cons]; omega

theorem size_ofObjects (objects : List MeshObject) :
    (ofObjects objects).size = objects.countP (·.kind?.isSome) := by
  have hempty : empty.size = 0 := rfl
  rw [ofObjects, size_foldl_push, hempty, Nat.zero_add]

end Snapshot

end MeshSurvey
