import Mathlib.Data.List.Forall2
import MeshSurvey.Proofs.Collect
import MeshSurvey.Proofs.Mesh.Item

/-!
# Items through a whole response

A control plane answers a request for a kind with one response, whose resources are the envelopes of
its items of that kind. The response is encoded, decoded by the client, and read as objects of the
kind. What comes out is one object for each item, in the same order, that shows all of the item:
its kind, what of its metadata is not empty, and its body.

The texts that name types, in the resources and in the bodies, are left open: no reader looks at
them.
-/

namespace MeshSurvey

open Kubernetes (ObjectMeta)

/-- An object specifies the body of an item. For a namespace these are its finalizers, which are
absent when there are none. -/
inductive MeshObject.Specifies : MeshObject → (k : Kind) → k.Body → Prop where
  | namespaces {m : ObjectMeta} {body : NamespaceBody} :
    Specifies
      (.ofNamespace ⟨m, some ⟨if body.finalizers = [] then none else some body.finalizers⟩, none⟩)
      .namespaces body
  | peerAuthentications {m : ObjectMeta} {spec : PeerAuthenticationSpec} :
    Specifies (.ofPeerAuthentication ⟨m, spec⟩) .peerAuthentications spec
  | authorizationPolicies {m : ObjectMeta} {spec : AuthorizationPolicySpec} :
    Specifies (.ofAuthorizationPolicy ⟨m, spec⟩) .authorizationPolicies spec
  | destinationRules {m : ObjectMeta} {spec : DestinationRuleSpec} :
    Specifies (.ofDestinationRule ⟨m, spec⟩) .destinationRules spec
  | gateways {m : ObjectMeta} {spec : GatewaySpec} :
    Specifies (.ofGateway ⟨m, spec⟩) .gateways spec
  | virtualServices {m : ObjectMeta} {spec : VirtualServiceSpec} :
    Specifies (.ofVirtualService ⟨m, spec⟩) .virtualServices spec

theorem Kind.namespaceOfBody_eq (m : ObjectMeta) (body : NamespaceBody) : namespaceOfBody m body =
    ⟨m, some ⟨if body.finalizers = [] then none else some body.finalizers⟩, none⟩ := by
  simp only [namespaceOfBody, List.isEmpty_iff]

theorem Kind.metadata_ofBody (k : Kind) (m : ObjectMeta) (body : k.Body) :
    (k.ofBody m body).metadata = m := by
  cases k <;> rfl

theorem MeshObject.specifies_iff {o : MeshObject} {k : Kind} {body : k.Body} :
    o.Specifies k body ↔ o = k.ofBody o.metadata body := by
  constructor
  · intro h
    cases h with
    | namespaces => exact congrArg ofNamespace (Kind.namespaceOfBody_eq _ _).symm
    | peerAuthentications => rfl
    | authorizationPolicies => rfl
    | destinationRules => rfl
    | gateways => rfl
    | virtualServices => rfl
  · intro h
    rw [h]
    cases k with
    | namespaces =>
      have heq : Kind.namespaces.ofBody o.metadata body = .ofNamespace ⟨o.metadata, _, none⟩ :=
        congrArg ofNamespace (Kind.namespaceOfBody_eq _ _)
      rw [heq]
      exact .namespaces
    | peerAuthentications => exact .peerAuthentications
    | authorizationPolicies => exact .authorizationPolicies
    | destinationRules => exact .destinationRules
    | gateways => exact .gateways
    | virtualServices => exact .virtualServices

namespace Item

/-- The metadata that shows an item: what is not empty of the item's own, and nothing else. -/
def shownMeta (i : Item) : ObjectMeta where
  name := some i.name
  namespaceName := if i.space = "" then none else some i.space
  labels := if i.labels = ∅ then none else some i.labels
  annotations := if i.annotations = ∅ then none else some i.annotations
  resourceVersion := if i.version = "" then none else some i.version

/-- An object shows an item: it is of the item's kind, and has its metadata and its body. -/
structure ShownBy (i : Item) (o : MeshObject) : Prop where
  kind?_eq : o.kind? = some i.kind
  metadata_eq : o.metadata = i.shownMeta
  specifies : o.Specifies i.kind i.body

theorem presentMap_eq (m : KeyMap String String) :
    EnvelopedResource.presentMap m = if m = ∅ then none else some m := by
  rcases m with ⟨_ | ⟨e, es⟩, hascending⟩
  · rfl
  · have hne : (⟨e :: es, hascending⟩ : KeyMap String String) ≠ ∅ :=
      fun h ↦ List.cons_ne_nil e es (congrArg KeyMap.entries h)
    rw [if_neg hne]
    rfl

theorem objectMeta_eq (i : Item) : i.objectMeta = i.shownMeta := by
  rw [objectMeta, EnvelopedResource.objectMeta, presentMap_eq, presentMap_eq]
  rfl

/-- An item is shown by one object. -/
theorem shownBy_iff {i : Item} {o : MeshObject} : i.ShownBy o ↔ o = i.object := by
  constructor
  · rintro ⟨_, hmetadata, hspecifies⟩
    rw [object, objectMeta_eq, ← hmetadata]
    exact MeshObject.specifies_iff.mp hspecifies
  · rintro rfl
    have hmetadata : i.object.metadata = i.objectMeta := i.kind.metadata_ofBody _ _
    refine ⟨i.kind.kind?_ofBody _ _, hmetadata.trans i.objectMeta_eq, ?_⟩
    rw [MeshObject.specifies_iff, hmetadata]
    rfl

/-- Resources that are envelopes of items of a kind are read as the objects of the items. -/
theorem map_ofEnvelopeBytes_eq {k : Kind} {items : List Item} {resources : List AnyMessage}
    (h : List.Forall₂ (fun i any ↦ i.WrittenAs any.value) items resources)
    (hkind : ∀ i ∈ items, i.kind = k)
    (hcount : ∀ any ∈ resources, any.value.length < UInt64.size) :
    resources.map (fun any ↦ k.ofEnvelopeBytes any.value) = (items.map object).map .ok := by
  induction h with
  | nil => rfl
  | @cons i any items resources hwritten _ ih =>
    obtain ⟨rfl, hkind⟩ := List.forall_mem_cons.mp hkind
    obtain ⟨hany, hcount⟩ := List.forall_mem_cons.mp hcount
    rw [List.map_cons, List.map_cons, List.map_cons, hwritten.ofEnvelopeBytes_eq hany,
      ih hkind hcount]

end Item

theorem DiscoveryResponse.length_value_le {response : DiscoveryResponse} {any : AnyMessage}
    (h : any ∈ response.resources) : any.value.length ≤ (wire.encode response).length := by
  refine Nat.le_trans any.length_value_le ?_
  refine Wire.Message.length_le_of_mem_write (List.mem_cons_of_mem _ List.mem_cons_self) ?_
  exact List.mem_map.mpr ⟨any, h, rfl⟩

/-- **Items come out of a response as they went in.** A control plane may write the metadata of an
item in any order and name types as it likes. Once the response has been encoded and decoded, it is
read as one object for each item, in the same order, and each shows its item. -/
theorem Kind.ofResponse_decode_encode (k : Kind) {items : List Item}
    (hkind : ∀ i ∈ items, i.kind = k) {response : DiscoveryResponse}
    (hresources : List.Forall₂ (fun i any ↦ i.WrittenAs any.value) items response.resources)
    (hcount : (DiscoveryResponse.wire.encode response).length < UInt64.size) :
    ∃ objects,
      (DiscoveryResponse.wire.decode (DiscoveryResponse.wire.encode response)).map k.ofResponse =
        some (.ok objects) ∧
      List.Forall₂ Item.ShownBy items objects := by
  have hdecode : DiscoveryResponse.wire.decode (DiscoveryResponse.wire.encode response) =
      some response :=
    DiscoveryResponse.wire_lawful.restores_message.decode_encode (by decide) hcount
  have hobjects : k.ofResponse response = .ok (items.map Item.object) := by
    refine mapM_eq_ok_iff.mpr (Item.map_ofEnvelopeBytes_eq hresources hkind fun any hany ↦ ?_)
    exact Nat.lt_of_le_of_lt (DiscoveryResponse.length_value_le hany) hcount
  refine ⟨items.map Item.object, ?_, ?_⟩
  · rw [hdecode, Option.map_some, hobjects]
  · exact List.forall₂_map_right_iff.mpr (List.forall₂_same.mpr fun i _ ↦ Item.shownBy_iff.mpr rfl)

/-- A namespace with two labels, whose envelope has them in descending order, comes out of a
response that names no types. -/
theorem Kind.ofResponse_decode_encode_descending :
    let i : Item := {
      kind := .namespaces, space := "", name := "default", version := "7"
      labels := .ofList [("a", "1"), ("b", "2")], annotations := ∅
      body := NamespaceBody.mk [], bodyType := "", space_noSlash := by decide
      name_noSlash := by decide, name_ne := by decide, space_ne := by decide }
    let descending := (Metadata.wire.records i.metadata).reverse
    let bytes := Wire.encodeRecords [(1, .bytes (Wire.encodeRecords descending)),
      (2, .bytes (AnyMessage.wire.encode i.payload))]
    let response : DiscoveryResponse := { resources := [⟨"", bytes⟩] }
    bytes ≠ i.bytes ∧ i.WrittenAs bytes ∧
      (DiscoveryResponse.wire.encode response).length < UInt64.size ∧
      ∃ o, (DiscoveryResponse.wire.decode (DiscoveryResponse.wire.encode response)).map
          Kind.namespaces.ofResponse = some (.ok [o]) ∧ i.ShownBy o := by
  intro i descending bytes response
  have hwritten : i.WrittenAs bytes := ⟨descending, List.reverse_perm _, rfl⟩
  have hcount : (DiscoveryResponse.wire.encode response).length < UInt64.size := by decide
  have hkind : ∀ j ∈ [i], j.kind = .namespaces := List.forall_mem_singleton.mpr rfl
  have hresources : List.Forall₂ (fun j any ↦ j.WrittenAs any.value) [i] response.resources :=
    .cons hwritten .nil
  obtain ⟨objects, hobjects, hshown⟩ :=
    Kind.ofResponse_decode_encode .namespaces hkind hresources hcount
  obtain _ | ⟨hshown, _ | _⟩ := hshown
  exact ⟨by decide, hwritten, hcount, _, hobjects, hshown⟩

end MeshSurvey
