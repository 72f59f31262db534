import MeshSurvey.Proofs.Kubernetes.Object
import MeshSurvey.Proofs.Mesh.Catalog
import MeshSurvey.Proofs.Mesh.Item

/-!
# Items in JSON

The JSON form of an item's object names its kind and version, and so the catalog of all kinds
recognizes it as what it is, whatever kinds it stands beside.
-/

namespace MeshSurvey

open Kubernetes (ObjectMeta ReadInTurn)

/-! ## Metadata -/

/-- The metadata of an item is restored. The fields that an envelope cannot set are absent. -/
theorem Item.objectMeta_restoresAt (i : Item) : ObjectMeta.codec.RestoresAt 2 i.objectMeta := by
  have htexts : Kubernetes.texts.Restores 1 :=
    Json.Codec.map_restores Json.Codec.KeyCodec.text_restores Json.Codec.text_restores
  have htext : Json.Codec.text.Restores 1 := Json.Codec.text_restores
  refine Kubernetes.objectCodec_restoresAt (by decide) ?_
  -- annotations, labels, the name, the namespace and the version, with gaps between them
  refine .optional (fun m _ ↦ htexts.at m) (fun _ ↦ rfl) rfl ?_
  refine .absent rfl <| .absent rfl <| .absent rfl <| .absent rfl <| .absent rfl <| .absent rfl ?_
  refine .optional (fun m _ ↦ htexts.at m) (fun _ ↦ rfl) rfl ?_
  refine .absent rfl ?_
  refine .optional (fun s _ ↦ htext.at s) (fun _ ↦ rfl) rfl ?_
  refine .optional (fun s _ ↦ htext.at s) (fun _ ↦ rfl) rfl ?_
  refine .absent rfl ?_
  refine .optional (fun s _ ↦ htext.at s) (fun _ ↦ rfl) rfl ?_
  exact .absent rfl <| .absent rfl <| .nil _

/-! ## Objects of a kind -/

/-- The JSON form of an object names the kind, and is read as one of the kind. -/
structure Kind.ReadsBack (k : Kind) (o : MeshObject) : Prop where
  /-- The JSON form can be read. -/
  fits : o.toJson.Fits 9
  /-- It names the version. -/
  member?_apiVersion : o.toJson.arranged.member? "apiVersion" = some (.string k.apiVersion)
  /-- It names the kind. -/
  member?_kind : o.toJson.arranged.member? "kind" = some (.string k.name)
  /-- It is read as what it was. -/
  ofJson_toJson : k.ofJson o.toJson.arranged = .ok o

namespace Custom

variable {σ : Type} {k : Kind} {spec : Json.Codec σ} {o : Custom σ}

theorem arranged_toJson : (o.toJson k spec).arranged = .object [
    ("apiVersion", .string k.apiVersion), ("kind", .string k.name),
    ("metadata", (ObjectMeta.codec.write o.metadata).arranged),
    ("spec", (spec.write o.spec).arranged)] :=
  Json.arranged_object_of_ascending (by decide :
    ["apiVersion", "kind", "metadata", "spec"].Pairwise fun a b ↦ compare a b = .lt)

theorem readsBack {wrap : Custom σ → MeshObject}
    (hread : ∀ v, k.ofJson v = (ofJson spec v).map wrap)
    (htoJson : (wrap o).toJson = o.toJson k spec)
    (hmetadata : ObjectMeta.codec.RestoresAt 8 o.metadata) (hspec : spec.RestoresAt 8 o.spec) :
    k.ReadsBack (wrap o) where
  fits := by
    have hmembers : ∀ m ∈ [("apiVersion", Json.string k.apiVersion), ("kind", .string k.name),
        ("metadata", ObjectMeta.codec.write o.metadata), ("spec", spec.write o.spec)],
        m.2.Fits 8 := by
      refine List.forall_mem_cons.mpr ⟨trivial, List.forall_mem_cons.mpr ⟨trivial, ?_⟩⟩
      exact List.forall_mem_cons.mpr ⟨hmetadata.fits, List.forall_mem_singleton.mpr hspec.fits⟩
    rw [htoJson]
    exact hmembers
  member?_apiVersion := by
    rw [htoJson, arranged_toJson]
    rfl
  member?_kind := by
    rw [htoJson, arranged_toJson]
    rfl
  ofJson_toJson := by
    have hofJson : ofJson spec (o.toJson k spec).arranged = .ok o := by
      rw [arranged_toJson]
      simp [ofJson, readMembers, hmetadata.read_write, hspec.read_write]
    rw [hread, htoJson, hofJson]
    rfl

end Custom

theorem namespaceSpec_restoresAt (spec : Kubernetes.NamespaceSpec) :
    Kubernetes.NamespaceSpec.codec.RestoresAt 2 spec := by
  have hlist : (Json.Codec.list .text).Restores 1 :=
    Json.Codec.list_restores Json.Codec.text_restores
  refine Kubernetes.objectCodec_restoresAt (by decide) ?_
  exact .optional (fun finalizers _ ↦ hlist.at finalizers) (fun _ ↦ rfl) rfl (.nil _)

theorem Kind.namespaces_readsBack {m : ObjectMeta} (hmetadata : ObjectMeta.codec.RestoresAt 2 m)
    (body : NamespaceBody) :
    namespaces.ReadsBack (.ofNamespace (namespaceOfBody m body)) := by
  have hcodec : Kubernetes.Namespace.codec.RestoresAt 3 (namespaceOfBody m body) := by
    refine Kubernetes.objectCodec_restoresAt (by decide) ?_
    refine .constant _ _ <| .constant _ _ <| .required hmetadata rfl ?_
    refine .optional (fun spec _ ↦ namespaceSpec_restoresAt spec) (fun _ ↦ rfl) rfl ?_
    exact .absent rfl (.nil _)
  have harranged : ∃ members, (MeshObject.ofNamespace (namespaceOfBody m body)).toJson.arranged =
      .object (("apiVersion", .string "v1") :: ("kind", .string "Namespace") :: members) :=
    ⟨_, Kubernetes.arranged_writeObject (by decide)⟩
  obtain ⟨members, hmembers⟩ := harranged
  refine ⟨hcodec.fits.mono (by decide), ?_, ?_, congrArg (Except.map _) hcodec.read_write⟩
  · rw [hmembers]
    rfl
  · rw [hmembers]
    rfl

theorem Kind.ofBody_readsBack (k : Kind) {m : ObjectMeta}
    (hmetadata : ObjectMeta.codec.RestoresAt 2 m) (body : k.Body) :
    k.ReadsBack (k.ofBody m body) := by
  have hmetadata' : ObjectMeta.codec.RestoresAt 8 m := hmetadata.mono (by decide)
  cases k with
  | namespaces => exact namespaces_readsBack hmetadata body
  | peerAuthentications =>
    have hspec := PeerAuthenticationSpec.schema_lawful.json.at body
    exact Custom.readsBack (fun _ ↦ rfl) rfl hmetadata' (hspec.mono (by decide))
  | authorizationPolicies =>
    have hspec := AuthorizationPolicySpec.schema_lawful.json.at body
    exact Custom.readsBack (fun _ ↦ rfl) rfl hmetadata' (hspec.mono (by decide))
  | destinationRules =>
    have hspec := DestinationRuleSpec.schema_lawful.json.at body
    exact Custom.readsBack (fun _ ↦ rfl) rfl hmetadata' (hspec.mono (by decide))
  | gateways =>
    have hspec := GatewaySpec.schema_lawful.json.at body
    exact Custom.readsBack (fun _ ↦ rfl) rfl hmetadata' (hspec.mono (by decide))
  | virtualServices =>
    have hspec := VirtualServiceSpec.schema_lawful.json.at body
    exact Custom.readsBack (fun _ ↦ rfl) rfl hmetadata' hspec

/-! ## Recognition -/

/-- **The object of an item is recognized in JSON.** -/
theorem Item.decodeJson_toJson (i : Item) :
    Catalog.mesh.decodeJson i.object.toJson.arranged = .ok i.object := by
  have h := i.kind.ofBody_readsBack i.objectMeta_restoresAt i.body
  have hk : i.kind ∈ Catalog.mesh.kinds := i.kind.mem_all
  rw [object, Catalog.decodeJson_of_mem hk ⟨h.member?_apiVersion, h.member?_kind⟩
    i.kind.isGroupOf_apiVersion, h.ofJson_toJson]
  rfl

end MeshSurvey
