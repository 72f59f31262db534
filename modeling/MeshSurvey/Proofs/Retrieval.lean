import MeshSurvey.Audit.Registry
import MeshSurvey.Discovery.DebugEndpoint
import MeshSurvey.Proofs.Client.Resources
import MeshSurvey.Proofs.Mesh.Json
import MeshSurvey.Proofs.Mesh.Response
import MeshSurvey.Proofs.Snapshot

/-!
# Both sources give the same snapshot

A control plane shows the items that it holds in two ways. On the discovery stream it answers a
request for a kind with the envelopes of the items of that kind. On the debug endpoint it serves one
JSON array of the objects that come out of these envelopes, kinds mixed in any way, and perhaps
objects of kinds that nobody knows among them. What is taken from the one and from the other makes
the same snapshot, as long as the items of each kind are in the same order.
-/

namespace MeshSurvey

variable {σ τ κ ι : Type}

/-! ## The discovery stream -/

namespace Client

/-- The peer of a client accepts a request for a type, and then a response comes from it. -/
inductive Answers (net : Network σ κ) (typeUrl : String) (c : Client κ) (n : σ)
    (response : DiscoveryResponse) (n' : σ) : Prop where
  /-- The stream is opened with the request. -/
  | idle {connection : κ} {n₁ n₂ : σ} (hstream : c.stream = .idle connection)
    (hsend : (net.send connection (c.request typeUrl) c.config.requestTimeout).run n =
      (.value (), n₁))
    (hopen : (net.openStream connection c.config.requestTimeout).run n₁ = (.value (), n₂))
    (hreceive : (net.receive connection c.config.requestTimeout).run n₂ = (.value response, n'))
  /-- The stream is open already. -/
  | streaming {connection : κ} {n₁ : σ} (hstream : c.stream = .streaming connection)
    (hsend : (net.send connection (c.request typeUrl) c.config.requestTimeout).run n =
      (.value (), n₁))
    (hreceive : (net.receive connection c.config.requestTimeout).run n₁ = (.value response, n'))

theorem Answers.run_exchange {net : Network σ κ} {typeUrl : String} {c : Client κ} {n n' : σ}
    {response : DiscoveryResponse} (h : Answers net typeUrl c n response n')
    (htype : response.typeUrl = typeUrl) :
    ((exchange net typeUrl).run.run c).run n = ((.ok response, c.opened), n') := by
  have hconverse : (c.converse net typeUrl).run.run n = (.ok response, n') := by
    cases h with
    | idle hstream hsend hopen hreceive =>
      rw [request] at hsend
      simp only [converse, hstream, Action.run_bind, Action.run_pure, Action.run_liftM,
        Action.run_ofExcept, hsend, hopen, hreceive, awaitReply, if_neg (not_not_intro htype)]
    | streaming hstream hsend hreceive =>
      rw [request] at hsend
      simp only [converse, hstream, Action.run_bind, Action.run_pure, Action.run_liftM,
        Action.run_ofExcept, hsend, hreceive, awaitReply, if_neg (not_not_intro htype)]
  exact run_exchange_of_run_converse hconverse

/-- The peer of a client answers a request for each kind of a list in turn, with the envelopes of
the items of the kind, written as the peer likes. -/
inductive AnswersInTurn (net : Network σ κ) (items : List Item) :
    List Kind → Client κ → σ → σ → Prop where
  /-- There is nothing to answer. -/
  | nil (c : Client κ) (n : σ) : AnswersInTurn net items [] c n n
  /-- The request for the first kind is answered, and then those for the others are. -/
  | cons {k : Kind} {kinds : List Kind} {c : Client κ} {n n₁ n' : σ} {response : DiscoveryResponse}
    (hanswer : Answers net k.typeUrl c n response n₁) (htype : response.typeUrl = k.typeUrl)
    (hresources : List.Forall₂ (fun i any ↦ i.WrittenAs any.value)
      (items.filter (·.kind = k)) response.resources)
    (hcount : ∀ any ∈ response.resources, any.value.length < UInt64.size)
    (hothers : AnswersInTurn net items kinds c.opened n₁ n') :
    AnswersInTurn net items (k :: kinds) c n n'

/-- Kinds whose requests are answered in turn are fetched in turn, with the objects of the items. -/
theorem AnswersInTurn.fetchedInTurn {net : Network σ κ} {items : List Item} {kinds : List Kind}
    {c : Client κ} {n n' : σ} (h : AnswersInTurn net items kinds c n n') :
    ∃ c', FetchedInTurn net kinds c n
      (kinds.map fun k ↦ (items.filter (·.kind = k)).map Item.object) c' n' := by
  induction h with
  | nil c n => exact ⟨c, .nil c n⟩
  | @cons k kinds c n n₁ n' response hanswer htype hresources hcount _ ih =>
    obtain ⟨c', hothers⟩ := ih
    have hkind : ∀ i ∈ items.filter (·.kind = k), i.kind = k := by
      intro i hi
      exact of_decide_eq_true (List.mem_filter.mp hi).2
    have hobjects := Item.map_ofEnvelopeBytes_eq hresources hkind hcount
    exact ⟨c', .cons (hanswer.run_exchange htype) hobjects hothers⟩

end Client

namespace Item

@[simp] theorem kind?_object (i : Item) : i.object.kind? = some i.kind :=
  i.kind.kind?_ofBody i.objectMeta i.body

theorem filter_map_object (items : List Item) (k : Kind) :
    (items.map object).filter (·.kind? = some k) = (items.filter (·.kind = k)).map object := by
  have hkind : (fun o : MeshObject ↦ decide (o.kind? = some k)) ∘ object =
      fun i ↦ decide (i.kind = k) := by
    funext i
    simp only [Function.comp_apply, kind?_object, Option.some_inj]
  rw [List.filter_map, hkind]

/-- The items kind by kind, as they come over the stream. -/
def byKind (items : List Item) : List Item :=
  Kind.all.flatMap fun k ↦ items.filter (·.kind = k)

theorem filter_byKind (items : List Item) (k : Kind) :
    (byKind items).filter (·.kind = k) = items.filter (·.kind = k) := by
  have hplace : ∀ k' : Kind, (items.filter (·.kind = k')).filter (·.kind = k) =
      if k' = k then items.filter (·.kind = k) else [] := by
    intro k'
    rw [List.filter_filter]
    by_cases hk : k' = k
    · rw [if_pos hk, hk]
      simp only [Bool.and_self]
    · rw [if_neg hk, List.filter_eq_nil_iff]
      intro i _ hi
      simp only [Bool.and_eq_true, decide_eq_true_eq] at hi
      exact hk (hi.2.symm.trans hi.1)
  simp only [byKind, Kind.all, List.flatMap_cons, List.flatMap_nil, List.filter_append,
    List.filter_nil, hplace]
  cases k <;> simp

end Item

/-! ## The debug endpoint -/

/-- What the debug endpoint serves one object of. -/
inductive Served where
  /-- An item. -/
  | item (i : Item)
  /-- An object that is recognized as of no known kind. -/
  | other (v : Json) (object : Dynamic) (hfits : v.Fits 126)
    (hdecode : Catalog.mesh.decodeJson v.arranged = .ok (.unrecognized object))

namespace Served

/-- The JSON that is served. -/
def json : Served → Json
  | item i => i.object.toJson
  | other v _ _ _ => v

/-- The item, if it is one. -/
def item? : Served → Option Item
  | item i => some i
  | other .. => none

/-- The object that is read. -/
def object : Served → MeshObject
  | item i => i.object
  | other _ object _ _ => .unrecognized object

theorem fits_json (s : Served) : s.json.Fits 126 := by
  cases s with
  | item i =>
    exact (i.kind.ofBody_readsBack i.objectMeta_restoresAt i.body).fits.mono (by decide)
  | other v object hfits _ => exact hfits

theorem decodeJson_json (s : Served) :
    Catalog.mesh.decodeJson s.json.arranged = .ok s.object := by
  cases s with
  | item i => exact i.decodeJson_toJson
  | other v object _ hdecode => exact hdecode

theorem filter_map_object (served : List Served) (k : Kind) :
    (served.map object).filter (·.kind? = some k) =
      ((served.filterMap item?).filter (·.kind = k)).map Item.object := by
  rw [← Item.filter_map_object]
  induction served with
  | nil => rfl
  | cons s served ih =>
    cases s with
    | item i =>
      rw [List.filterMap_cons_some (rfl : item? (item i) = some i), List.map_cons, List.map_cons,
        List.filter_cons, List.filter_cons, ih]
      rfl
    | other v object hfits hdecode =>
      rw [List.filterMap_cons_none (rfl : item? (other v object hfits hdecode) = none), ← ih]
      rfl

end Served

theorem DebugEndpoint.objectsOfBody_text (served : List Served) :
    objectsOfBody .mesh
      (Wire.Codec.bytesOfText (Json.array (served.map Served.json)).text) =
        .ok (served.map Served.object) := by
  have hfits : (Json.array (served.map Served.json)).Fits Json.Reader.maxDepth := by
    intro v hv
    obtain ⟨s, _, rfl⟩ := List.mem_map.mp hv
    exact s.fits_json
  have hitems : ((served.map Served.json).map Json.arranged).map Catalog.mesh.decodeJson =
      (served.map Served.object).map .ok := by
    rw [List.map_map, List.map_map, List.map_map]
    exact List.map_congr_left fun s _ ↦ s.decodeJson_json
  rw [objectsOfBody, Json.ofBytes?_bytesOfText_text hfits, Json.arranged_array]
  exact mapM_eq_ok_iff.mpr hitems

theorem DebugEndpoint.run_objects {net : Network σ κ} {endpoint : DebugEndpoint} {n n' : σ}
    {response : HttpResponse} (catalog : Catalog)
    (hhttp : (net.http .get endpoint.url endpoint.timeout).run n = (some response, n'))
    (hstatus : Network.isErrorStatus response.status = false) :
    (endpoint.objects net catalog).run.run n = (objectsOfBody catalog response.body, n') := by
  have hrequest : (net.request .get endpoint.url endpoint.timeout).run.run n =
      (.ok response.body, n') := by
    simp only [Network.request, Action.run_bind, Action.run_liftM, hhttp,
      if_neg (ne_true_of_eq_false hstatus), Action.run_pure]
  simp only [objects, Action.run_bind, Action.run_ofExcept, hrequest]

/-! ## Both sources -/

/-- **Both sources give the same snapshot.** Let the peer of a client answer the requests for all
kinds with the envelopes of some items, whose labels and annotations may be written in any order,
and let a debug endpoint serve the objects of these items, with the items of each kind in the same
order, and whatever else. Then the client and the endpoint both return the objects. The snapshots of
them are the same, and so every registry of auditors reports the same on both. -/
theorem same_snapshot (net : Network σ κ) {c : Client κ} (hcatalog : c.catalog = .mesh) {n n' : σ}
    {items : List Item} (hstream : Client.AnswersInTurn net items Kind.all c n n')
    (net' : Network τ ι) {endpoint : DebugEndpoint} {m m' : τ} {served : List Served}
    (hserved : ∀ k : Kind,
      (served.filterMap Served.item?).filter (·.kind = k) = items.filter (·.kind = k))
    {response : HttpResponse}
    (hhttp : (net'.http .get endpoint.url endpoint.timeout).run m = (some response, m'))
    (hstatus : Network.isErrorStatus response.status = false)
    (hbody : response.body =
      Wire.Codec.bytesOfText (Json.array (served.map Served.json)).text) :
    ∃ c', ((Client.resources net).run.run c).run n =
        ((.ok ((Item.byKind items).map Item.object), c'), n') ∧
      (endpoint.objects net' .mesh).run.run m = (.ok (served.map Served.object), m') ∧
      Snapshot.ofObjects ((Item.byKind items).map Item.object) =
        Snapshot.ofObjects (served.map Served.object) ∧
      ∀ (auditors : AuditorRegistry) (rootNamespace : String) (version : Option String),
        auditors.run
            ⟨Snapshot.ofObjects ((Item.byKind items).map Item.object), rootNamespace, version⟩ =
          auditors.run ⟨Snapshot.ofObjects (served.map Served.object), rootNamespace, version⟩ := by
  obtain ⟨c', hturn⟩ := hstream.fetchedInTurn
  have hresources := Client.run_fetchAll_of_fetchedInTurn hturn
  have hobjects := DebugEndpoint.run_objects .mesh hhttp hstatus
  rw [hbody, DebugEndpoint.objectsOfBody_text] at hobjects
  have hsame : Snapshot.ofObjects ((Item.byKind items).map Item.object) =
      Snapshot.ofObjects (served.map Served.object) := by
    refine Snapshot.ofObjects_eq_of_filter_eq fun k ↦ ?_
    rw [Item.filter_map_object, Served.filter_map_object, Item.filter_byKind, hserved]
  -- the catalog lists the kinds in the order of `byKind`
  refine ⟨c', ?_, hobjects, hsame, fun auditors rootNamespace version ↦ by rw [hsame]⟩
  rw [Client.run_resources, hcatalog, Item.byKind, List.map_flatMap]
  exact hresources

/-- A namespace that a control plane may hold. -/
def defaultNamespace : Item where
  kind := .namespaces
  space := ""
  name := "default"
  version := "7"
  labels := ∅
  annotations := ∅
  body := NamespaceBody.mk ["kubernetes"]
  bodyType := ""
  space_noSlash := by decide
  name_noSlash := by decide
  name_ne := by decide
  space_ne := by decide

/-- A gateway that a control plane may hold. -/
def ingressGateway : Item where
  kind := .gateways
  space := "default"
  name := "ingress"
  version := ""
  labels := .ofList [("app", "ingress"), ("tier", "edge")]
  annotations := ∅
  body := GatewaySpec.mk [{ hosts := ["*"], bind := "0.0.0.0" }] ∅
  bodyType := ""
  space_noSlash := by decide
  name_noSlash := by decide
  name_ne := by decide
  space_ne := by decide

/-- Both sources of a namespace and a gateway, where the envelope of the gateway has its labels in
descending order, and the endpoint serves the gateway first and an object of an unknown kind between
the two. -/
theorem same_snapshot_of_two_items :
    let items := [defaultNamespace, ingressGateway]
    let descending (i : Item) := Wire.encodeRecords
      [(1, .bytes (Wire.encodeRecords (Metadata.wire.records i.metadata).reverse)),
        (2, .bytes (AnyMessage.wire.encode i.payload))]
    let pod := Json.object [("apiVersion", .string "v1"), ("kind", .string "Pod")]
    let answers : List (Reply DiscoveryResponse) := Kind.all.map fun k ↦
      .value ⟨"1", (items.filter (·.kind = k)).map fun i ↦ ⟨"", descending i⟩, k.typeUrl, "", none⟩
    let body := Wire.Codec.bytesOfText
      (Json.array [ingressGateway.object.toJson, pod, defaultNamespace.object.toJson]).text
    let net := Network.monologue body
    let c : Client Unit := ⟨"istiod", DiscoveryConfig.client {}, .mesh, .idle ()⟩
    let endpoint : DebugEndpoint := ⟨"http://istiod", DiscoveryConfig.probeTimeout {}⟩
    descending ingressGateway ≠ ingressGateway.bytes ∧
      Client.AnswersInTurn net items Kind.all c answers [] ∧
      ∃ c' objects, ((Client.resources net).run.run c).run answers =
          ((.ok (items.map Item.object), c'), []) ∧
        (endpoint.objects net .mesh).run.run [] = (.ok objects, []) ∧
        Snapshot.ofObjects (items.map Item.object) = Snapshot.ofObjects objects := by
  intro items descending pod answers body net c endpoint
  have hwritten : ∀ i : Item, i.WrittenAs (descending i) := by
    intro i
    exact ⟨_, List.reverse_perm _, rfl⟩
  have hresources : ∀ k : Kind, List.Forall₂ (fun i any ↦ i.WrittenAs any.value)
      (items.filter (·.kind = k))
      ((items.filter (·.kind = k)).map fun i ↦ (⟨"", descending i⟩ : AnyMessage)) := by
    intro k
    exact List.forall₂_map_right_iff.mpr (List.forall₂_same.mpr fun i _ ↦ hwritten i)
  have hcount : ∀ k : Kind, ∀ any ∈ (items.filter (·.kind = k)).map fun i ↦
      (⟨"", descending i⟩ : AnyMessage), any.value.length < UInt64.size := by
    intro k
    cases k <;> decide
  have hstream : Client.AnswersInTurn net items Kind.all c answers [] := by
    refine .cons (.idle rfl rfl rfl rfl) rfl (hresources _) (hcount _) ?_
    refine .cons (.streaming rfl rfl rfl) rfl (hresources _) (hcount _) ?_
    refine .cons (.streaming rfl rfl rfl) rfl (hresources _) (hcount _) ?_
    refine .cons (.streaming rfl rfl rfl) rfl (hresources _) (hcount _) ?_
    refine .cons (.streaming rfl rfl rfl) rfl (hresources _) (hcount _) ?_
    exact .cons (.streaming rfl rfl rfl) rfl (hresources _) (hcount _) (.nil _ _)
  have hfits : pod.Fits 126 :=
    List.forall_mem_cons.mpr ⟨trivial, List.forall_mem_singleton.mpr trivial⟩
  have hserved : ∀ k : Kind,
      ([.item ingressGateway, .other pod ⟨"v1", "Pod", {}, []⟩ hfits rfl,
        .item defaultNamespace].filterMap Served.item?).filter (·.kind = k) =
        items.filter (·.kind = k) := by
    intro k
    cases k <;> rfl
  have hhttp : (net.http .get endpoint.url endpoint.timeout).run [] = (some ⟨200, body⟩, []) := rfl
  obtain ⟨c', hobtained, hobjects, hsame, _⟩ :=
    same_snapshot net (c := c) rfl hstream net hserved hhttp rfl rfl
  exact ⟨by decide, hstream, c', _, hobtained, hobjects, hsame⟩

end MeshSurvey
