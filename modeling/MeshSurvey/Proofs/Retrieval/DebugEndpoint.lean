import MeshSurvey.Proofs.Retrieval

/-!
# Nothing that is served is lost

A debug endpoint serves its objects in one array. Either every item of the array is read, and there
is one object for each in the order of the array, or nothing is read at all, and the first item that
cannot be read tells why, whatever is behind it.

A snapshot of the objects has those of each kind in the same order, and leaves out only the objects
that are of no known kind. So two arrays make the same snapshot if and only if they agree on each
kind, however the kinds are mixed and whatever else is among them.
-/

namespace MeshSurvey

variable {σ κ : Type}

namespace DebugEndpoint

/-- An endpoint serves an array: it answers with a body that is one. -/
inductive Serves (net : Network σ κ) (endpoint : DebugEndpoint) (n : σ) (items : List Json)
    (n' : σ) : Prop where
  | answer {response : HttpResponse}
    (hhttp : (net.http .get endpoint.url endpoint.timeout).run n = (some response, n'))
    (hstatus : Network.isErrorStatus response.status = false)
    (hbody : Json.ofBytes? response.body = some (.array items))

variable {net : Network σ κ} {endpoint : DebugEndpoint} {n n' : σ} {items : List Json}

theorem Serves.of_text {status : Nat}
    (hhttp : (net.http .get endpoint.url endpoint.timeout).run n =
      (some ⟨status, Wire.Codec.bytesOfText (Json.array items).text⟩, n'))
    (hstatus : Network.isErrorStatus status = false)
    (hfits : (Json.array items).Fits Json.Reader.maxDepth) :
    endpoint.Serves net n (items.map Json.arranged) n' := by
  refine .answer hhttp hstatus ?_
  rw [Json.ofBytes?_bytesOfText_text hfits, Json.arranged_array]

theorem Serves.run_objects (h : endpoint.Serves net n items n') (catalog : Catalog) :
    (endpoint.objects net catalog).run.run n = (items.mapM catalog.decodeJson, n') := by
  obtain ⟨hhttp, hstatus, hbody⟩ := h
  rw [DebugEndpoint.run_objects catalog hhttp hstatus, objectsOfBody, hbody]
  rfl

/-- **Nothing that is served is lost.** Let an endpoint serve an array.

* There are objects if and only if every item is read, one for each in order.
* Otherwise there is the failure of the first item that cannot be read.
* The snapshot of the objects has the objects of each kind in order. It leaves out those of unknown
  kinds and no others, and its size is the number of the others.
* Another list of objects makes the same snapshot if and only if it has the same objects of each
  kind in the same order. -/
theorem nothing_served_is_lost (h : endpoint.Serves net n items n') (catalog : Catalog) :
    let outcome := (endpoint.objects net catalog).run.run n
    ((∃ objects, outcome = (.ok objects, n')) ↔
      ∀ v ∈ items, ∃ o, catalog.decodeJson v = .ok o) ∧
    (∀ objects, outcome = (.ok objects, n') ↔
      items.map catalog.decodeJson = objects.map .ok) ∧
    (∀ e, outcome = (.error e, n') ↔
      ∃ good bad rest, items = good ++ bad :: rest ∧
        (∀ v ∈ good, ∃ o, catalog.decodeJson v = .ok o) ∧ catalog.decodeJson bad = .error e) ∧
    ∀ objects, outcome = (.ok objects, n') →
      let s := Snapshot.ofObjects objects
      (∀ k, s.objectsOf k = objects.filter (·.kind? = some k)) ∧
      (∀ o ∈ objects, (¬ ∃ k, o ∈ s.objectsOf k) ↔ ∃ d, o = .unrecognized d) ∧
      s.size = objects.countP (·.kind?.isSome) ∧
      ∀ others, Snapshot.ofObjects others = s ↔
        ∀ k : Kind, others.filter (·.kind? = some k) = objects.filter (·.kind? = some k) := by
  intro outcome
  have hrun : outcome = (items.mapM catalog.decodeJson, n') := h.run_objects catalog
  have houtcome (r : Except Failure (List MeshObject)) :
      outcome = (r, n') ↔ items.mapM catalog.decodeJson = r := by
    rw [hrun, Prod.mk.injEq, and_iff_left rfl]
  refine ⟨?_, fun objects ↦ ?_, fun e ↦ ?_, fun objects _ ↦ ?_⟩
  · simp only [houtcome, mapM_eq_ok_iff]
    constructor
    · rintro ⟨objects, hobjects⟩ v hv
      exact exists_eq_ok_of_mem hobjects hv
    · exact exists_map_eq_ok
  · rw [houtcome, mapM_eq_ok_iff]
  · rw [houtcome, mapM_eq_error_iff]
  · refine ⟨Snapshot.objectsOf_ofObjects objects, fun o ho ↦ ?_, Snapshot.size_ofObjects objects,
      fun others ↦ Snapshot.ofObjects_eq_iff⟩
    simp [Snapshot.exists_mem_objectsOf_iff, ho]

/-- A pod, a namespace and another pod are served, and a snapshot has the namespace. -/
theorem nothing_served_is_lost_of_three :
    let pod := Json.object [("apiVersion", .string "v1"), ("kind", .string "Pod")]
    let home := Json.object [("apiVersion", .string "v1"), ("kind", .string "Namespace"),
      ("metadata", .object [("name", .string "default")])]
    let items := [pod, home, pod]
    let net := Network.monologue (Wire.Codec.bytesOfText (Json.array items).text)
    let endpoint : DebugEndpoint := ⟨"http://istiod" ++ path, DiscoveryConfig.probeTimeout {}⟩
    endpoint.Serves net [] (items.map Json.arranged) [] ∧
      ∃ objects, (endpoint.objects net .mesh).run.run [] = (.ok objects, []) ∧
        (Snapshot.ofObjects objects).size = 1 := by
  intro pod home items net endpoint
  have hpod : pod.Fits 126 :=
    List.forall_mem_cons.mpr ⟨trivial, List.forall_mem_singleton.mpr trivial⟩
  have hhome : home.Fits 126 := by
    refine List.forall_mem_cons.mpr ⟨trivial, List.forall_mem_cons.mpr ⟨trivial, ?_⟩⟩
    exact List.forall_mem_singleton.mpr (List.forall_mem_singleton.mpr trivial)
  have hfits : (Json.array items).Fits Json.Reader.maxDepth :=
    List.forall_mem_cons.mpr ⟨hpod, List.forall_mem_cons.mpr ⟨hhome,
      List.forall_mem_singleton.mpr hpod⟩⟩
  have hhttp : (net.http .get endpoint.url endpoint.timeout).run [] = (some ⟨200, _⟩, []) := rfl
  have hserves : endpoint.Serves net [] (items.map Json.arranged) [] := .of_text hhttp rfl hfits
  obtain ⟨_, hok, _, hsnapshot⟩ := nothing_served_is_lost hserves .mesh
  have hobjects := (hok [.unrecognized ⟨"v1", "Pod", {}, []⟩,
    .ofNamespace { metadata := { name := some "default" } },
    .unrecognized ⟨"v1", "Pod", {}, []⟩]).mpr rfl
  obtain ⟨_, _, hsize, _⟩ := hsnapshot _ hobjects
  exact ⟨hserves, _, hobjects, hsize⟩

end DebugEndpoint

end MeshSurvey
