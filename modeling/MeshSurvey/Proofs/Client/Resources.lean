import MeshSurvey.Proofs.Client.Exchange
import MeshSurvey.Proofs.Collect

/-!
# Fetching everything

The objects of all kinds of a catalog are fetched kind by kind. Either every kind is *fetched in
turn*, and the result is all their objects, or there is a first kind that cannot be fetched; then
that is the result, and no kind behind it is even requested. A kind cannot be fetched because the
exchange fails, or because its response holds a resource that is not an object of the kind.
-/

namespace MeshSurvey

variable {σ κ : Type}

namespace Kind

theorem ofResponse_eq_ok_iff {k : Kind} {response : DiscoveryResponse}
    {objects : List MeshObject} :
    k.ofResponse response = .ok objects ↔
      response.resources.map (fun any ↦ k.ofEnvelopeBytes any.value) = objects.map .ok :=
  mapM_eq_ok_iff

/-- A response that cannot be read fails as its first bad resource does. -/
theorem ofResponse_eq_error_iff {k : Kind} {response : DiscoveryResponse} {e : Failure} :
    k.ofResponse response = .error e ↔
      ∃ good bad rest, response.resources = good ++ bad :: rest ∧
        (∀ any ∈ good, ∃ object, k.ofEnvelopeBytes any.value = .ok object) ∧
        k.ofEnvelopeBytes bad.value = .error e :=
  mapM_eq_error_iff

end Kind

namespace Client

/-- The kinds of a list are fetched one after another, from a client and a network to others. Each
exchange has a response, and the objects fetched are those of its resources, one for each. -/
inductive FetchedInTurn (net : Network σ κ) :
    List Kind → Client κ → σ → List (List MeshObject) → Client κ → σ → Prop where
  /-- There is nothing to fetch. -/
  | nil (c : Client κ) (n : σ) : FetchedInTurn net [] c n [] c n
  /-- The first kind is fetched, and then the others are. -/
  | cons {k : Kind} {kinds : List Kind} {c c₁ c₂ : Client κ} {n n₁ n₂ : σ}
    {response : DiscoveryResponse} {objects : List MeshObject} {others : List (List MeshObject)}
    (hexchange : ((exchange net k.typeUrl).run.run c).run n = ((.ok response, c₁), n₁))
    (hobjects : response.resources.map (fun any ↦ k.ofEnvelopeBytes any.value) =
      objects.map .ok)
    (hothers : FetchedInTurn net kinds c₁ n₁ others c₂ n₂) :
    FetchedInTurn net (k :: kinds) c n (objects :: others) c₂ n₂

/-- A kind cannot be fetched. -/
inductive CannotFetch (net : Network σ κ) (k : Kind) (c : Client κ) (n : σ) :
    Failure → Client κ → σ → Prop where
  /-- The exchange fails. -/
  | exchange {e : Failure} {c' : Client κ} {n' : σ}
    (h : ((exchange net k.typeUrl).run.run c).run n = ((.error e, c'), n')) :
    CannotFetch net k c n e c' n'
  /-- The response has resources that are not objects of the kind, of which `bad` comes first. -/
  | resource {response : DiscoveryResponse} {good rest : List AnyMessage} {bad : AnyMessage}
    {e : Failure} {c' : Client κ} {n' : σ}
    (hexchange : ((Client.exchange net k.typeUrl).run.run c).run n = ((.ok response, c'), n'))
    (hresources : response.resources = good ++ bad :: rest)
    (hgood : ∀ any ∈ good, ∃ object, k.ofEnvelopeBytes any.value = .ok object)
    (hbad : k.ofEnvelopeBytes bad.value = .error e) :
    CannotFetch net k c n e c' n'

section Cases

variable (net : Network σ κ) {c : Client κ} {connection : κ}

/-- A kind is fetched or it cannot be, with one request either way. -/
theorem fetched_or_cannotFetch (h : c.connection? = some connection) (k : Kind) (n : σ)
    (record : List (Traffic κ)) :
    (∃ response objects c' n' more,
        ((exchange net k.typeUrl).run.run c).run n = ((.ok response, c'), n') ∧
        response.resources.map (fun any ↦ k.ofEnvelopeBytes any.value) = objects.map .ok ∧
        Runs net (fun _ net ↦ (fetch net k).run) ⟨c, n, record⟩ (.ok objects)
          ⟨c', n', record ++ more⟩ ∧
        c'.connection? = some connection ∧ c'.config = c.config ∧
        Traffic.requests more = [c.request k.typeUrl]) ∨
      ∃ e c' n' more, CannotFetch net k c n e c' n' ∧
        Runs net (fun _ net ↦ (fetch net k).run) ⟨c, n, record⟩ (.error e)
          ⟨c', n', record ++ more⟩ ∧
        Traffic.requests more = [c.request k.typeUrl] := by
  obtain ⟨outcome, n', more, hrun, hrun', hmore⟩ :=
    run_exchange_recorded net h k.typeUrl n record
  have hfetch : Runs net (fun _ net ↦ (fetch net k).run) ⟨c, n, record⟩
      (outcome.bind k.ofResponse) ⟨c.after outcome, n', record ++ more⟩ :=
    Runs.fetch ⟨hrun, hrun'⟩
  cases outcome with
  | error e => exact .inr ⟨e, _, n', more, .exchange hrun, hfetch, hmore.requests_eq⟩
  | ok response =>
    cases hobjects : k.ofResponse response with
    | error e =>
      obtain ⟨good, bad, rest, hresources, hgood, hbad⟩ := Kind.ofResponse_eq_error_iff.mp hobjects
      exact .inr ⟨e, _, n', more, .resource hrun hresources hgood hbad, hobjects ▸ hfetch,
        hmore.requests_eq⟩
    | ok objects =>
      exact .inl ⟨response, objects, _, n', more, hrun, Kind.ofResponse_eq_ok_iff.mp hobjects,
        hobjects ▸ hfetch, c.connection?_opened.trans h, c.config_opened, hmore.requests_eq⟩

/-- What is fetched of several kinds, and where it ends. -/
theorem fetchedInTurn_or_cannotFetch (h : c.connection? = some connection) (kinds : List Kind)
    (n : σ) (record : List (Traffic κ)) :
    (∃ lists c' n' more, FetchedInTurn net kinds c n lists c' n' ∧
        Runs net (fun _ net ↦ (fetchAll net kinds).run) ⟨c, n, record⟩ (.ok lists.flatten)
          ⟨c', n', record ++ more⟩ ∧
        Traffic.requests more = kinds.map fun k ↦ c.request k.typeUrl) ∨
      ∃ i k lists c₁ n₁ e c' n' more, kinds[i]? = some k ∧
        FetchedInTurn net (kinds.take i) c n lists c₁ n₁ ∧ CannotFetch net k c₁ n₁ e c' n' ∧
        ((fetch net k).run.run c₁).run n₁ = ((.error e, c'), n') ∧
        Runs net (fun _ net ↦ (fetchAll net kinds).run) ⟨c, n, record⟩
          (.error (.fetch k.typeUrl e)) ⟨c', n', record ++ more⟩ ∧
        Traffic.requests more = (kinds.take (i + 1)).map fun k ↦ c.request k.typeUrl := by
  induction kinds generalizing c n record with
  | nil =>
    refine .inl ⟨[], c, n, [], .nil c n, ?_, rfl⟩
    rw [List.append_nil]
    exact ⟨run_fetchAll_nil, run_fetchAll_nil⟩
  | cons k kinds ih =>
    rcases fetched_or_cannotFetch net h k n record with
      ⟨response, objects, c₁, n₁, more, hexchange, hobjects, hfetch, hconnection, hconfig,
        hrequests⟩ | ⟨e, c', n', more, hcannot, hfetch, hrequests⟩
    · -- an exchange does not change how the client introduces itself
      have hrequest : c₁.request = c.request := by
        funext typeUrl
        rw [request, request, hconfig]
      rcases ih hconnection n₁ (record ++ more) with
        ⟨lists, c₂, n₂, more₂, hturn, hruns, hrequests₂⟩ |
          ⟨i, k', lists, c₂, n₂, e, c', n', more₂, hi, hturn, hcannot, herror, hruns, hrequests₂⟩
      · refine .inl ⟨objects :: lists, c₂, n₂, more ++ more₂, .cons hexchange hobjects hturn,
          ?_, ?_⟩
        · rw [← List.append_assoc]
          exact hfetch.fetchAll_of_ok hruns
        · rw [Traffic.requests_append, hrequests, hrequests₂, hrequest]
          rfl
      · refine .inr ⟨i + 1, k', objects :: lists, c₂, n₂, e, c', n', more ++ more₂, hi,
          .cons hexchange hobjects hturn, hcannot, herror, ?_, ?_⟩
        · rw [← List.append_assoc]
          exact hfetch.fetchAll_of_ok hruns
        · rw [Traffic.requests_append, hrequests, hrequests₂, hrequest]
          rfl
    · refine .inr ⟨0, k, [], c, n, e, c', n', more, rfl, .nil c n, hcannot, hfetch.original,
        hfetch.fetchAll_of_error kinds, hrequests⟩

end Cases

theorem run_fetchAll_of_fetchedInTurn {net : Network σ κ} {kinds : List Kind} {c c' : Client κ}
    {n n' : σ} {lists : List (List MeshObject)} (h : FetchedInTurn net kinds c n lists c' n') :
    ((fetchAll net kinds).run.run c).run n = ((.ok lists.flatten, c'), n') := by
  induction h with
  | nil c n => exact run_fetchAll_nil
  | @cons k kinds c c₁ c₂ n n₁ n₂ response objects others hexchange hobjects _ ih =>
    have hfetch := run_fetch hexchange
    rw [show (Except.ok response).bind k.ofResponse = .ok objects from
      Kind.ofResponse_eq_ok_iff.mpr hobjects] at hfetch
    rw [run_fetchAll_cons_of_ok kinds hfetch, ih]
    rfl

/-- **Fetching everything is all or nothing.** An open client fetches all objects if and only if
every kind of its catalog is fetched in turn. Then the result is the objects of all kinds in the
order of the catalog, those of one kind in the order of its response, and all kinds have been
requested. Otherwise there is a first kind that cannot be fetched. The result is that failure, which
is what fetching just this kind gives at that point, and the requests are those for the kinds up to
this one. -/
theorem resources_is_all_or_nothing (net : Network σ κ) {c : Client κ} (h : c.isOpen = true)
    (n : σ) :
    ((∃ objects c' n', ((resources net).run.run c).run n = ((.ok objects, c'), n')) ↔
        ∃ lists c' n', FetchedInTurn net c.catalog.kinds c n lists c' n') ∧
      ((∃ lists c' n' record, FetchedInTurn net c.catalog.kinds c n lists c' n' ∧
          Runs net (fun _ net ↦ (resources net).run) ⟨c, n, []⟩ (.ok lists.flatten)
            ⟨c', n', record⟩ ∧
          (Traffic.requests record).map (·.typeUrl) = c.catalog.kinds.map Kind.typeUrl) ∨
        ∃ i k lists c₁ n₁ e c' n' record, c.catalog.kinds[i]? = some k ∧
          FetchedInTurn net (c.catalog.kinds.take i) c n lists c₁ n₁ ∧
          CannotFetch net k c₁ n₁ e c' n' ∧
          ((fetch net k).run.run c₁).run n₁ = ((.error e, c'), n') ∧
          Runs net (fun _ net ↦ (resources net).run) ⟨c, n, []⟩ (.error (.fetch k.typeUrl e))
            ⟨c', n', record⟩ ∧
          (Traffic.requests record).map (·.typeUrl) =
            (c.catalog.kinds.take (i + 1)).map Kind.typeUrl) := by
  obtain ⟨connection, hconnection⟩ : ∃ connection, c.connection? = some connection := by
    rwa [isOpen_eq_isSome_connection?, Option.isSome_iff_exists] at h
  have hurls : ∀ kinds : List Kind, (kinds.map fun k ↦ c.request k.typeUrl).map (·.typeUrl) =
      kinds.map Kind.typeUrl := by
    intro kinds
    rw [List.map_map]
    rfl
  rcases fetchedInTurn_or_cannotFetch net hconnection c.catalog.kinds n [] with
    ⟨lists, c', n', record, hturn, hruns, hrequests⟩ |
      ⟨i, k, lists, c₁, n₁, e, c', n', record, hi, hturn, hcannot, herror, hruns, hrequests⟩
  · have hresources := hruns.resources rfl
    refine ⟨⟨fun _ ↦ ⟨lists, c', n', hturn⟩, fun _ ↦ ⟨lists.flatten, c', n', ?_⟩⟩,
      .inl ⟨lists, c', n', record, hturn, hresources, ?_⟩⟩
    · exact hresources.original
    · rw [hrequests, hurls]
  · have hresources := hruns.resources rfl
    refine ⟨⟨?_, ?_⟩, .inr ⟨i, k, lists, c₁, n₁, e, c', n', record, hi, hturn, hcannot, herror,
      hresources, ?_⟩⟩
    · rintro ⟨objects, _, _, hok⟩
      cases hok.symm.trans hresources.original
    · rintro ⟨lists', c'', n'', hall⟩
      cases (run_fetchAll_of_fetchedInTurn hall).symm.trans hruns.original
    · rw [hrequests, hurls]

/-- Fetching everything when the second of two kinds cannot be fetched, as its response is one of
another type. -/
theorem resources_stops_at_mismatch :
    let net := Network.monologue []
    let c : Client Unit :=
      ⟨"istiod", DiscoveryConfig.client {}, ⟨[.gateways, .virtualServices]⟩, .idle ()⟩
    let said : List (Reply DiscoveryResponse) :=
      [.value { typeUrl := Kind.gateways.typeUrl }, .value { typeUrl := Kind.gateways.typeUrl }]
    c.isOpen = true ∧
      ¬ (∃ lists c' n', FetchedInTurn net c.catalog.kinds c said lists c' n') ∧
      ∃ i k e s, c.catalog.kinds[i]? = some k ∧
        Runs net (fun _ net ↦ (resources net).run) ⟨c, said, []⟩ (.error (.fetch k.typeUrl e)) s ∧
        (Traffic.requests s.record).map (·.typeUrl) =
          (c.catalog.kinds.take (i + 1)).map Kind.typeUrl := by
  intro net c said
  obtain ⟨hiff, hcases⟩ := resources_is_all_or_nothing net (c := c) rfl said
  have hnot : ¬ ∃ lists c' n', FetchedInTurn net c.catalog.kinds c said lists c' n' := by
    rw [← hiff]
    rintro ⟨objects, c', n', hok⟩
    cases hok
  refine ⟨rfl, hnot, ?_⟩
  rcases hcases with ⟨lists, c', n', record, hturn, _⟩ |
      ⟨i, k, _, _, _, e, c', n', record, hi, _, _, _, hruns, hurls⟩
  · exact absurd ⟨lists, c', n', hturn⟩ hnot
  · exact ⟨i, k, e, ⟨c', n', record⟩, hi, hruns, hurls⟩

end Client

end MeshSurvey
