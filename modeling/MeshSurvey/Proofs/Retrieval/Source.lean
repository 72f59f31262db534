import MeshSurvey.Proofs.Retrieval.Stream

/-!
# Where a snapshot comes from

A snapshot is the work of one source. The stream comes first, if there is a discovery address; the
debug endpoint is asked when there is none, or when the stream failed in a way that means that a
peer could not be reached. In that case nothing that the stream has brought so far is used. When the
stream succeeds, or fails in any other way, no HTTP request is sent at all.
-/

namespace MeshSurvey

variable {σ κ : Type}

/-! ## Unreachable peers -/

namespace Failure

/-- Failures that mean that a peer could not be reached, alone or as the reason why objects of a
kind could not be fetched. -/
inductive Unreachable : Failure → Prop where
  | deadlineExceeded (address : String) (timeout : Duration) :
    Unreachable (.deadlineExceeded address timeout)
  | requestTimeout (typeUrl : String) (timeout : Duration) :
    Unreachable (.requestTimeout typeUrl timeout)
  | dial (address reason : String) : Unreachable (.dial address reason)
  | transport (address : String) : Unreachable (.transport address)
  | http (url : String) (status : Option Nat) : Unreachable (.http url status)
  | unavailable (text : String) : Unreachable (.status unavailable text)
  | fetch (kind : String) {source : Failure} (h : source.Unreachable) :
    Unreachable (.fetch kind source)

theorem isConnectivity_iff (e : Failure) : e.isConnectivity = true ↔ e.Unreachable := by
  constructor
  · fun_induction isConnectivity e with
    | case1 address timeout => exact fun _ ↦ .deadlineExceeded address timeout
    | case2 typeUrl timeout => exact fun _ ↦ .requestTimeout typeUrl timeout
    | case3 address reason => exact fun _ ↦ .dial address reason
    | case4 address => exact fun _ ↦ .transport address
    | case5 url status => exact fun _ ↦ .http url status
    | case6 code text =>
      intro h
      obtain rfl := of_decide_eq_true h
      exact .unavailable text
    | case7 kind source ih => exact fun h ↦ .fetch kind (ih h)
    | case8 => nofun
  · intro h
    induction h with
    | fetch _ _ ih => exact ih
    | _ => rfl

end Failure

/-! ## The debug endpoint -/

/-- The URL under which a debug endpoint serves its objects. -/
def DebugEndpoint.urlOf (address : String) : String := "http://" ++ address ++ path

namespace Snapshot

/-- A snapshot is taken from the debug endpoint at an address. -/
inductive DebugRun (net : Network σ κ) (config : DiscoveryConfig) (address : String) (n : σ) :
    Except Failure Snapshot → σ → Prop where
  /-- The endpoint does not answer. -/
  | silent {e : Failure} {n' : σ}
    (hhead : (net.request .head (DebugEndpoint.urlOf address) config.probeTimeout).run.run n =
      (.error e, n')) :
    DebugRun net config address n (.error e) n'
  /-- It answers, but does not serve its objects. -/
  | unserved {body : Wire.Bytes} {e : Failure} {n₁ n' : σ}
    (hhead : (net.request .head (DebugEndpoint.urlOf address) config.probeTimeout).run.run n =
      (.ok body, n₁))
    (hget : (net.request .get (DebugEndpoint.urlOf address) config.probeTimeout).run.run n₁ =
      (.error e, n')) :
    DebugRun net config address n (.error e) n'
  /-- What it serves is read as objects, or cannot be. -/
  | served {body served : Wire.Bytes} {n₁ n' : σ}
    (hhead : (net.request .head (DebugEndpoint.urlOf address) config.probeTimeout).run.run n =
      (.ok body, n₁))
    (hget : (net.request .get (DebugEndpoint.urlOf address) config.probeTimeout).run.run n₁ =
      (.ok served, n')) :
    DebugRun net config address n ((DebugEndpoint.objectsOfBody .mesh served).map ofObjects) n'

theorem exists_debugRun (net : Network σ κ) (config : DiscoveryConfig) (address : String) (n : σ) :
    ∃ r n', DebugRun net config address n r n' ∧
      (ofDebugEndpoint net config address).run.run n = (r, n') := by
  rcases hhead : (net.request .head (DebugEndpoint.urlOf address) config.probeTimeout).run.run n
    with ⟨e | body, n₁⟩
  · refine ⟨.error e, n₁, .silent hhead, ?_⟩
    rw [DebugEndpoint.urlOf] at hhead
    simp only [ofDebugEndpoint, DebugEndpoint.connect, Action.run_bind, hhead]
  rcases hget : (net.request .get (DebugEndpoint.urlOf address) config.probeTimeout).run.run n₁
    with ⟨e | served, n'⟩
  · refine ⟨.error e, n', .unserved hhead hget, ?_⟩
    rw [DebugEndpoint.urlOf] at hhead hget
    simp only [ofDebugEndpoint, DebugEndpoint.connect, DebugEndpoint.objects, Action.run_bind,
      Action.run_pure, hhead, hget]
  · refine ⟨_, n', .served hhead hget, ?_⟩
    rw [DebugEndpoint.urlOf] at hhead hget
    simp only [ofDebugEndpoint, DebugEndpoint.connect, DebugEndpoint.objects, Action.run_bind,
      Action.run_pure, Action.run_ofExcept, hhead, hget]
    cases DebugEndpoint.objectsOfBody .mesh served <;> rfl

/-- HTTP requests are sent to the endpoint, and to nobody else. -/
theorem mirrors_ofDebugEndpoint (net : Network σ κ) (config : DiscoveryConfig) (address : String) :
    Mirrors
      (fun more ↦ Traffic.urls more ≠ [] ∧
        Traffic.All (Traffic.IsRequestTo (DebugEndpoint.urlOf address)) more)
      (ofDebugEndpoint net config address).run
      (ofDebugEndpoint net.recorded config address).run := by
  simp only [ofDebugEndpoint, DebugEndpoint.connect, bind_assoc, pure_bind]
  refine (net.mirrors_request _ _ _).append_action
    (T := Traffic.All (Traffic.IsRequestTo (DebugEndpoint.urlOf address))) (fun _ ↦ ?_)
    (List.forall_mem_nil _) ?_
  · have hget := net.mirrors_request_all .get (DebugEndpoint.urlOf address) config.probeTimeout
    have hobjects := hget.bind_action fun body ↦
      .of_except (DebugEndpoint.objectsOfBody .mesh body)
    exact hobjects.bind_action fun _ ↦ .pure _
  · rintro _ more ⟨response, rfl⟩ hmore
    exact ⟨List.cons_ne_nil _ _, List.forall_mem_cons.mpr ⟨rfl, hmore⟩⟩

/-! ## The choice of the source -/

section Retrieve

variable {net : Network σ κ} {config : DiscoveryConfig} {known known' : DiscoveryState} {n n' : σ}
  {address debug : String}

theorem run_retrieve_of_neither (haddress : known.discoveryAddress = none)
    (hdebug : known.debugAddress = none) :
    ((retrieve net config).run.run known).run n = ((.error .noControlPlane, known), n) := by
  rw [retrieve, Survey.run_bind, Survey.run_get]
  simp only [haddress, hdebug]
  rfl

theorem run_retrieve_of_debugAddress {r : Except Failure Snapshot}
    (haddress : known.discoveryAddress = none) (hdebug : known.debugAddress = some debug)
    (h : (ofDebugEndpoint net config debug).run.run n = (r, n')) :
    ((retrieve net config).run.run known).run n = ((r, known), n') := by
  rw [retrieve, Survey.run_bind, Survey.run_get]
  simp only [haddress, hdebug, Survey.run_ofAction, h]

theorem run_retrieve_of_ok {snapshot : Snapshot} (haddress : known.discoveryAddress = some address)
    (hstream : ((ofStream net config address).run.run known).run n =
      ((.ok snapshot, known'), n')) :
    ((retrieve net config).run.run known).run n = ((.ok snapshot, known'), n') := by
  rw [retrieve, Survey.run_bind, Survey.run_get]
  simp only [haddress, Survey.run_tryCatch, hstream]

theorem run_retrieve_of_error {e : Failure} (haddress : known.discoveryAddress = some address)
    (hstream : ((ofStream net config address).run.run known).run n = ((.error e, known'), n'))
    (h : ¬ (e.Unreachable ∧ known.debugAddress.isSome = true)) :
    ((retrieve net config).run.run known).run n = ((.error e, known'), n') := by
  have hcondition : ¬ (e.isConnectivity && known.debugAddress.isSome) = true := by
    rwa [Bool.and_eq_true, Failure.isConnectivity_iff]
  rw [retrieve, Survey.run_bind, Survey.run_get]
  simp only [haddress, Survey.run_tryCatch, hstream, if_neg hcondition]
  rfl

theorem run_retrieve_of_unreachable {e : Failure} {n₁ : σ} {r : Except Failure Snapshot}
    (haddress : known.discoveryAddress = some address) (hdebug : known.debugAddress = some debug)
    (hstream : ((ofStream net config address).run.run known).run n = ((.error e, known'), n₁))
    (he : e.Unreachable) (h : (ofDebugEndpoint net config debug).run.run n₁ = (r, n')) :
    ((retrieve net config).run.run known).run n = ((r, known'), n') := by
  have hconnectivity : e.isConnectivity = true := e.isConnectivity_iff.mpr he
  rw [retrieve, Survey.run_bind, Survey.run_get]
  simp only [haddress, hdebug, Survey.run_tryCatch, hstream, hconnectivity, Option.isSome_some,
    Bool.and_self, if_true, Survey.run_ofAction, h]

end Retrieve

/-- A snapshot of what is known is taken from a source, with some traffic. -/
inductive SourceRun (net : Network σ κ) (config : DiscoveryConfig) (known : DiscoveryState)
    (n : σ) : Except Failure Snapshot → DiscoveryState → σ → List (Traffic κ) → Prop where
  /-- The stream has the last word. -/
  | stream {address : String} {r : Except Failure Snapshot} {known' : DiscoveryState} {n' : σ}
    {traffic : List (Traffic κ)}
    (haddress : known.discoveryAddress = some address)
    (hstream : StreamRun net config address known n r known' n')
    (hlast : ∀ e, r = .error e → ¬ (e.Unreachable ∧ known.debugAddress.isSome = true))
    (hurls : Traffic.urls traffic = []) :
    SourceRun net config known n r known' n' traffic
  /-- The stream cannot be reached, and the debug endpoint has the last word. -/
  | fallback {address debug : String} {e : Failure} {r : Except Failure Snapshot} {n₁ n' : σ}
    {traffic : List (Traffic κ)}
    (haddress : known.discoveryAddress = some address)
    (hstream : StreamRun net config address known n (.error e) known n₁)
    (he : e.Unreachable)
    (hdebug : known.debugAddress = some debug)
    (hrun : DebugRun net config debug n₁ r n')
    (hasked : Traffic.urls traffic ≠ [])
    (hurls : ∀ url ∈ Traffic.urls traffic, url = DebugEndpoint.urlOf debug) :
    SourceRun net config known n r known n' traffic
  /-- Only the debug endpoint is known. -/
  | debug {debug : String} {r : Except Failure Snapshot} {n' : σ} {traffic : List (Traffic κ)}
    (haddress : known.discoveryAddress = none)
    (hdebug : known.debugAddress = some debug)
    (hrun : DebugRun net config debug n r n')
    (hasked : Traffic.urls traffic ≠ [])
    (hurls : ∀ url ∈ Traffic.urls traffic, url = DebugEndpoint.urlOf debug) :
    SourceRun net config known n r known n' traffic
  /-- No address is known. -/
  | neither (haddress : known.discoveryAddress = none) (hdebug : known.debugAddress = none) :
    SourceRun net config known n (.error .noControlPlane) known n []

/-- Taking a snapshot goes as the relation says, in a network and in the recorded one. -/
theorem exists_sourceRun (net : Network σ κ) (config : DiscoveryConfig) (known : DiscoveryState)
    (n : σ) (record : List (Traffic κ)) :
    ∃ r known' n' more, SourceRun net config known n r known' n' more ∧
      ((retrieve net config).run.run known).run n = ((r, known'), n') ∧
      ((retrieve net.recorded config).run.run known).run (n, record) =
        ((r, known'), (n', record ++ more)) := by
  cases haddress : known.discoveryAddress with
  | none =>
    cases hdebug : known.debugAddress with
    | none =>
      refine ⟨_, known, n, [], .neither haddress hdebug,
        run_retrieve_of_neither haddress hdebug, ?_⟩
      rw [List.append_nil]
      exact run_retrieve_of_neither haddress hdebug
    | some debug =>
      obtain ⟨r, n', hrun, h⟩ := exists_debugRun net config debug n
      obtain ⟨more, ⟨hasked, hmore⟩, hrecorded⟩ :=
        mirrors_ofDebugEndpoint net config debug n record
      rw [h] at hrecorded
      exact ⟨r, known, n', more, .debug haddress hdebug hrun hasked hmore.eq_of_mem_urls,
        run_retrieve_of_debugAddress haddress hdebug h,
        run_retrieve_of_debugAddress haddress hdebug hrecorded⟩
  | some address =>
    obtain ⟨r, known', n₁, hrun, hstream⟩ := exists_streamRun net config address known n
    obtain ⟨more, hmore, hrecorded⟩ := mirrors_ofStream net config address known n record
    rw [hstream] at hrecorded
    have hurls : Traffic.urls more = [] := hmore.urls_eq_nil
    cases r with
    | ok snapshot =>
      exact ⟨_, known', n₁, more, .stream haddress hrun nofun hurls,
        run_retrieve_of_ok haddress hstream, run_retrieve_of_ok haddress hrecorded⟩
    | error e =>
      obtain rfl := hrun.eq_of_error
      by_cases hfallback : e.Unreachable ∧ known'.debugAddress.isSome = true
      · -- the endpoint is asked in the network that the stream has left
        obtain ⟨he, hsome⟩ := hfallback
        obtain ⟨debug, hdebug⟩ := Option.isSome_iff_exists.mp hsome
        obtain ⟨r, n', hrun', h⟩ := exists_debugRun net config debug n₁
        obtain ⟨more', ⟨hasked, hmore'⟩, hrecorded'⟩ :=
          mirrors_ofDebugEndpoint net config debug n₁ (record ++ more)
        rw [h, List.append_assoc] at hrecorded'
        have hboth : Traffic.urls (more ++ more') = Traffic.urls more' := by
          rw [Traffic.urls_append, hurls, List.nil_append]
        exact ⟨r, known', n', more ++ more',
          .fallback haddress hrun he hdebug hrun' (hboth ▸ hasked) (hboth ▸ hmore'.eq_of_mem_urls),
          run_retrieve_of_unreachable haddress hdebug hstream he h,
          run_retrieve_of_unreachable haddress hdebug hrecorded he hrecorded'⟩
      · refine ⟨_, known', n₁, more, .stream haddress hrun ?_ hurls,
          run_retrieve_of_error haddress hstream hfallback,
          run_retrieve_of_error haddress hrecorded hfallback⟩
        intro e' he'
        obtain rfl := Except.error.inj he'
        exact hfallback

/-- **A snapshot comes from one source.** With a discovery address it is taken from the stream, and
without one from the debug endpoint. A failure of the stream stands, unless it is one to reach a
peer and there is a debug endpoint: then the snapshot is taken from the endpoint alone, in the
network that the stream leaves behind. Without any address there is no source. HTTP requests are
sent to the endpoint that the snapshot is taken from, and to nobody else. -/
theorem retrieve_has_one_source (net : Network σ κ) (config : DiscoveryConfig)
    (known : DiscoveryState) (n : σ) (record : List (Traffic κ)) :
    ∃ r known' n' more,
      ((retrieve net config).run.run known).run n = ((r, known'), n') ∧
      ((retrieve net.recorded config).run.run known).run (n, record) =
        ((r, known'), (n', record ++ more)) ∧
      ((∃ address, known.discoveryAddress = some address ∧
          StreamRun net config address known n r known' n' ∧
          (∀ e, r = .error e → ¬ (e.Unreachable ∧ known.debugAddress.isSome = true)) ∧
          Traffic.urls more = []) ∨
        (∃ address debug e n₁, known.discoveryAddress = some address ∧
          StreamRun net config address known n (.error e) known n₁ ∧
          e.Unreachable ∧ known.debugAddress = some debug ∧
          DebugRun net config debug n₁ r n' ∧ Traffic.urls more ≠ [] ∧
          ∀ url ∈ Traffic.urls more, url = DebugEndpoint.urlOf debug) ∨
        (∃ debug, known.discoveryAddress = none ∧ known.debugAddress = some debug ∧
          DebugRun net config debug n r n' ∧ Traffic.urls more ≠ [] ∧
          ∀ url ∈ Traffic.urls more, url = DebugEndpoint.urlOf debug) ∨
        (known.discoveryAddress = none ∧ known.debugAddress = none ∧
          r = .error .noControlPlane ∧ n' = n ∧ more = [])) := by
  obtain ⟨r, known', n', more, hsource, hrun, hrecorded⟩ :=
    exists_sourceRun net config known n record
  refine ⟨r, known', n', more, hrun, hrecorded, ?_⟩
  cases hsource with
  | stream haddress hstream hlast hurls =>
    exact .inl ⟨_, haddress, hstream, hlast, hurls⟩
  | fallback haddress hstream he hdebug hrun hasked hurls =>
    exact .inr (.inl ⟨_, _, _, _, haddress, hstream, he, hdebug, hrun, hasked, hurls⟩)
  | debug haddress hdebug hrun hasked hurls =>
    exact .inr (.inr (.inl ⟨_, haddress, hdebug, hrun, hasked, hurls⟩))
  | neither haddress hdebug =>
    exact .inr (.inr (.inr ⟨haddress, hdebug, rfl, rfl, rfl⟩))

end Snapshot

end MeshSurvey
