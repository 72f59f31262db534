import MeshSurvey.Proofs.Retrieval.Source

/-!
# The connection of a snapshot

Wherever a snapshot is taken with a discovery address, at most one connection is set up for it: that
of the stream, to the endpoint of the address. Whether it uses TLS is decided by the address alone,
and nothing but the lack of an endpoint keeps it from being set up.
-/

namespace MeshSurvey.Snapshot

variable {σ κ : Type} (net : Network σ κ) {config : DiscoveryConfig} {address : String}

/-- The endpoint that the stream of an address goes to, if there is one. -/
def streamEndpoints (config : DiscoveryConfig) (address : String) : List Endpoint :=
  (Network.endpoint address (config.clientForAddress address).tls).toOption.toList

theorem tls_of_mem_streamEndpoints {endpoint : Endpoint}
    (h : endpoint ∈ streamEndpoints config address) :
    endpoint.tls = (config.clientForAddress address).tls := by
  rw [streamEndpoints, Option.mem_toList] at h
  cases hendpoint : Network.endpoint address (config.clientForAddress address).tls with
  | error e =>
    rw [hendpoint] at h
    cases h
  | ok endpoint' =>
    rw [hendpoint] at h
    cases h
    exact Network.tls_of_endpoint hendpoint

theorem mirrors_ofStream_dials (htimeout : config.dialTimeout.isZero = false)
    (known : DiscoveryState) :
    Mirrors (fun more ↦ Traffic.dials more = streamEndpoints config address)
      ((ofStream net config address).run.run known)
      ((ofStream net.recorded config address).run.run known) := by
  have hclient : (config.clientForAddress address).dialTimeout = config.dialTimeout := by
    rw [DiscoveryConfig.clientForAddress]
    split <;> rfl
  have hconnect := Client.mirrors_connect_dials net address (hclient ▸ htimeout)
  refine (hconnect.of_action known).append_carrying (T := Traffic.All Traffic.IsNoDial)
    (fun c known ↦ ?_) (List.forall_mem_nil _) ?_
  · exact (mirrors_ofClient net c known).mono_all fun _ ↦ Traffic.IsStream.isNoDial
  · intro r s hr hs
    rw [Traffic.dials_append, hs.dials_eq_nil, List.append_nil, hr, streamEndpoints]

/-- What is done when the stream has failed. -/
def afterStream (net : Network σ κ) (config : DiscoveryConfig) (debug? : Option String)
    (e : Failure) : Survey σ Snapshot :=
  if e.isConnectivity && debug?.isSome then
    match debug? with
    | some debug => .ofAction (ofDebugEndpoint net config debug)
    | none => throw .noControlPlane
  else throw e

theorem run_retrieve_eq_tryCatch {known : DiscoveryState}
    (haddress : known.discoveryAddress = some address) :
    (retrieve net config).run.run known =
      (tryCatch (ofStream net config address)
        (afterStream net config known.debugAddress)).run.run known := by
  funext n
  change ((retrieve net config).run.run known).run n = _
  rw [retrieve, Survey.run_bind, Survey.run_get]
  simp only [haddress]
  rfl

/-- The debug endpoint is asked by HTTP requests, which are no connections of this sort. -/
theorem mirrors_afterStream (debug? : Option String) (e : Failure) (known : DiscoveryState) :
    Mirrors (Traffic.All Traffic.IsNoDial) ((afterStream net config debug? e).run.run known)
      ((afterStream net.recorded config debug? e).run.run known) := by
  unfold afterStream
  split
  · cases debug? with
    | none => exact .pure _
    | some debug =>
      have hdebug := (mirrors_ofDebugEndpoint net config debug).mono fun _ hmore ↦ hmore.2
      exact (hdebug.mono_all fun _ h ↦ h.isRequest.isNoDial).of_action known
  · exact .pure _

theorem mirrors_retrieve_dials (htimeout : config.dialTimeout.isZero = false)
    {known : DiscoveryState} (haddress : known.discoveryAddress = some address) :
    Mirrors (fun more ↦ Traffic.dials more = streamEndpoints config address)
      ((retrieve net config).run.run known) ((retrieve net.recorded config).run.run known) := by
  rw [run_retrieve_eq_tryCatch net haddress, run_retrieve_eq_tryCatch net.recorded haddress]
  refine (mirrors_ofStream_dials net htimeout known).append_tryCatch
    (T := Traffic.All Traffic.IsNoDial) (mirrors_afterStream net known.debugAddress)
    (List.forall_mem_nil _) ?_
  intro r s hr hs
  rw [Traffic.dials_append, hs.dials_eq_nil, List.append_nil, hr]

/-- Wherever a snapshot is taken with the discovery address, these are the endpoints that
connections are set up to. -/
def ConnectsTo (net : Network σ κ) (config : DiscoveryConfig) (address : String)
    (endpoints : List Endpoint) : Prop :=
  ∀ (known : DiscoveryState) (n : σ) (record : List (Traffic κ)),
    known.discoveryAddress = some address →
      ∃ r n' more, ((retrieve net.recorded config).run.run known).run (n, record) =
        (r, (n', record ++ more)) ∧ Traffic.dials more = endpoints

theorem ConnectsTo.eq {net : Network σ κ} {endpoints endpoints' : List Endpoint}
    (h : ConnectsTo net config address endpoints) (h' : ConnectsTo net config address endpoints')
    (n : σ) : endpoints = endpoints' := by
  obtain ⟨r, n₁, more, hrun, hdials⟩ := h { discoveryAddress := some address } n [] rfl
  obtain ⟨r', n₂, more', hrun', hdials'⟩ := h' { discoveryAddress := some address } n [] rfl
  have hmore : more = more' := congrArg (·.2.2) (hrun.symm.trans hrun')
  rw [← hdials, hmore, hdials']

theorem connectsTo_streamEndpoints (htimeout : config.dialTimeout.isZero = false) :
    ConnectsTo net config address (streamEndpoints config address) := by
  intro known n record haddress
  obtain ⟨more, hmore, hrun⟩ := mirrors_retrieve_dials net htimeout haddress n record
  exact ⟨_, _, more, hrun, hmore⟩

theorem connectsTo_of_endpoint_eq (htimeout : config.dialTimeout.isZero = false)
    {endpoint : Endpoint}
    (h : Network.endpoint address (config.clientForAddress address).tls = .ok endpoint) :
    ConnectsTo net config address [endpoint] := by
  have hendpoints : streamEndpoints config address = [endpoint] := by
    rw [streamEndpoints, h]
    rfl
  exact hendpoints ▸ connectsTo_streamEndpoints net htimeout

end MeshSurvey.Snapshot
