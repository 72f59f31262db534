import MeshSurvey.Proofs.Retrieval.Source

/-!
# What a snapshot leaves behind

Taking a snapshot changes nothing of what is known but a version that was missing, and that only
when the snapshot comes from the stream and the control plane has told its version on the same
connection, after everything else. Every failure on the way, and every use of the debug endpoint,
leaves what is known exactly as it was.
-/

namespace MeshSurvey.Snapshot

variable {σ κ : Type}

/-- The control plane at the discovery address tells its version, which is missing, on the
connection on which it has answered the request for every kind. The answers make a snapshot. -/
inductive TellsVersion (net : Network σ κ) (config : DiscoveryConfig) (known : DiscoveryState)
    (n : σ) : Except Failure Snapshot → String → σ → Prop where
  | intro {address version : String} {c c₁ c₂ : Client κ} {connection : κ} {n₁ n₂ n' : σ}
    {lists : List (List MeshObject)} {response : DiscoveryResponse}
    (hknown : known.version = none)
    (haddress : known.discoveryAddress = some address)
    (hconnect : (Client.connect net address (config.clientForAddress address)).run.run n =
      (.ok c, n₁))
    (hconnection : c.connection? = some connection)
    (hfetch : Client.FetchedInTurn net Kind.all c n₁ lists c₁ n₂)
    (hsame : c₁.connection? = some connection)
    (hexchange : ((Client.exchange net Client.versionTypeUrl).run.run c₁).run n₂ =
      ((.ok response, c₂), n'))
    (htold : Client.versionOfResponse response = .ok version) :
    TellsVersion net config known n (.ok (ofObjects lists.flatten)) version n'

section

variable {net : Network σ κ} {config : DiscoveryConfig} {known known' : DiscoveryState} {n n' : σ}
  {r : Except Failure Snapshot}

/-- A version that is told is learned. -/
theorem TellsVersion.run_eq {version : String} (h : TellsVersion net config known n r version n') :
    ((retrieve net config).run.run known).run n =
      ((r, { known with version := some version }), n') := by
  cases h with
  | intro hknown haddress hconnect _ hfetch _ hexchange htold =>
    exact run_retrieve_of_ok haddress
      (run_ofStream_of_fetchedInTurn hconnect hfetch (.answered hknown hexchange htold))

/-- The stream changes what is known only if a version is told. -/
theorem StreamRun.eq_or_tellsVersion {address : String}
    (haddress : known.discoveryAddress = some address)
    (h : StreamRun net config address known n r known' n') :
    known' = known ∨ ∃ version, TellsVersion net config known n r version n' ∧
      known' = { known with version := some version } := by
  cases h with
  | unconnected => exact .inl rfl
  | unfetched => exact .inl rfl
  | fetched hconnect hfetch hversion =>
    cases hversion with
    | present => exact .inl rfl
    | unanswered => exact .inl rfl
    | answered hknown hexchange htold =>
      obtain ⟨⟨connection, hconnection⟩, -⟩ := Client.of_run_connect hconnect
      exact .inr ⟨_, .intro hknown haddress hconnect hconnection hfetch
        (hfetch.connection?_eq.trans hconnection) hexchange htold, rfl⟩

theorem SourceRun.eq_or_tellsVersion {traffic : List (Traffic κ)}
    (h : SourceRun net config known n r known' n' traffic) :
    known' = known ∨ ∃ version, TellsVersion net config known n r version n' ∧
      known' = { known with version := some version } := by
  cases h with
  | stream haddress hstream => exact hstream.eq_or_tellsVersion haddress
  | fallback => exact .inl rfl
  | debug => exact .inl rfl
  | neither => exact .inl rfl

/-- Nothing is learned on the way to a failure, nor where an HTTP request is sent. -/
theorem SourceRun.eq_of_error_or_urls {traffic : List (Traffic κ)}
    (h : SourceRun net config known n r known' n' traffic)
    (hr : (∃ e, r = .error e) ∨ Traffic.urls traffic ≠ []) : known' = known := by
  cases h with
  | stream haddress hstream hlast hurls =>
    rcases hr with ⟨e, rfl⟩ | hne
    · exact hstream.eq_of_error
    · exact absurd hurls hne
  | fallback => rfl
  | debug => rfl
  | neither => rfl

end

/-- **A snapshot leaves what is known as it was, but for a missing version.** The namespace, the
addresses and the kubelets never change. If anything does, it is the version, which was missing; the
result is the snapshot from the stream, and the control plane has told its version on the same
connection after it had answered for every kind. Conversely a version that is told in this way is
learned. With a failure, or where the debug endpoint was sent a request, nothing changes at all. -/
theorem retrieve_keeps_what_is_known (net : Network σ κ) (config : DiscoveryConfig)
    (known : DiscoveryState) (n : σ) (record : List (Traffic κ)) :
    ∃ r known' n' more,
      ((retrieve net config).run.run known).run n = ((r, known'), n') ∧
      ((retrieve net.recorded config).run.run known).run (n, record) =
        ((r, known'), (n', record ++ more)) ∧
      (known'.namespaceName = known.namespaceName ∧
        known'.discoveryAddress = known.discoveryAddress ∧
        known'.debugAddress = known.debugAddress ∧ known'.kubelets = known.kubelets) ∧
      (known' ≠ known → ∃ version, TellsVersion net config known n r version n' ∧
        known' = { known with version := some version }) ∧
      (∀ version, TellsVersion net config known n r version n' →
        known' = { known with version := some version }) ∧
      ((∃ e, r = .error e) ∨ Traffic.urls more ≠ [] → known' = known) := by
  obtain ⟨r, known', n', more, hsource, hrun, hrecorded⟩ :=
    exists_sourceRun net config known n record
  refine ⟨r, known', n', more, hrun, hrecorded, ?_, ?_, ?_, hsource.eq_of_error_or_urls⟩
  · rcases hsource.eq_or_tellsVersion with rfl | ⟨version, -, rfl⟩
    · exact ⟨rfl, rfl, rfl, rfl⟩
    · exact ⟨rfl, rfl, rfl, rfl⟩
  · exact fun hne ↦ hsource.eq_or_tellsVersion.resolve_left hne
  · intro version htells
    have hlearned := htells.run_eq
    rw [hrun] at hlearned
    exact congrArg (·.1.2) hlearned

end MeshSurvey.Snapshot
