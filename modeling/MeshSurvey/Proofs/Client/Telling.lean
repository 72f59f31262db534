import MeshSurvey.Proofs.Retrieval.Version

/-!
# Versions that were told

A version is told where it is asked for: over a connection to an address, on its stream. A record
shows whether that has happened. Versions are asked for in two places, right after a client is
connected and after a snapshot has been fetched, and either leaves such a record. A record that
shows it once goes on to show it, whatever is added.
-/

namespace MeshSurvey

variable {σ κ : Type}

/-- The record shows that the version was told at the address. A connection was set up to the
endpoint of the address; nothing but its stream was used for some time; and in an exchange on the
stream the request for the version was answered. -/
inductive Traffic.Tells (address version : String) : List (Traffic κ) → Prop where
  | intro {before talk exchange after : List (Traffic κ)} {tls : Bool} {timeout : Duration}
    {endpoint : Endpoint} {events : List (DialEvent κ)} {connection : κ} {nodeId : String}
    {response : DiscoveryResponse}
    (hendpoint : Network.endpoint address tls = .ok endpoint)
    (hdial : DialRace.outcome address timeout {} events = .ok connection)
    (htalk : Traffic.All (·.stream? = some connection) talk)
    (hexchange : (Exchange.mk (.forType Client.versionTypeUrl nodeId) (.ok response)).LeavesRecord
      connection exchange)
    (hversion : Client.versionOfResponse response = .ok version) :
    Tells address version (before ++ .dialled endpoint events :: (talk ++ exchange) ++ after)

theorem Traffic.Tells.append {address version : String} {record : List (Traffic κ)}
    (h : Tells address version record) (more : List (Traffic κ)) :
    Tells address version (record ++ more) := by
  obtain ⟨hendpoint, hdial, htalk, hexchange, hversion⟩ := h
  rw [List.append_assoc _ _ more]
  exact .intro hendpoint hdial htalk hexchange hversion

theorem Network.exists_dialled_of_connect {net : Network σ κ} {address : String} {tls : Bool}
    {timeout : Duration} {connection : κ} {n n' : σ} {record record' : List (Traffic κ)}
    (h : (net.recorded.connect address tls timeout).run.run (n, record) =
      (.ok connection, (n', record'))) :
    ∃ endpoint events, Network.endpoint address tls = .ok endpoint ∧
      DialRace.outcome address timeout {} events = .ok connection ∧
      record' = record ++ [.dialled endpoint events] := by
  obtain ⟨htimeout, endpoint, hendpoint⟩ := net.recorded.exists_endpoint_of_connect h
  rw [connect, if_neg (ne_true_of_eq_false htimeout), hendpoint] at h
  exact ⟨endpoint, ((net.dial endpoint timeout).run n).1, hendpoint, congrArg (·.1) h,
    congrArg (·.2.2) h.symm⟩

namespace Client

variable {net : Network σ κ} {address : String} {config : ClientConfig} {n n' : σ}
  {record record' : List (Traffic κ)}

/-! ## Setting up a connection and using its stream -/

theorem exists_dialled_of_run_connect {c : Client κ}
    (h : (connect net.recorded address config).run.run (n, record) = (.ok c, (n', record'))) :
    ∃ endpoint events connection, Network.endpoint address config.tls = .ok endpoint ∧
      DialRace.outcome address config.dialTimeout {} events = .ok connection ∧
      c.connection? = some connection ∧ record' = record ++ [.dialled endpoint events] := by
  rw [connect, Action.run_bind] at h
  rcases hconnect : (net.recorded.connect address config.tls config.dialTimeout).run.run
    (n, record) with ⟨e | connection, n₁, record₁⟩
  · rw [hconnect] at h
    cases h
  · rw [hconnect] at h
    cases h
    obtain ⟨endpoint, events, hendpoint, hdial, hrecord⟩ := net.exists_dialled_of_connect hconnect
    exact ⟨endpoint, events, connection, hendpoint, hdial, rfl, hrecord⟩

theorem exists_leavesRecord_of_run_exchange {c c' : Client κ} {connection : κ} {typeUrl : String}
    {outcome : Except Failure DiscoveryResponse} (hconnection : c.connection? = some connection)
    (h : ((exchange net.recorded typeUrl).run.run c).run (n, record) =
      ((outcome, c'), (n', record'))) :
    c' = c.after outcome ∧ ∃ more, record' = record ++ more ∧
      (Exchange.mk (c.request typeUrl) outcome).LeavesRecord connection more := by
  obtain ⟨outcome₁, n₁, more, -, hrun, hmore⟩ :=
    run_exchange_recorded net hconnection typeUrl n record
  rw [h] at hrun
  cases hrun
  exact ⟨rfl, more, rfl, hmore⟩

/-- Fetching uses the stream of the client and nothing else. -/
theorem FetchedInTurn.exists_talk {kinds : List Kind} {c c' : Client κ} {connection : κ}
    {m m' : σ × List (Traffic κ)} {lists : List (List MeshObject)}
    (h : FetchedInTurn net.recorded kinds c m lists c' m')
    (hconnection : c.connection? = some connection) :
    ∃ talk, m'.2 = m.2 ++ talk ∧ Traffic.All (·.stream? = some connection) talk := by
  induction h with
  | nil c m => exact ⟨[], (List.append_nil _).symm, List.forall_mem_nil _⟩
  | @cons k kinds c c₁ c₂ m m₁ m₂ response _ _ hexchange _ _ ih =>
    obtain ⟨n₁, record₁⟩ := m₁
    obtain ⟨rfl, more, hrecord, hmore⟩ := exists_leavesRecord_of_run_exchange hconnection hexchange
    obtain ⟨talk, hrest, htalk⟩ := ih ((connection?_opened c).trans hconnection)
    refine ⟨more ++ talk, ?_, Mirrors.forall_mem_append hmore.stream?_eq htalk⟩
    rw [hrest, hrecord, List.append_assoc]

/-! ## The two places where a version is asked for -/

/-- An answer to the request for the version shows in the record, if nothing but the stream has been
used since the client was connected. -/
theorem tells_of_run_exchange {c c₁ c₂ : Client κ} {version : String} {n₁ n₂ : σ}
    {talk record₁ : List (Traffic κ)} {response : DiscoveryResponse} {connection : κ}
    (hconnect : (connect net.recorded address config).run.run (n, record) =
      (.ok c, (n₁, record₁)))
    (hconnection : c.connection? = some connection)
    (htalk : Traffic.All (·.stream? = some connection) talk)
    (hsame : c₁.connection? = some connection)
    (hexchange : ((exchange net.recorded versionTypeUrl).run.run c₁).run (n₂, record₁ ++ talk) =
      ((.ok response, c₂), (n', record')))
    (hversion : versionOfResponse response = .ok version) :
    Traffic.Tells address version record' := by
  obtain ⟨endpoint, events, connection', hendpoint, hdial, hconnection', rfl⟩ :=
    exists_dialled_of_run_connect hconnect
  obtain rfl := Option.some.inj (hconnection.symm.trans hconnection')
  obtain ⟨-, more, rfl, hmore⟩ := exists_leavesRecord_of_run_exchange hsame hexchange
  have htells : Traffic.Tells address version
      (record ++ .dialled endpoint events :: (talk ++ more) ++ []) :=
    .intro hendpoint hdial htalk hmore hversion
  simpa only [List.append_assoc, List.cons_append, List.nil_append, List.append_nil] using htells

theorem tells_of_run_confirm {version : String}
    (h : (confirm net.recorded address config).run.run (n, record) =
      (.ok version, (n', record'))) :
    Traffic.Tells address version record' := by
  rw [confirm, Action.run_bind] at h
  rcases hconnect : (connect net.recorded address config).run.run (n, record) with
    ⟨e | c, n₁, record₁⟩
  · rw [hconnect] at h
    cases h
  obtain ⟨⟨connection, hconnection⟩, -⟩ := of_run_connect hconnect
  rcases hexchange : ((exchange net.recorded versionTypeUrl).run.run c).run (n₁, record₁) with
    ⟨⟨outcome, c'⟩, m⟩
  have hanswer : StateT.run ((Client.version net.recorded).run c) (n₁, record₁) =
      ((outcome.bind versionOfResponse, c'), m) := run_version hexchange
  rw [hconnect] at h
  simp only [Action.run_bind, Action.run_liftM, Action.run_ofExcept, hanswer] at h
  obtain ⟨hversion, rfl⟩ := Prod.ext_iff.mp h
  cases outcome with
  | error e => cases hversion
  | ok response =>
    rw [← List.append_nil record₁] at hexchange
    exact tells_of_run_exchange hconnect hconnection (List.forall_mem_nil _) hconnection hexchange
      hversion

end Client

namespace Snapshot

variable {net : Network σ κ} {config : DiscoveryConfig} {known : DiscoveryState}
  {m : σ × List (Traffic κ)} {n' : σ} {record' : List (Traffic κ)} {r : Except Failure Snapshot}
  {version : String}

theorem TellsVersion.tells (h : TellsVersion net.recorded config known m r version (n', record')) :
    ∃ address, known.discoveryAddress = some address ∧ Traffic.Tells address version record' := by
  obtain ⟨n, record⟩ := m
  cases h with
  | @intro address version c c₁ c₂ connection m₁ m₂ _ lists response hknown haddress hconnect
      hconnection hfetch hsame hexchange htold =>
    obtain ⟨n₁, record₁⟩ := m₁
    obtain ⟨n₂, record₂⟩ := m₂
    obtain ⟨talk, hrecord, htalk⟩ := hfetch.exists_talk hconnection
    obtain rfl : record₂ = record₁ ++ talk := hrecord
    exact ⟨address, haddress,
      Client.tells_of_run_exchange hconnect hconnection htalk hsame hexchange htold⟩

end Snapshot

end MeshSurvey
