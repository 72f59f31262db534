import MeshSurvey.Discovery.Client
import MeshSurvey.Proofs.Network.Recorded

/-!
# Exchanges on a recorded network

An exchange of an open client puts its request on the client's stream and, when it succeeds, has
taken exactly one response from it, which is of the type requested. This holds on every path
through the exchange; so a whole run of a client is a sequence of exchanges, each with its own part
of the record, and what the client does with the responses needs no network any more.
-/

namespace MeshSurvey

variable {σ κ : Type}

/-- A request of a client, and what came of it. -/
structure Exchange where
  request : DiscoveryRequest
  /-- The response, or why there is none. -/
  outcome : Except Failure DiscoveryResponse

/-- The part of a record that an exchange on a connection may leave: everything in it concerns the
stream of that connection, there is one request in it, and if the exchange succeeds also one
response, which is the outcome and of the type requested. -/
structure Exchange.LeavesRecord (x : Exchange) (connection : κ) (record : List (Traffic κ)) :
    Prop where
  /-- No other stream is used, and nothing else is asked of the network. -/
  stream?_eq : ∀ t ∈ record, t.stream? = some connection
  /-- There is one request. -/
  requests_eq : Traffic.requests record = [x.request]
  /-- A success takes one response. -/
  responses_eq : ∀ response, x.outcome = .ok response →
    Traffic.responses record = [response] ∧ response.typeUrl = x.request.typeUrl

namespace Client

/-- The request of a client for a type. -/
def request (c : Client κ) (typeUrl : String) : DiscoveryRequest :=
  .forType typeUrl c.config.nodeId

/-- The connection of a client that is open. -/
def connection? (c : Client κ) : Option κ :=
  match c.stream with
  | .idle connection | .streaming connection => some connection
  | .closed => none

theorem isOpen_eq_isSome_connection? (c : Client κ) : c.isOpen = c.connection?.isSome := by
  rcases c with ⟨_, _, _, _ | _ | _⟩ <;> rfl

@[simp] theorem connection?_opened (c : Client κ) : c.opened.connection? = c.connection? := by
  rcases c with ⟨_, _, _, _ | _ | _⟩ <;> rfl

@[simp] theorem config_opened (c : Client κ) : c.opened.config = c.config := by
  rcases c with ⟨_, _, _, _ | _ | _⟩ <;> rfl

@[simp] theorem catalog_opened (c : Client κ) : c.opened.catalog = c.catalog := by
  rcases c with ⟨_, _, _, _ | _ | _⟩ <;> rfl

theorem close_eq_self {c : Client κ} (h : c.isOpen = false) : c.close = c := by
  rcases c with ⟨_, _, _, _ | _ | _⟩ <;> first | rfl | simp [isOpen] at h

/-! ## The conversation of an exchange -/

/-- The latter half of a conversation: the next response is taken, and its type checked. -/
private def takeResponse (net : Network σ κ) (connection : κ) (typeUrl : String)
    (timeout : Duration) : Action σ DiscoveryResponse := do
  let response ← Action.ofExcept
    (awaitReply typeUrl timeout (← net.receive connection timeout))
  if response.typeUrl ≠ typeUrl then throw (.typeUrlMismatch typeUrl response.typeUrl)
  return response

theorem awaitReply_eq_ok {α : Type} {typeUrl : String} {timeout : Duration} {reply : Reply α}
    {x : α} (h : awaitReply typeUrl timeout reply = .ok x) : reply = .value x := by
  cases reply with
  | value v => rw [Except.ok.inj h]
  | status => cases h
  | ended => cases h
  | silence => cases h

private theorem run_takeResponse_recorded (net : Network σ κ) (connection : κ) (typeUrl : String)
    (timeout : Duration) (n : σ) (record : List (Traffic κ)) :
    ∃ outcome n' reply,
      (takeResponse net connection typeUrl timeout).run.run n = (outcome, n') ∧
      (takeResponse net.recorded connection typeUrl timeout).run.run (n, record) =
        (outcome, (n', record ++ [.received connection reply])) ∧
      ∀ response, outcome = .ok response →
        reply = .value response ∧ response.typeUrl = typeUrl := by
  simp only [takeResponse, Action.run_bind, Action.run_liftM, Action.run_ofExcept,
    Network.run_receive_recorded]
  rcases (net.receive connection timeout).run n with ⟨reply, n'⟩
  rcases hreply : awaitReply typeUrl timeout reply with e | response
  · exact ⟨.error e, n', reply, rfl, rfl, fun _ h ↦ by cases h⟩
  · have hvalue := awaitReply_eq_ok hreply
    by_cases htype : response.typeUrl = typeUrl
    · refine ⟨.ok response, n', reply, ?_, ?_, fun _ h ↦ Except.ok.inj h ▸ ⟨hvalue, htype⟩⟩
      · simp only [if_neg (not_not_intro htype)]
        rfl
      · simp only [if_neg (not_not_intro htype)]
        rfl
    · refine ⟨.error (.typeUrlMismatch typeUrl response.typeUrl), n', reply, ?_, ?_,
        fun _ h ↦ by cases h⟩
      · simp only [if_pos htype]
        rfl
      · simp only [if_pos htype]
        rfl

/-- Opening a stream that need not be opened. -/
private def openStream (net : Network σ κ) (c : Client κ) (connection : κ) (typeUrl : String)
    (timeout : Duration) : Action σ Unit := do
  if c.stream matches .idle _ then
    Action.ofExcept (awaitReply typeUrl timeout (← net.openStream connection timeout))

private theorem run_openStream_recorded (net : Network σ κ) (c : Client κ) (connection : κ)
    (typeUrl : String) (timeout : Duration) (n : σ) (record : List (Traffic κ)) :
    ∃ outcome n' more,
      (openStream net c connection typeUrl timeout).run.run n = (outcome, n') ∧
      (openStream net.recorded c connection typeUrl timeout).run.run (n, record) =
        (outcome, (n', record ++ more)) ∧
      (more = [] ∨ ∃ reply, more = [.opened connection reply]) := by
  by_cases hidle : c.stream matches .idle _
  · simp only [openStream, if_pos hidle, Action.run_bind, Action.run_liftM, Action.run_ofExcept,
      Network.run_openStream_recorded]
    rcases (net.openStream connection timeout).run n with ⟨reply, n'⟩
    exact ⟨_, n', [.opened connection reply], rfl, rfl, .inr ⟨reply, rfl⟩⟩
  · simp only [openStream, if_neg hidle]
    exact ⟨.ok (), n, [], rfl, by rw [List.append_nil]; rfl, .inl rfl⟩

/-- A conversation of an open client in three steps. -/
private theorem converse_eq {c : Client κ} {connection : κ} (h : c.connection? = some connection)
    (net : Network σ κ) (typeUrl : String) :
    c.converse net typeUrl = (do
      Action.ofExcept (awaitReply typeUrl c.config.requestTimeout
        (← net.send connection (c.request typeUrl) c.config.requestTimeout))
      openStream net c connection typeUrl c.config.requestTimeout
      takeResponse net connection typeUrl c.config.requestTimeout) := by
  rcases c with ⟨_, _, _, _ | _ | _⟩
  · cases h
    rfl
  · cases h
    rfl
  · cases h

/-- A conversation of an open client runs in the recorded network as in the original, and leaves
the record of an exchange. -/
theorem run_converse_recorded (net : Network σ κ) {c : Client κ} {connection : κ}
    (h : c.connection? = some connection) (typeUrl : String) (n : σ)
    (record : List (Traffic κ)) :
    ∃ outcome n' more,
      (c.converse net typeUrl).run.run n = (outcome, n') ∧
      (c.converse net.recorded typeUrl).run.run (n, record) = (outcome, (n', record ++ more)) ∧
      (Exchange.mk (c.request typeUrl) outcome).LeavesRecord connection more := by
  rw [converse_eq h, converse_eq h]
  simp only [Action.run_bind, Action.run_liftM, Action.run_ofExcept, Network.run_send_recorded]
  rcases (net.send connection (c.request typeUrl) c.config.requestTimeout).run n with ⟨reply, n₁⟩
  rcases awaitReply typeUrl c.config.requestTimeout reply with e | _
  · exact ⟨.error e, n₁, [.sent connection (c.request typeUrl) reply], rfl, rfl,
      by simp [Traffic.stream?], rfl, fun _ h ↦ by cases h⟩
  -- the request is on the stream, which now has to be open
  obtain ⟨opening, n₂, more, hopen, hopen', hmore⟩ := run_openStream_recorded net c connection
    typeUrl c.config.requestTimeout n₁ (record ++ [.sent connection (c.request typeUrl) reply])
  have hstream : ∀ t ∈ more, t.stream? = some connection := by
    rcases hmore with rfl | ⟨_, rfl⟩ <;> simp [Traffic.stream?]
  have hrequests : Traffic.requests more = [] := by
    rcases hmore with rfl | ⟨_, rfl⟩ <;> rfl
  have hresponses : Traffic.responses more = [] := by
    rcases hmore with rfl | ⟨_, rfl⟩ <;> rfl
  simp only [hopen, hopen']
  rcases opening with e | _
  · refine ⟨.error e, n₂, .sent connection (c.request typeUrl) reply :: more, rfl,
      by rw [List.append_assoc, List.singleton_append], ?_, ?_, fun _ h ↦ by cases h⟩
    · exact List.forall_mem_cons.mpr ⟨rfl, hstream⟩
    · rw [Traffic.requests_sent_cons, hrequests]
  -- the response to the request is what comes next
  obtain ⟨outcome, n₃, answer, htake, htake', hok⟩ := run_takeResponse_recorded net connection
    typeUrl c.config.requestTimeout n₂
    (record ++ [.sent connection (c.request typeUrl) reply] ++ more)
  refine ⟨outcome, n₃, .sent connection (c.request typeUrl) reply ::
    (more ++ [.received connection answer]), htake, htake'.trans ?_, ?_, ?_, ?_⟩
  · simp only [List.append_assoc, List.cons_append, List.nil_append]
  · refine List.forall_mem_cons.mpr ⟨rfl, List.forall_mem_append.mpr ⟨hstream, ?_⟩⟩
    exact List.forall_mem_singleton.mpr rfl
  · rw [Traffic.requests_sent_cons, Traffic.requests_append, hrequests]
    rfl
  · intro response hresponse
    obtain ⟨rfl, htype⟩ := hok response hresponse
    rw [Traffic.responses_sent_cons, Traffic.responses_append, hresponses]
    exact ⟨rfl, htype⟩

/-! ## Exchanges -/

/-- The client after an exchange: with its stream open, or closed for good. -/
def after (c : Client κ) : Except Failure DiscoveryResponse → Client κ
  | .ok _ => c.opened
  | .error _ => c.close

@[simp] theorem config_after (c : Client κ) (outcome : Except Failure DiscoveryResponse) :
    (c.after outcome).config = c.config := by
  cases outcome
  · rfl
  · exact c.config_opened

@[simp] theorem catalog_after (c : Client κ) (outcome : Except Failure DiscoveryResponse) :
    (c.after outcome).catalog = c.catalog := by
  cases outcome
  · rfl
  · exact c.catalog_opened

theorem run_exchange_of_run_converse {net : Network σ κ} {c : Client κ} {typeUrl : String}
    {n n' : σ} {outcome : Except Failure DiscoveryResponse}
    (h : (c.converse net typeUrl).run.run n = (outcome, n')) :
    ((exchange net typeUrl).run.run c).run n = ((outcome, c.after outcome), n') := by
  rw [run_exchange, h]
  cases outcome <;> rfl

theorem run_exchange_recorded (net : Network σ κ) {c : Client κ} {connection : κ}
    (h : c.connection? = some connection) (typeUrl : String) (n : σ)
    (record : List (Traffic κ)) :
    ∃ outcome n' more,
      ((exchange net typeUrl).run.run c).run n = ((outcome, c.after outcome), n') ∧
      ((exchange net.recorded typeUrl).run.run c).run (n, record) =
        ((outcome, c.after outcome), (n', record ++ more)) ∧
      (Exchange.mk (c.request typeUrl) outcome).LeavesRecord connection more := by
  obtain ⟨outcome, n', more, hrun, hrun', hmore⟩ := run_converse_recorded net h typeUrl n record
  exact ⟨outcome, n', more, run_exchange_of_run_converse hrun, run_exchange_of_run_converse hrun',
    hmore⟩

theorem run_exchange_of_isOpen_eq_false (net : Network σ κ) {c : Client κ}
    (h : c.isOpen = false) (typeUrl : String) (n : σ) :
    ((exchange net typeUrl).run.run c).run n = ((.error .streamClosed, c), n) := by
  rw [run_exchange_of_run_converse (run_converse_of_isOpen_eq_false net typeUrl n h), after,
    close_eq_self h]

/-! ## What is asked of a client -/

section Calls

variable {net : Network σ κ} {c c' : Client κ} {n n' : σ}
  {outcome : Except Failure DiscoveryResponse}

theorem run_version (h : ((exchange net versionTypeUrl).run.run c).run n = ((outcome, c'), n')) :
    ((version net).run.run c).run n = ((outcome.bind versionOfResponse, c'), n') := by
  rw [version, ExceptT.run_bind, StateT.run_bind, StateT.run_bind, h]
  cases outcome <;> rfl

theorem run_fetch {k : Kind}
    (h : ((exchange net k.typeUrl).run.run c).run n = ((outcome, c'), n')) :
    ((fetch net k).run.run c).run n = ((outcome.bind k.ofResponse, c'), n') := by
  rw [fetch, ExceptT.run_bind, StateT.run_bind, StateT.run_bind, h]
  cases outcome <;> rfl

theorem run_fetchTypeUrl_of_some {typeUrl : String} {k : Kind}
    (h : c.catalog.byTypeUrl typeUrl = some k) :
    ((fetchTypeUrl net typeUrl).run.run c).run n = ((fetch net k).run.run c).run n := by
  have hget : ((get : Session κ σ (Client κ)).run.run c).run n = ((.ok c, c), n) := rfl
  rw [fetchTypeUrl, ExceptT.run_bind, StateT.run_bind, StateT.run_bind, hget]
  simp only [bind, h]

theorem run_fetchTypeUrl_of_none {typeUrl : String}
    (h : c.catalog.byTypeUrl typeUrl = none) :
    ((fetchTypeUrl net typeUrl).run.run c).run n =
      ((.error (.unregisteredKind typeUrl), c), n) := by
  have hget : ((get : Session κ σ (Client κ)).run.run c).run n = ((.ok c, c), n) := rfl
  rw [fetchTypeUrl, ExceptT.run_bind, StateT.run_bind, StateT.run_bind, hget]
  simp only [bind, h]
  rfl

theorem run_fetchAll_nil : ((fetchAll net []).run.run c).run n = ((.ok [], c), n) := rfl

theorem run_fetchAll_cons_of_error {k : Kind} {e : Failure} (kinds : List Kind)
    (h : ((fetch net k).run.run c).run n = ((.error e, c'), n')) :
    ((fetchAll net (k :: kinds)).run.run c).run n = ((.error (.fetch k.typeUrl e), c'), n') := by
  rw [fetchAll, ExceptT.run_bind, StateT.run_bind, StateT.run_bind, ExceptT.run_adapt,
    StateT.run_map, StateT.run_map, h]
  rfl

theorem run_fetchAll_cons_of_ok {k : Kind} {objects : List MeshObject} (kinds : List Kind)
    (h : ((fetch net k).run.run c).run n = ((.ok objects, c'), n')) :
    ((fetchAll net (k :: kinds)).run.run c).run n =
      match ((fetchAll net kinds).run.run c').run n' with
      | ((r, c''), n'') => ((r.map (objects ++ ·), c''), n'') := by
  rw [fetchAll, ExceptT.run_bind, StateT.run_bind, StateT.run_bind, ExceptT.run_adapt,
    StateT.run_map, StateT.run_map, h]
  change ((do return objects ++ (← fetchAll net kinds) : Session κ σ _).run.run c').run n' = _
  rw [ExceptT.run_bind, StateT.run_bind, StateT.run_bind]
  rcases ((fetchAll net kinds).run.run c').run n' with ⟨⟨_ | _, _⟩, _⟩ <;> rfl

theorem run_resources (net : Network σ κ) (c : Client κ) (n : σ) :
    ((resources net).run.run c).run n = ((fetchAll net c.catalog.kinds).run.run c).run n := rfl

end Calls

/-! ## Runs -/

/-- A point of a run. -/
structure Situation (σ κ : Type) where
  client : Client κ
  network : σ
  /-- The record of the network. -/
  record : List (Traffic κ)

/-- What is asked of a client has an answer and leads from one situation to another, in the network
itself and in the recorded one. -/
structure Runs (net : Network σ κ) {α : Type}
    (ask : (τ : Type) → Network τ κ → StateT (Client κ) (StateM τ) α) (s : Situation σ κ)
    (answer : α) (s' : Situation σ κ) : Prop where
  /-- The run in the network itself. -/
  original : ((ask σ net).run s.client).run s.network = ((answer, s'.client), s'.network)
  /-- The run in the recorded network. -/
  recorded : ((ask _ net.recorded).run s.client).run (s.network, s.record) =
    ((answer, s'.client), (s'.network, s'.record))

section Runs

variable {net : Network σ κ} {s s' s'' : Situation σ κ} {α β : Type} {answer : α} {answer' : β}
  {ask : (τ : Type) → Network τ κ → StateT (Client κ) (StateM τ) α}

theorem Runs.map (f : α → β) (h : Runs net ask s answer s') :
    Runs net (fun τ net ↦ f <$> ask τ net) s (f answer) s' where
  original := by
    rw [StateT.run_map, StateT.run_map, h.original]
    rfl
  recorded := by
    rw [StateT.run_map, StateT.run_map, h.recorded]
    rfl

theorem Runs.bind {next : (τ : Type) → Network τ κ → α → StateT (Client κ) (StateM τ) β}
    (h : Runs net ask s answer s')
    (h' : Runs net (fun τ net ↦ next τ net answer) s' answer' s'') :
    Runs net (fun τ net ↦ ask τ net >>= next τ net) s answer' s'' where
  original := by
    rw [StateT.run_bind, StateT.run_bind, h.original]
    exact h'.original
  recorded := by
    rw [StateT.run_bind, StateT.run_bind, h.recorded]
    exact h'.recorded

theorem Runs.pure (answer : α) (s : Situation σ κ) :
    Runs net (fun _ _ ↦ pure answer) s answer s := ⟨rfl, rfl⟩

theorem Runs.fetch {k : Kind} {outcome : Except Failure DiscoveryResponse}
    (h : Runs net (fun _ net ↦ (exchange net k.typeUrl).run) s outcome s') :
    Runs net (fun _ net ↦ (Client.fetch net k).run) s (outcome.bind k.ofResponse) s' where
  original := run_fetch h.original
  recorded := run_fetch h.recorded

theorem Runs.version {outcome : Except Failure DiscoveryResponse}
    (h : Runs net (fun _ net ↦ (exchange net versionTypeUrl).run) s outcome s') :
    Runs net (fun _ net ↦ (Client.version net).run) s (outcome.bind versionOfResponse) s' where
  original := run_version h.original
  recorded := run_version h.recorded

theorem Runs.fetchAll_of_error {k : Kind} {e : Failure} (kinds : List Kind)
    (h : Runs net (fun _ net ↦ (Client.fetch net k).run) s (.error e) s') :
    Runs net (fun _ net ↦ (fetchAll net (k :: kinds)).run) s (.error (.fetch k.typeUrl e)) s' where
  original := run_fetchAll_cons_of_error kinds h.original
  recorded := run_fetchAll_cons_of_error kinds h.recorded

theorem Runs.fetchAll_of_ok {k : Kind} {kinds : List Kind} {objects : List MeshObject}
    {r : Except Failure (List MeshObject)}
    (h : Runs net (fun _ net ↦ (Client.fetch net k).run) s (.ok objects) s')
    (h' : Runs net (fun _ net ↦ (fetchAll net kinds).run) s' r s'') :
    Runs net (fun _ net ↦ (fetchAll net (k :: kinds)).run) s (r.map (objects ++ ·)) s'' where
  original := by rw [run_fetchAll_cons_of_ok kinds h.original, h'.original]
  recorded := by rw [run_fetchAll_cons_of_ok kinds h.recorded, h'.recorded]

theorem Runs.resources {kinds : List Kind} {r : Except Failure (List MeshObject)}
    (h : Runs net (fun _ net ↦ (fetchAll net kinds).run) s r s')
    (hkinds : s.client.catalog.kinds = kinds) :
    Runs net (fun _ net ↦ (Client.resources net).run) s r s' where
  original := by
    rw [run_resources, hkinds]
    exact h.original
  recorded := by
    rw [run_resources, hkinds]
    exact h.recorded

end Runs

end Client

end MeshSurvey
