import MeshSurvey.Proofs.Client.Exchange

/-!
# Requests and responses are paired

A client tells the answer to a request from any other response by nothing but the order. So the
`k`-th request has to meet the `k`-th response of the stream as long as the client is used, whatever
the server does: it may answer late, with another type, with a status or not at all, or say things
that nobody has asked for.

The invariant is `Client.Pairs`: while a client is open, all its exchanges have succeeded, and its
record has as many responses as requests. An exchange that fails closes the client, and from then on
the record grows no more. What is wrong with a response that answers its request leaves the client
open, since the exchange as such has succeeded.
-/

namespace MeshSurvey

variable {σ κ : Type}

/-! ## Calls and the exchanges that they make -/

/-- Something that a client is asked. -/
inductive Call where
  | version
  /-- For the objects of a kind. -/
  | fetch (k : Kind)
  /-- For the objects of the kind with a type URL. -/
  | fetchTypeUrl (typeUrl : String)
  /-- For the objects of all its kinds. -/
  | resources
  | close
  deriving DecidableEq

/-- What a client says to a call. -/
inductive Answer where
  | version (version : Except Failure String)
  | objects (objects : Except Failure (List MeshObject))
  | closed

/-- An exchange succeeds when it has a response. -/
def Exchange.Succeeds (x : Exchange) : Prop := ∃ response, x.outcome = .ok response

/-- A call with the exchanges that it makes, in order, and its answer. -/
structure Turn where
  call : Call
  exchanges : List Exchange
  answer : Answer

namespace Client

/-- Makes a call. -/
def call (net : Network σ κ) : Call → StateT (Client κ) (StateM σ) Answer
  | .version => .version <$> (version net).run
  | .fetch k => .objects <$> (fetch net k).run
  | .fetchTypeUrl typeUrl => .objects <$> (fetchTypeUrl net typeUrl).run
  | .resources => .objects <$> (resources net).run
  | .close => do
    modify close
    return .closed

/-- Makes calls one after another. -/
def calls (net : Network σ κ) (asked : List Call) : StateT (Client κ) (StateM σ) (List Answer) :=
  asked.mapM (call net)

/-- Objects of several kinds come from one exchange for each, up to the first kind for which the
exchange fails or its response cannot be read. -/
inductive Gathers (c : Client κ) :
    List Kind → List Exchange → Except Failure (List MeshObject) → Prop where
  /-- There is nothing to gather. -/
  | nil : Gathers c [] [] (.ok [])
  /-- The first kind fails. -/
  | failed {k : Kind} {kinds : List Kind} {outcome : Except Failure DiscoveryResponse} {e : Failure}
    (h : outcome.bind k.ofResponse = .error e) :
    Gathers c (k :: kinds) [⟨c.request k.typeUrl, outcome⟩] (.error (.fetch k.typeUrl e))
  /-- The first kind has objects, and then come the others. -/
  | fetched {k : Kind} {kinds : List Kind} {outcome : Except Failure DiscoveryResponse}
    {objects : List MeshObject} {exchanges : List Exchange} {r : Except Failure (List MeshObject)}
    (h : outcome.bind k.ofResponse = .ok objects) (hrest : Gathers c kinds exchanges r) :
    Gathers c (k :: kinds) (⟨c.request k.typeUrl, outcome⟩ :: exchanges) (r.map (objects ++ ·))

/-- A call is answered from the outcomes of its exchanges and from nothing else. A kind that is not
registered needs no exchange, and closing needs none either. -/
inductive Takes (c : Client κ) : Turn → Prop where
  /-- The version is read from one response. -/
  | version (outcome : Except Failure DiscoveryResponse) :
    Takes c ⟨.version, [⟨c.request versionTypeUrl, outcome⟩],
      .version (outcome.bind versionOfResponse)⟩
  /-- So are the objects of a kind. -/
  | fetch (k : Kind) (outcome : Except Failure DiscoveryResponse) :
    Takes c ⟨.fetch k, [⟨c.request k.typeUrl, outcome⟩], .objects (outcome.bind k.ofResponse)⟩
  /-- A registered kind may be named by its type URL. -/
  | registered {typeUrl : String} {k : Kind} (h : c.catalog.byTypeUrl typeUrl = some k)
    (outcome : Except Failure DiscoveryResponse) :
    Takes c ⟨.fetchTypeUrl typeUrl, [⟨c.request k.typeUrl, outcome⟩],
      .objects (outcome.bind k.ofResponse)⟩
  /-- No other kind may. -/
  | unregistered {typeUrl : String} (h : c.catalog.byTypeUrl typeUrl = none) :
    Takes c ⟨.fetchTypeUrl typeUrl, [], .objects (.error (.unregisteredKind typeUrl))⟩
  /-- All kinds of the catalog are gathered in order. -/
  | resources {exchanges : List Exchange} {r : Except Failure (List MeshObject)}
    (h : Gathers c c.catalog.kinds exchanges r) : Takes c ⟨.resources, exchanges, .objects r⟩
  /-- Closing takes no exchange. -/
  | close : Takes c ⟨.close, [], .closed⟩

/-! ## The invariant -/

/-- The exchanges `exchanges` of a client, which was `c` at the start, are paired in a situation.
Meanwhile it may have been asked to close. -/
structure Pairs (c : Client κ) (connection : κ) (closing : Prop) (exchanges : List Exchange)
    (s : Situation σ κ) : Prop where
  /-- The client talks as it did. -/
  config_eq : s.client.config = c.config
  /-- It fetches the kinds that it did. -/
  catalog_eq : s.client.catalog = c.catalog
  /-- Only the client's own stream was used. -/
  stream?_eq : ∀ t ∈ s.record, t.stream? = some connection
  /-- An exchange that succeeded is paired: its request and its response stand at its own place
  among all requests and all responses, and the response has the type requested. -/
  paired : ∀ (i : Nat) (x : Exchange) (response : DiscoveryResponse),
    exchanges[i]? = some x → x.outcome = .ok response →
    (Traffic.requests s.record)[i]? = some x.request ∧
      (Traffic.responses s.record)[i]? = some response ∧
      response.typeUrl = x.request.typeUrl
  /-- Behind an exchange that failed there are only such as found the client closed. -/
  refused : exchanges.Pairwise fun x y ↦ ¬ x.Succeeds → y.outcome = .error .streamClosed
  /-- Nothing but an exchange that failed or being asked to has closed the client. -/
  isOpen_iff : s.client.isOpen = true ↔ ¬ closing ∧ ∀ x ∈ exchanges, x.Succeeds
  /-- An open client has the connection that it had. -/
  connection?_eq : s.client.isOpen = true → s.client.connection? = some connection
  /-- While it is open, every exchange has made one request. -/
  length_requests : s.client.isOpen = true →
    (Traffic.requests s.record).length = exchanges.length
  /-- While it is open, every exchange has taken one response. -/
  length_responses : s.client.isOpen = true →
    (Traffic.responses s.record).length = exchanges.length

theorem isOpen_after (c : Client κ) (outcome : Except Failure DiscoveryResponse) :
    (c.after outcome).isOpen = true ↔ c.isOpen = true ∧ ∃ response, outcome = .ok response := by
  cases outcome with
  | ok response =>
    rw [after, isOpen_opened]
    exact ⟨fun h ↦ ⟨h, response, rfl⟩, And.left⟩
  | error e =>
    rw [after, isOpen_close]
    refine ⟨fun h ↦ absurd h Bool.false_ne_true, ?_⟩
    rintro ⟨-, response, h⟩
    cases h

private theorem getElem?_append_of_eq_some {α : Type} {l : List α} {i : Nat} {a : α}
    (h : l[i]? = some a) (m : List α) : (l ++ m)[i]? = some a := by
  obtain ⟨hi, _⟩ := List.getElem?_eq_some_iff.mp h
  rw [List.getElem?_append_left hi, h]

namespace Pairs

variable {c : Client κ} {connection : κ} {closing : Prop} {exchanges : List Exchange}
  {s : Situation σ κ}

theorem congr_closing (h : Pairs c connection closing exchanges s) {closing' : Prop}
    (hiff : closing ↔ closing') : Pairs c connection closing' exchanges s := by
  rwa [← propext hiff]

theorem start (h : c.connection? = some connection) (n : σ) :
    Pairs c connection False [] (⟨c, n, []⟩ : Situation σ κ) where
  config_eq := rfl
  catalog_eq := rfl
  stream?_eq := List.forall_mem_nil _
  paired := fun _ _ _ h ↦ by cases h
  refused := .nil
  isOpen_iff := by
    rw [isOpen_eq_isSome_connection?, h]
    exact ⟨fun _ ↦ ⟨id, List.forall_mem_nil _⟩, fun _ ↦ rfl⟩
  connection?_eq := fun _ ↦ h
  length_requests := fun _ ↦ rfl
  length_responses := fun _ ↦ rfl

/-- An exchange of an open client keeps the pairing: its request and its response come behind as
many others. -/
theorem append_exchange (h : Pairs c connection closing exchanges s)
    (hopen : s.client.isOpen = true) {x : Exchange} {more : List (Traffic κ)}
    (hx : x.LeavesRecord connection more) (n : σ) :
    Pairs c connection closing (exchanges ++ [x])
      ⟨s.client.after x.outcome, n, s.record ++ more⟩ where
  config_eq := (config_after _ _).trans h.config_eq
  catalog_eq := (catalog_after _ _).trans h.catalog_eq
  stream?_eq := List.forall_mem_append.mpr ⟨h.stream?_eq, hx.stream?_eq⟩
  paired i y response hi hy := by
    rw [Traffic.requests_append, Traffic.responses_append]
    rcases Nat.lt_or_ge i exchanges.length with hlt | hge
    · rw [List.getElem?_append_left hlt] at hi
      obtain ⟨hrequest, hresponse, htype⟩ := h.paired i y response hi hy
      exact ⟨getElem?_append_of_eq_some hrequest _, getElem?_append_of_eq_some hresponse _, htype⟩
    · -- it is the new exchange, and the counts say where its traffic stands
      rw [List.getElem?_append_right hge, List.getElem?_singleton] at hi
      obtain ⟨hzero, rfl⟩ : i - exchanges.length = 0 ∧ x = y := by
        split at hi
        · exact ⟨‹_›, Option.some.inj hi⟩
        · cases hi
      obtain ⟨hresponses, htype⟩ := hx.responses_eq response hy
      rw [List.getElem?_append_right (h.length_requests hopen ▸ hge),
        List.getElem?_append_right (h.length_responses hopen ▸ hge), h.length_requests hopen,
        h.length_responses hopen, hzero, hx.requests_eq, hresponses]
      exact ⟨rfl, rfl, htype⟩
  refused := by
    have hall := (h.isOpen_iff.mp hopen).2
    refine List.pairwise_append.mpr ⟨h.refused, List.pairwise_singleton _ _, ?_⟩
    exact fun y hy _ _ hfailed ↦ absurd (hall y hy) hfailed
  isOpen_iff := by
    rw [isOpen_after, h.isOpen_iff, List.forall_mem_append, List.forall_mem_singleton, and_assoc]
    rfl
  connection?_eq hafter := by
    obtain ⟨_, response, hresponse⟩ := (isOpen_after _ _).mp hafter
    rw [hresponse, after, connection?_opened]
    exact h.connection?_eq hopen
  length_requests _ := by
    rw [Traffic.requests_append, List.length_append, h.length_requests hopen, hx.requests_eq,
      List.length_append]
    rfl
  length_responses hafter := by
    obtain ⟨_, response, hresponse⟩ := (isOpen_after _ _).mp hafter
    rw [Traffic.responses_append, List.length_append, h.length_responses hopen,
      (hx.responses_eq response hresponse).1, List.length_append]
    rfl

theorem append_refused (h : Pairs c connection closing exchanges s)
    (hclosed : s.client.isOpen = false) (request : DiscoveryRequest) :
    Pairs c connection closing (exchanges ++ [⟨request, .error .streamClosed⟩]) s where
  config_eq := h.config_eq
  catalog_eq := h.catalog_eq
  stream?_eq := h.stream?_eq
  paired i y response hi hy := by
    rcases Nat.lt_or_ge i exchanges.length with hlt | hge
    · rw [List.getElem?_append_left hlt] at hi
      exact h.paired i y response hi hy
    · rw [List.getElem?_append_right hge] at hi
      obtain rfl := List.mem_singleton.mp (List.mem_of_getElem? hi)
      cases hy
  refused := by
    refine List.pairwise_append.mpr ⟨h.refused, List.pairwise_singleton _ _, ?_⟩
    rintro _ _ _ hy -
    rw [List.mem_singleton.mp hy]
  isOpen_iff := by
    rw [h.isOpen_iff, List.forall_mem_append, List.forall_mem_singleton, ← and_assoc,
      ← h.isOpen_iff, hclosed]
    exact ⟨fun hopen ↦ absurd hopen Bool.false_ne_true, fun ⟨hopen, _⟩ ↦ hopen⟩
  connection?_eq hopen := absurd hopen (Bool.eq_false_iff.mp hclosed)
  length_requests hopen := absurd hopen (Bool.eq_false_iff.mp hclosed)
  length_responses hopen := absurd hopen (Bool.eq_false_iff.mp hclosed)

theorem close (h : Pairs c connection closing exchanges s) :
    Pairs c connection True exchanges ⟨s.client.close, s.network, s.record⟩ where
  config_eq := h.config_eq
  catalog_eq := h.catalog_eq
  stream?_eq := h.stream?_eq
  paired := h.paired
  refused := h.refused
  isOpen_iff := ⟨fun hopen ↦ absurd hopen Bool.false_ne_true, fun ⟨hnot, _⟩ ↦ absurd trivial hnot⟩
  connection?_eq hopen := absurd hopen Bool.false_ne_true
  length_requests hopen := absurd hopen Bool.false_ne_true
  length_responses hopen := absurd hopen Bool.false_ne_true

/-! ## What a call preserves -/

/-- One exchange keeps the pairing. A closed client refuses it, and everything stays as it is. -/
theorem run_exchange (h : Pairs c connection closing exchanges s) (net : Network σ κ)
    (typeUrl : String) :
    ∃ outcome s', Runs net (fun _ net ↦ (exchange net typeUrl).run) s outcome s' ∧
      Pairs c connection closing (exchanges ++ [⟨c.request typeUrl, outcome⟩]) s' ∧
      (s.client.isOpen = false → s' = s ∧
        ∀ x ∈ [Exchange.mk (c.request typeUrl) outcome], x.outcome = .error .streamClosed) := by
  have hrequest : s.client.request typeUrl = c.request typeUrl := by
    rw [request, request, h.config_eq]
  cases hopen : s.client.isOpen with
  | true =>
    obtain ⟨outcome, n', more, hrun, hrun', hmore⟩ := run_exchange_recorded net
      (h.connection?_eq hopen) typeUrl s.network s.record
    rw [hrequest] at hmore
    exact ⟨outcome, _, ⟨hrun, hrun'⟩, h.append_exchange hopen hmore n',
      fun hclosed ↦ by cases hclosed⟩
  | false =>
    refine ⟨.error .streamClosed, s, ⟨?_, ?_⟩, h.append_refused hopen _,
      fun _ ↦ ⟨rfl, List.forall_mem_singleton.mpr rfl⟩⟩
    · exact run_exchange_of_isOpen_eq_false net hopen typeUrl _
    · exact run_exchange_of_isOpen_eq_false net.recorded hopen typeUrl _

end Pairs

theorem calls_cons (net : Network σ κ) (one : Call) (others : List Call) :
    calls net (one :: others) =
      call net one >>= fun answer ↦ (answer :: ·) <$> calls net others := by
  rw [calls, List.mapM_cons]
  rfl

namespace Pairs

variable {c : Client κ} {connection : κ} {closing : Prop} {exchanges : List Exchange}
  {s : Situation σ κ}

theorem run_fetchAll (h : Pairs c connection closing exchanges s) (net : Network σ κ)
    (kinds : List Kind) :
    ∃ new r s', Runs net (fun _ net ↦ (fetchAll net kinds).run) s r s' ∧ c.Gathers kinds new r ∧
      Pairs c connection closing (exchanges ++ new) s' ∧
      (s.client.isOpen = false → s' = s ∧ ∀ x ∈ new, x.outcome = .error .streamClosed) := by
  induction kinds generalizing exchanges s with
  | nil =>
    refine ⟨[], .ok [], s, ⟨run_fetchAll_nil, run_fetchAll_nil⟩, .nil, ?_,
      fun _ ↦ ⟨rfl, List.forall_mem_nil _⟩⟩
    rwa [List.append_nil]
  | cons k kinds ih =>
    obtain ⟨outcome, s₁, hrun, hpairs, hclosed⟩ := h.run_exchange net k.typeUrl
    have hfetch := hrun.fetch
    cases hobjects : outcome.bind k.ofResponse with
    | error e =>
      rw [hobjects] at hfetch
      exact ⟨_, _, s₁, hfetch.fetchAll_of_error kinds, .failed hobjects, hpairs, hclosed⟩
    | ok objects =>
      rw [hobjects] at hfetch
      obtain ⟨new, r, s₂, hruns, hgathers, hpairs₂, hclosed₂⟩ := ih hpairs
      rw [List.append_assoc] at hpairs₂
      refine ⟨_, _, s₂, hfetch.fetchAll_of_ok hruns, .fetched hobjects hgathers, hpairs₂,
        fun hs ↦ ?_⟩
      obtain ⟨rfl, hone⟩ := hclosed hs
      obtain ⟨rfl, hnew⟩ := hclosed₂ hs
      exact ⟨rfl, List.forall_mem_append.mpr ⟨hone, hnew⟩⟩

/-- One call keeps the pairing. A closed client refuses every exchange that the call makes, and
everything stays as it is. -/
theorem run_call (h : Pairs c connection closing exchanges s) (net : Network σ κ) (asked : Call) :
    ∃ turn s', Runs net (fun _ net ↦ Client.call net asked) s turn.answer s' ∧
      turn.call = asked ∧ c.Takes turn ∧
      Pairs c connection (closing ∨ asked = .close) (exchanges ++ turn.exchanges) s' ∧
      (s.client.isOpen = false →
        s' = s ∧ ∀ x ∈ turn.exchanges, x.outcome = .error .streamClosed) := by
  -- no other call than that to close changes whether the client is asked to
  have hsame : asked ≠ .close → (closing ↔ closing ∨ asked = .close) := fun hne ↦
    ⟨.inl, fun hor ↦ hor.resolve_right hne⟩
  cases asked with
  | version =>
    obtain ⟨outcome, s', hrun, hpairs, hclosed⟩ := h.run_exchange net versionTypeUrl
    exact ⟨⟨.version, [⟨c.request versionTypeUrl, outcome⟩],
      .version (outcome.bind versionOfResponse)⟩, s', hrun.version.map Answer.version, rfl,
      .version outcome, hpairs.congr_closing (hsame nofun), hclosed⟩
  | fetch k =>
    obtain ⟨outcome, s', hrun, hpairs, hclosed⟩ := h.run_exchange net k.typeUrl
    exact ⟨⟨.fetch k, [⟨c.request k.typeUrl, outcome⟩], .objects (outcome.bind k.ofResponse)⟩, s',
      hrun.fetch.map Answer.objects, rfl, .fetch k outcome,
      hpairs.congr_closing (hsame nofun), hclosed⟩
  | fetchTypeUrl typeUrl =>
    cases hkind : c.catalog.byTypeUrl typeUrl with
    | none =>
      -- the catalog is still the one of the start
      rw [← h.catalog_eq] at hkind
      refine ⟨⟨.fetchTypeUrl typeUrl, [], .objects (.error (.unregisteredKind typeUrl))⟩, s,
        Runs.map Answer.objects ⟨?_, ?_⟩, rfl, .unregistered (h.catalog_eq ▸ hkind), ?_,
        fun _ ↦ ⟨rfl, List.forall_mem_nil _⟩⟩
      · exact run_fetchTypeUrl_of_none hkind
      · exact run_fetchTypeUrl_of_none hkind
      · rw [List.append_nil]
        exact h.congr_closing (hsame nofun)
    | some k =>
      obtain ⟨outcome, s', hrun, hpairs, hclosed⟩ := h.run_exchange net k.typeUrl
      refine ⟨⟨.fetchTypeUrl typeUrl, [⟨c.request k.typeUrl, outcome⟩],
        .objects (outcome.bind k.ofResponse)⟩, s',
        Runs.map Answer.objects ⟨?_, ?_⟩, rfl, .registered hkind outcome,
        hpairs.congr_closing (hsame nofun), hclosed⟩
      · rw [run_fetchTypeUrl_of_some (h.catalog_eq.symm ▸ hkind)]
        exact hrun.fetch.original
      · rw [run_fetchTypeUrl_of_some (h.catalog_eq.symm ▸ hkind)]
        exact hrun.fetch.recorded
  | resources =>
    obtain ⟨new, r, s', hrun, hgathers, hpairs, hclosed⟩ := h.run_fetchAll net c.catalog.kinds
    have hkinds : s.client.catalog.kinds = c.catalog.kinds := by rw [h.catalog_eq]
    exact ⟨⟨.resources, new, .objects r⟩, s', (hrun.resources hkinds).map Answer.objects, rfl,
      .resources hgathers, hpairs.congr_closing (hsame nofun), hclosed⟩
  | close =>
    refine ⟨⟨.close, [], .closed⟩, ⟨s.client.close, s.network, s.record⟩, ⟨rfl, rfl⟩, rfl, .close,
      ?_, fun hs ↦ ⟨?_, List.forall_mem_nil _⟩⟩
    · rw [List.append_nil]
      exact h.close.congr_closing ⟨fun _ ↦ .inr rfl, fun _ ↦ trivial⟩
    · rw [close_eq_self hs]

/-- A run of calls keeps the pairing. A closed client refuses all exchanges, and everything stays
as it is. -/
theorem run_calls (h : Pairs c connection closing exchanges s) (net : Network σ κ)
    (asked : List Call) :
    ∃ (turns : List Turn) (s' : Situation σ κ),
      Runs net (fun _ net ↦ calls net asked) s (turns.map Turn.answer) s' ∧
      turns.map Turn.call = asked ∧ (∀ turn ∈ turns, c.Takes turn) ∧
      Pairs c connection (closing ∨ .close ∈ asked) (exchanges ++ turns.flatMap Turn.exchanges) s' ∧
      (s.client.isOpen = false →
        s' = s ∧ ∀ x ∈ turns.flatMap Turn.exchanges, x.outcome = .error .streamClosed) := by
  induction asked generalizing closing exchanges s with
  | nil =>
    refine ⟨[], s, .pure [] s, rfl, List.forall_mem_nil _, ?_,
      fun _ ↦ ⟨rfl, List.forall_mem_nil _⟩⟩
    rw [List.flatMap_nil, List.append_nil]
    exact h.congr_closing ⟨.inl, fun hor ↦ hor.resolve_right List.not_mem_nil⟩
  | cons one others ih =>
    obtain ⟨turn, s₁, hrun, rfl, htakes, hpairs, hclosed⟩ := h.run_call net one
    obtain ⟨turns, s₂, hruns, rfl, htakes₂, hpairs₂, hclosed₂⟩ := ih hpairs
    refine ⟨turn :: turns, s₂, ?_, rfl, List.forall_mem_cons.mpr ⟨htakes, htakes₂⟩, ?_,
      fun hs ↦ ?_⟩
    · have hboth : Runs net
          (fun _ net ↦ call net turn.call >>= fun answer ↦
            (answer :: ·) <$> calls net (turns.map Turn.call)) s
          (turn.answer :: turns.map Turn.answer) s₂ :=
        hrun.bind (hruns.map (turn.answer :: ·))
      refine ⟨?_, ?_⟩
      · rw [calls_cons]
        exact hboth.original
      · rw [calls_cons]
        exact hboth.recorded
    · rw [List.flatMap_cons, ← List.append_assoc]
      refine hpairs₂.congr_closing ?_
      rw [or_assoc, List.mem_cons, eq_comm]
    · obtain ⟨rfl, hone⟩ := hclosed hs
      obtain ⟨rfl, hothers⟩ := hclosed₂ hs
      rw [List.flatMap_cons]
      exact ⟨rfl, List.forall_mem_append.mpr ⟨hone, hothers⟩⟩

end Pairs

/-- **Requests and responses are paired.** Whatever an open client is asked and whatever the network
does, each call is answered from the outcomes of its own exchanges, and in every situation that the
client comes into

* an exchange that succeeded has the `k`-th response if it made the `k`-th request, and the response
  is of the type requested; behind an exchange that failed all are refused;
* the client is open unless it was asked to close or an exchange failed, and then there were as many
  responses as requests: what is wrong with a response leaves it open;
* once it is closed, nothing that it is asked reaches the network or changes it, and every exchange
  is refused. -/
theorem requests_and_responses_are_paired (net : Network σ κ) {c : Client κ} {connection : κ}
    (h : c.connection? = some connection) (n : σ) (earlier later : List Call) :
    ∃ (turns : List Turn) (s : Situation σ κ),
      Runs net (fun _ net ↦ calls net earlier) ⟨c, n, []⟩ (turns.map Turn.answer) s ∧
      turns.map Turn.call = earlier ∧ (∀ turn ∈ turns, c.Takes turn) ∧
      Pairs c connection (.close ∈ earlier) (turns.flatMap Turn.exchanges) s ∧
      ∃ (turns' : List Turn) (s' : Situation σ κ),
        Runs net (fun _ net ↦ calls net later) s (turns'.map Turn.answer) s' ∧
        turns'.map Turn.call = later ∧ (∀ turn ∈ turns', c.Takes turn) ∧
        Pairs c connection (.close ∈ earlier ++ later)
          ((turns ++ turns').flatMap Turn.exchanges) s' ∧
        (s.client.isOpen = false →
          s' = s ∧ ∀ x ∈ turns'.flatMap Turn.exchanges, x.outcome = .error .streamClosed) := by
  obtain ⟨turns, s, hruns, hcalls, htakes, hpairs, _⟩ := (Pairs.start h n).run_calls net earlier
  obtain ⟨turns', s', hruns', hcalls', htakes', hpairs', hclosed⟩ := hpairs.run_calls net later
  refine ⟨turns, s, hruns, hcalls, htakes, hpairs.congr_closing (.of_eq (false_or _)), turns', s',
    hruns', hcalls', htakes', ?_, hclosed⟩
  rw [List.flatMap_append]
  exact hpairs'.congr_closing (by rw [false_or, List.mem_append])

/-- A response that comes too late is not taken for the answer to the next request: the exchange
that waits for it closes the client, which then refuses the next one. -/
theorem late_response_is_not_taken :
    let net := Network.monologue []
    let c : Client Unit := ⟨"istiod", DiscoveryConfig.client {}, .mesh, .idle ()⟩
    let late : Reply DiscoveryResponse := .value { typeUrl := Kind.gateways.typeUrl }
    let asked : List Call := [.version, .fetch .gateways]
    c.connection? = some () ∧
      ∃ (turns : List Turn) (s : Situation _ Unit),
        Runs net (fun _ net ↦ calls net asked) ⟨c, [.silence, late], []⟩
          (turns.map Turn.answer) s ∧
        turns.map Turn.call = asked ∧ (∀ turn ∈ turns, c.Takes turn) ∧
        Pairs c () (.close ∈ asked) (turns.flatMap Turn.exchanges) s := by
  intro net c late asked
  obtain ⟨turns, s, hruns, hcalls, htakes, hpairs, _⟩ := requests_and_responses_are_paired net
    (c := c) rfl [.silence, late] asked []
  exact ⟨rfl, turns, s, hruns, hcalls, htakes, hpairs⟩

end Client

end MeshSurvey
