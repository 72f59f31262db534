import MeshSurvey.Proofs.Network.Recorded

/-!
# Mirrored computations

Nothing that runs in a network can tell the recorded network from the original. So every computation
of this library *mirrors* itself: in the recorded network it gives the same answer and leaves the
same network, and the record is extended by what it has asked. What may be in that extension is said
by a predicate, which tells one computation from another: a dial, an exchange on a stream and an
HTTP request leave different traffic.

Mirroring is closed under everything that computations are made of, so that it is proved of a
computation along its definition.
-/

namespace MeshSurvey

variable {σ κ α β ρ : Type}

/-! ## What traffic is about -/

namespace Traffic

/-- The endpoint of the connection that was set up, if one was. -/
def endpoint? : Traffic κ → Option Endpoint
  | .dialled endpoint _ => some endpoint
  | _ => none

/-- The URL that an HTTP request was sent to, if one was. -/
def url? : Traffic κ → Option String
  | .requested _ url _ => some url
  | _ => none

/-- What was probed and how, and whether it was found open, if there was a probe. -/
def probe? : Traffic κ → Option ((ScanProtocol × String) × Bool)
  | .probed protocol address found => some ((protocol, address), found)
  | _ => none

/-- The endpoints of connections that were set up, in order. -/
def dials (record : List (Traffic κ)) : List Endpoint := record.filterMap endpoint?

/-- The URLs that HTTP requests were sent to, in order. -/
def urls (record : List (Traffic κ)) : List String := record.filterMap url?

/-- The probes, in order. -/
def probes (record : List (Traffic κ)) : List ((ScanProtocol × String) × Bool) :=
  record.filterMap probe?

@[simp] theorem dials_append (r s : List (Traffic κ)) : dials (r ++ s) = dials r ++ dials s :=
  List.filterMap_append

@[simp] theorem urls_append (r s : List (Traffic κ)) : urls (r ++ s) = urls r ++ urls s :=
  List.filterMap_append

@[simp] theorem probes_append (r s : List (Traffic κ)) : probes (r ++ s) = probes r ++ probes s :=
  List.filterMap_append

/-- All of a record is such traffic. -/
def All (P : Traffic κ → Prop) (record : List (Traffic κ)) : Prop := ∀ t ∈ record, P t

/-- Traffic on a stream. -/
def IsStream (t : Traffic κ) : Prop := t.stream?.isSome = true

/-- Traffic of a connection: it is set up, or its stream is used. -/
def IsConnection (t : Traffic κ) : Prop := t.endpoint?.isSome = true ∨ t.IsStream

/-- An HTTP request. -/
def IsRequest (t : Traffic κ) : Prop := t.url?.isSome = true

/-- An HTTP request to a URL. -/
def IsRequestTo (url : String) (t : Traffic κ) : Prop := t.url? = some url

/-- Traffic that sets up no connection. -/
def IsNoDial (t : Traffic κ) : Prop := t.endpoint? = none

/-- Traffic that is not an HTTP request. -/
def IsNoRequest (t : Traffic κ) : Prop := t.url? = none

/-- Traffic that is not a probe. -/
def IsNoProbe (t : Traffic κ) : Prop := t.probe? = none

theorem IsStream.isNoDial {t : Traffic κ} (h : t.IsStream) : t.IsNoDial := by
  cases t <;> first | rfl | cases h

theorem IsStream.isNoRequest {t : Traffic κ} (h : t.IsStream) : t.IsNoRequest := by
  cases t <;> first | rfl | cases h

theorem IsStream.isConnection {t : Traffic κ} (h : t.IsStream) : t.IsConnection := .inr h

theorem IsConnection.isNoRequest {t : Traffic κ} (h : t.IsConnection) : t.IsNoRequest := by
  rcases h with h | h
  · cases t <;> first | rfl | cases h
  · exact h.isNoRequest

theorem IsConnection.isNoProbe {t : Traffic κ} (h : t.IsConnection) : t.IsNoProbe := by
  rcases h with h | h <;> cases t <;> first | rfl | cases h

theorem IsRequest.isNoDial {t : Traffic κ} (h : t.IsRequest) : t.IsNoDial := by
  cases t <;> first | rfl | cases h

theorem IsRequest.isNoProbe {t : Traffic κ} (h : t.IsRequest) : t.IsNoProbe := by
  cases t <;> first | rfl | cases h

theorem IsRequestTo.isRequest {url : String} {t : Traffic κ} (h : IsRequestTo url t) :
    t.IsRequest := by
  rw [IsRequest, show t.url? = some url from h]
  rfl

theorem All.dials_eq_nil {record : List (Traffic κ)} (h : All IsNoDial record) :
    dials record = [] :=
  List.filterMap_eq_nil_iff.mpr h

theorem All.urls_eq_nil {record : List (Traffic κ)} (h : All IsNoRequest record) :
    urls record = [] :=
  List.filterMap_eq_nil_iff.mpr h

theorem All.probes_eq_nil {record : List (Traffic κ)} (h : All IsNoProbe record) :
    probes record = [] :=
  List.filterMap_eq_nil_iff.mpr h

theorem All.mono {P Q : Traffic κ → Prop} {record : List (Traffic κ)} (h : All P record)
    (hPQ : ∀ t, P t → Q t) : All Q record :=
  fun t ht ↦ hPQ t (h t ht)

theorem All.eq_of_mem_urls {record : List (Traffic κ)} {url : String}
    (h : All (IsRequestTo url) record) : ∀ u ∈ urls record, u = url := by
  intro u hu
  obtain ⟨t, ht, hurl⟩ := List.mem_filterMap.mp hu
  rw [show t.url? = some url from h t ht] at hurl
  exact (Option.some.inj hurl).symm

end Traffic

/-! ## Mirroring -/

/-- In a recorded network, `b` does what `a` does in the original, and what it adds to the record
satisfies `Q`. -/
def Mirrors (Q : List (Traffic κ) → Prop) (a : StateM σ α)
    (b : StateM (σ × List (Traffic κ)) α) : Prop :=
  ∀ n record, ∃ more, Q more ∧ b.run (n, record) = ((a.run n).1, ((a.run n).2, record ++ more))

namespace Mirrors

variable {P : Traffic κ → Prop} {Q T R : List (Traffic κ) → Prop}

theorem mono {a : StateM σ α} {b : StateM (σ × List (Traffic κ)) α} (h : Mirrors Q a b)
    (hQR : ∀ r, Q r → R r) : Mirrors R a b := by
  intro n record
  obtain ⟨more, hmore, hrun⟩ := h n record
  exact ⟨more, hQR more hmore, hrun⟩

theorem mono_all {P' : Traffic κ → Prop} {a : StateM σ α} {b : StateM (σ × List (Traffic κ)) α}
    (h : Mirrors (Traffic.All P) a b) (hP : ∀ t, P t → P' t) : Mirrors (Traffic.All P') a b :=
  h.mono fun _ hr ↦ hr.mono hP

theorem map (f : α → β) {a : StateM σ α} {b : StateM (σ × List (Traffic κ)) α}
    (h : Mirrors Q a b) : Mirrors Q (f <$> a) (f <$> b) := by
  intro n record
  obtain ⟨more, hmore, hrun⟩ := h n record
  refine ⟨more, hmore, ?_⟩
  rw [StateT.run_map, StateT.run_map, hrun]
  rfl

theorem exists_append {a : StateM σ α}
    {b : StateM (σ × List (Traffic κ)) α} (h : Mirrors Q a b) {n n' : σ}
    {record record' : List (Traffic κ)} {r : α} (hrun : b.run (n, record) = (r, (n', record'))) :
    ∃ more, Q more ∧ record' = record ++ more := by
  obtain ⟨more, hmore, hrun'⟩ := h n record
  rw [hrun] at hrun'
  exact ⟨more, hmore, (Prod.ext_iff.mp (Prod.ext_iff.mp hrun').2).2⟩

theorem run_eq {a : StateM σ α} {b : StateM (σ × List (Traffic κ)) α} (h : Mirrors Q a b)
    {n n' : σ} {record record' : List (Traffic κ)} {r : α}
    (hrun : b.run (n, record) = (r, (n', record'))) : a.run n = (r, n') := by
  obtain ⟨more, -, hrun'⟩ := h n record
  rw [hrun] at hrun'
  cases hrun'
  rfl

/-! ### One after another -/

theorem append {a : StateM σ α} {b : StateM (σ × List (Traffic κ)) α} {f : α → StateM σ β}
    {g : α → StateM (σ × List (Traffic κ)) β} (h : Mirrors Q a b)
    (h' : ∀ x, Mirrors T (f x) (g x)) (hR : ∀ r s, Q r → T s → R (r ++ s)) :
    Mirrors R (a >>= f) (b >>= g) := by
  intro n record
  obtain ⟨more, hmore, hrun⟩ := h n record
  obtain ⟨more', hmore', hrun'⟩ := h' (a.run n).1 (a.run n).2 (record ++ more)
  refine ⟨more ++ more', hR more more' hmore hmore', ?_⟩
  rw [StateT.run_bind, StateT.run_bind, hrun, ← List.append_assoc]
  exact hrun'

theorem pure_of_nil (hnil : Q []) (x : α) : Mirrors (σ := σ) Q (Pure.pure x) (Pure.pure x) := by
  intro n record
  refine ⟨[], hnil, ?_⟩
  rw [List.append_nil]
  rfl

/-- An action that fails leaves out what comes after it. -/
theorem append_action {a : Action σ α} {b : Action (σ × List (Traffic κ)) α} {f : α → Action σ β}
    {g : α → Action (σ × List (Traffic κ)) β} (h : Mirrors Q a.run b.run)
    (h' : ∀ x, Mirrors T (f x).run (g x).run) (hnil : T [])
    (hR : ∀ r s, Q r → T s → R (r ++ s)) : Mirrors R (a >>= f).run (b >>= g).run := by
  rw [ExceptT.run_bind, ExceptT.run_bind]
  refine h.append (fun r ↦ ?_) hR
  cases r with
  | error e => exact pure_of_nil hnil (Except.error e)
  | ok x => exact h' x

/-- Sessions and surveys are actions that carry something else along. -/
theorem append_carrying {a : ExceptT Failure (StateT ρ (StateM σ)) α}
    {b : ExceptT Failure (StateT ρ (StateM (σ × List (Traffic κ)))) α}
    {f : α → ExceptT Failure (StateT ρ (StateM σ)) β}
    {g : α → ExceptT Failure (StateT ρ (StateM (σ × List (Traffic κ)))) β} {s : ρ}
    (h : Mirrors Q (a.run.run s) (b.run.run s))
    (h' : ∀ x s, Mirrors T ((f x).run.run s) ((g x).run.run s)) (hnil : T [])
    (hR : ∀ r s, Q r → T s → R (r ++ s)) :
    Mirrors R ((a >>= f).run.run s) ((b >>= g).run.run s) := by
  rw [ExceptT.run_bind, ExceptT.run_bind, StateT.run_bind, StateT.run_bind]
  refine h.append (fun (r, s') ↦ ?_) hR
  cases r with
  | error e => exact pure_of_nil hnil (Except.error e, s')
  | ok x => exact h' x s'

/-! ### Traffic of one sort -/

theorem pure (x : α) : Mirrors (σ := σ) (Traffic.All P) (Pure.pure x) (Pure.pure x) :=
  pure_of_nil (List.forall_mem_nil _) x

theorem of_except (r : Except Failure α) :
    Mirrors (Traffic.All P) (Action.ofExcept (σ := σ) r).run (Action.ofExcept r).run :=
  pure r

theorem noting {note : α → Traffic κ} (ask : StateM σ α) (h : ∀ x, P (note x)) :
    Mirrors (Traffic.All P) ask (Network.noting note ask) :=
  fun n _ ↦ ⟨[note (ask.run n).1], List.forall_mem_singleton.mpr (h _), rfl⟩

theorem forall_mem_append {r s : List (Traffic κ)} (hr : Traffic.All P r) (hs : Traffic.All P s) :
    Traffic.All P (r ++ s) :=
  List.forall_mem_append.mpr ⟨hr, hs⟩

theorem bind {a : StateM σ α} {b : StateM (σ × List (Traffic κ)) α} {f : α → StateM σ β}
    {g : α → StateM (σ × List (Traffic κ)) β} (h : Mirrors (Traffic.All P) a b)
    (h' : ∀ x, Mirrors (Traffic.All P) (f x) (g x)) :
    Mirrors (Traffic.All P) (a >>= f) (b >>= g) :=
  h.append h' fun _ _ ↦ forall_mem_append

theorem bind_action {a : Action σ α} {b : Action (σ × List (Traffic κ)) α} {f : α → Action σ β}
    {g : α → Action (σ × List (Traffic κ)) β} (h : Mirrors (Traffic.All P) a.run b.run)
    (h' : ∀ x, Mirrors (Traffic.All P) (f x).run (g x).run) :
    Mirrors (Traffic.All P) (a >>= f).run (b >>= g).run :=
  h.append_action h' (List.forall_mem_nil _) fun _ _ ↦ forall_mem_append

theorem bind_carrying {a : ExceptT Failure (StateT ρ (StateM σ)) α}
    {b : ExceptT Failure (StateT ρ (StateM (σ × List (Traffic κ)))) α}
    {f : α → ExceptT Failure (StateT ρ (StateM σ)) β}
    {g : α → ExceptT Failure (StateT ρ (StateM (σ × List (Traffic κ)))) β} {s : ρ}
    (h : Mirrors (Traffic.All P) (a.run.run s) (b.run.run s))
    (h' : ∀ x s, Mirrors (Traffic.All P) ((f x).run.run s) ((g x).run.run s)) :
    Mirrors (Traffic.All P) ((a >>= f).run.run s) ((b >>= g).run.run s) :=
  h.append_carrying h' (List.forall_mem_nil _) fun _ _ ↦ forall_mem_append

theorem lift_action {a : StateM σ α} {b : StateM (σ × List (Traffic κ)) α} (h : Mirrors Q a b) :
    Mirrors Q (liftM a : Action σ α).run (liftM b : Action (σ × List (Traffic κ)) α).run :=
  h.map Except.ok

theorem attempt {a : Action σ α} {b : Action (σ × List (Traffic κ)) α}
    (h : Mirrors Q a.run b.run) : Mirrors Q a.attempt.run b.attempt.run :=
  h.map Except.ok

end Mirrors

/-! ## Networks -/

namespace Network

variable (net : Network σ κ)

theorem mirrors_request (method : HttpMethod) (url : String) (timeout : Duration) :
    Mirrors (fun more ↦ ∃ response, more = [.requested method url response])
      (net.request method url timeout).run (net.recorded.request method url timeout).run := by
  have hhttp : Mirrors (fun more ↦ ∃ response, more = [.requested method url response])
      (net.http method url timeout) (net.recorded.http method url timeout) :=
    fun n _ ↦ ⟨_, ⟨((net.http method url timeout).run n).1, rfl⟩, rfl⟩
  refine hhttp.lift_action.append_action (T := Eq []) (fun response ↦ ?_) rfl ?_
  · cases response with
    | none => exact .pure_of_nil rfl _
    | some response =>
      dsimp only
      split
      · exact .pure_of_nil rfl _
      · exact .pure_of_nil rfl _
  · rintro r _ hr rfl
    rwa [List.append_nil]

theorem mirrors_request_all (method : HttpMethod) (url : String) (timeout : Duration) :
    Mirrors (Traffic.All (Traffic.IsRequestTo url)) (net.request method url timeout).run
      (net.recorded.request method url timeout).run := by
  refine (net.mirrors_request method url timeout).mono ?_
  rintro _ ⟨response, rfl⟩
  exact List.forall_mem_singleton.mpr rfl

theorem mirrors_request_isRequest (method : HttpMethod) (url : String) (timeout : Duration) :
    Mirrors (Traffic.All Traffic.IsRequest) (net.request method url timeout).run
      (net.recorded.request method url timeout).run :=
  (net.mirrors_request_all method url timeout).mono_all fun _ ↦ Traffic.IsRequestTo.isRequest

/-- Within any time one connection is set up, to the endpoint of the address if it has one. -/
theorem mirrors_connect_dials (address : String) (tls : Bool) {timeout : Duration}
    (htimeout : timeout.isZero = false) :
    Mirrors (fun more ↦ Traffic.dials more = (endpoint address tls).toOption.toList)
      (net.connect address tls timeout).run (net.recorded.connect address tls timeout).run := by
  rw [connect, connect, if_neg (ne_true_of_eq_false htimeout),
    if_neg (ne_true_of_eq_false htimeout)]
  cases endpoint address tls with
  | error e =>
    have hnone : Traffic.dials ([] : List (Traffic κ)) =
        (Except.error e : Except Failure Endpoint).toOption.toList := rfl
    exact Mirrors.pure_of_nil hnone (Except.error e)
  | ok endpoint =>
    have hdial : Mirrors (fun more ↦ Traffic.dials more = [endpoint]) (net.dial endpoint timeout)
        (net.recorded.dial endpoint timeout) :=
      fun n _ ↦ ⟨[.dialled endpoint ((net.dial endpoint timeout).run n).1], rfl, rfl⟩
    exact hdial.map _

theorem tls_of_endpoint {address : String} {tls : Bool} {endpoint : Endpoint}
    (h : Network.endpoint address tls = .ok endpoint) : endpoint.tls = tls := by
  rw [Network.endpoint] at h
  split at h
  · cases h
  next e he =>
    split at h
    · cases h
    · obtain rfl := Except.ok.inj h
      rw [Endpoint.ofAddress] at he
      split at he
      · exact (Option.some.inj he) ▸ rfl
      · cases he

theorem exists_endpoint_of_connect {address : String} {tls : Bool} {timeout : Duration} {n n' : σ}
    {connection : κ} (h : (net.connect address tls timeout).run.run n = (.ok connection, n')) :
    timeout.isZero = false ∧ ∃ endpoint, Network.endpoint address tls = .ok endpoint := by
  rw [connect] at h
  split at h
  · cases h
  next htimeout =>
    split at h
    · cases h
    next endpoint hendpoint => exact ⟨eq_false_of_ne_true htimeout, endpoint, hendpoint⟩

theorem mirrors_connect (address : String) (tls : Bool) (timeout : Duration) :
    Mirrors (Traffic.All Traffic.IsConnection) (net.connect address tls timeout).run
      (net.recorded.connect address tls timeout).run := by
  rw [connect, connect]
  split
  · exact .pure _
  · split
    · exact .pure _
    next endpoint _ =>
      have hdial : Mirrors (Traffic.All Traffic.IsConnection) (net.dial endpoint timeout)
          (net.recorded.dial endpoint timeout) := .noting _ fun _ ↦ .inl rfl
      exact hdial.map _

end Network

end MeshSurvey
