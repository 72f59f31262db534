import MeshSurvey.Discovery.Retrieval
import MeshSurvey.Proofs.Client.Mirrored
import MeshSurvey.Proofs.Client.Resources

/-!
# Snapshots from the stream

How taking a snapshot from the discovery stream goes is said here step by step, as relations: the
client is connected or not; all kinds are fetched in turn, or one of them cannot be fetched; and
then the version is known already, or the control plane answers on the same connection, or it does
not. Only the last of these steps changes what is known, and it cannot fail.
-/

namespace MeshSurvey

variable {σ κ α β : Type}

/-! ## Runs of surveys -/

namespace Survey

theorem run_bind (a : Survey σ α) (f : α → Survey σ β) (known : DiscoveryState) (n : σ) :
    ((a >>= f).run.run known).run n =
      match (a.run.run known).run n with
      | ((.ok x, known'), n') => ((f x).run.run known').run n'
      | ((.error e, known'), n') => ((.error e, known'), n') := by
  rw [ExceptT.run_bind, StateT.run_bind, StateT.run_bind]
  rcases (a.run.run known).run n with ⟨⟨_ | _, _⟩, _⟩ <;> rfl

theorem run_tryCatch (a : Survey σ α) (f : Failure → Survey σ α) (known : DiscoveryState) (n : σ) :
    ((tryCatch a f).run.run known).run n =
      match (a.run.run known).run n with
      | ((.ok x, known'), n') => ((.ok x, known'), n')
      | ((.error e, known'), n') => ((f e).run.run known').run n' := by
  simp only [tryCatch, tryCatchThe, MonadExceptOf.tryCatch, ExceptT.tryCatch, ExceptT.mk,
    ExceptT.run, StateT.run_bind]
  rcases (StateT.run a known).run n with ⟨⟨_ | _, _⟩, _⟩ <;> rfl

theorem run_ofAction (a : Action σ α) (known : DiscoveryState) (n : σ) :
    ((ofAction a).run.run known).run n = (((a.run.run n).1, known), (a.run.run n).2) := rfl

/-- A client that is asked for something along the way adds nothing to what is known. -/
theorem run_session (a : Session κ σ α) (c : Client κ) (known : DiscoveryState) (n : σ) :
    ((liftM (a.run c) : Survey σ (Except Failure α × Client κ)).run.run known).run n =
      ((.ok ((a.run.run c).run n).1, known), ((a.run.run c).run n).2) := rfl

theorem run_get (known : DiscoveryState) (n : σ) :
    ((get : Survey σ DiscoveryState).run.run known).run n = ((.ok known, known), n) := rfl

theorem run_pure (x : α) (known : DiscoveryState) (n : σ) :
    ((pure x : Survey σ α).run.run known).run n = ((.ok x, known), n) := rfl

end Survey

namespace Mirrors

variable {Q : List (Traffic κ) → Prop}

theorem of_action {a : Action σ α} {b : Action (σ × List (Traffic κ)) α}
    (h : Mirrors Q a.run b.run) (known : DiscoveryState) :
    Mirrors Q ((Survey.ofAction a).run.run known) ((Survey.ofAction b).run.run known) :=
  h.map fun r ↦ (r, known)

theorem of_session {a : Session κ σ α} {b : Session κ (σ × List (Traffic κ)) α} {c : Client κ}
    (h : Mirrors Q (a.run.run c) (b.run.run c)) (known : DiscoveryState) :
    Mirrors Q ((liftM (a.run c) : Survey σ (Except Failure α × Client κ)).run.run known)
      ((liftM (b.run c) : Survey (σ × List (Traffic κ)) (Except Failure α × Client κ)).run.run
        known) :=
  h.map fun r ↦ (Except.ok r, known)

theorem append_tryCatch {T R : List (Traffic κ) → Prop} {a : Survey σ α}
    {b : Survey (σ × List (Traffic κ)) α} {f : Failure → Survey σ α}
    {g : Failure → Survey (σ × List (Traffic κ)) α} {known : DiscoveryState}
    (h : Mirrors Q (a.run.run known) (b.run.run known))
    (h' : ∀ e known, Mirrors T ((f e).run.run known) ((g e).run.run known)) (hnil : T [])
    (hR : ∀ r s, Q r → T s → R (r ++ s)) :
    Mirrors R ((tryCatch a f).run.run known) ((tryCatch b g).run.run known) := by
  simp only [tryCatch, tryCatchThe, MonadExceptOf.tryCatch, ExceptT.tryCatch, ExceptT.mk,
    ExceptT.run, StateT.run_bind]
  refine h.append (fun (r, known') ↦ ?_) hR
  cases r with
  | ok x => exact pure_of_nil hnil (Except.ok x, known')
  | error e => exact h' e known'

end Mirrors

namespace Client

theorem of_run_connect {net : Network σ κ} {address : String} {config : ClientConfig}
    {c : Client κ} {n n' : σ} (h : (connect net address config).run.run n = (.ok c, n')) :
    (∃ connection, c.connection? = some connection) ∧
      ∀ m, ((resources net).run.run c).run m = ((fetchAll net Kind.all).run.run c).run m := by
  rw [connect, Action.run_bind] at h
  split at h
  next connection n₁ _ =>
    obtain rfl := Except.ok.inj (Prod.ext_iff.mp h).1
    exact ⟨⟨connection, rfl⟩, fun m ↦ run_resources net _ m⟩
  next => cases h

theorem FetchedInTurn.connection?_eq {net : Network σ κ} {kinds : List Kind} {c c' : Client κ}
    {n n' : σ} {lists : List (List MeshObject)} (h : FetchedInTurn net kinds c n lists c' n') :
    c'.connection? = c.connection? := by
  induction h with
  | nil => rfl
  | @cons k kinds c c₁ c₂ n n₁ n₂ response _ _ hexchange _ _ ih =>
    have hclient : c₁ = c.opened := by
      rw [run_exchange] at hexchange
      split at hexchange
      · cases hexchange
        rfl
      · cases hexchange
    rw [ih, hclient, connection?_opened]

end Client

namespace Snapshot

/-! ## The version -/

/-- After everything has been fetched, a client asks for the version if it is missing. -/
inductive LearnsVersion (net : Network σ κ) (c : Client κ) (known : DiscoveryState) (n : σ) :
    DiscoveryState → σ → Prop where
  /-- The version is not missing, and nothing is asked. -/
  | present {version : String} (hknown : known.version = some version) :
    LearnsVersion net c known n known n
  /-- The control plane answers. -/
  | answered {response : DiscoveryResponse} {version : String} {c' : Client κ} {n' : σ}
    (hknown : known.version = none)
    (hexchange : ((Client.exchange net Client.versionTypeUrl).run.run c).run n =
      ((.ok response, c'), n'))
    (hversion : Client.versionOfResponse response = .ok version) :
    LearnsVersion net c known n { known with version := some version } n'
  /-- The exchange fails, or there is no version in the response. -/
  | unanswered {outcome : Except Failure DiscoveryResponse} {e : Failure} {c' : Client κ} {n' : σ}
    (hknown : known.version = none)
    (hexchange : ((Client.exchange net Client.versionTypeUrl).run.run c).run n =
      ((outcome, c'), n'))
    (hversion : outcome.bind Client.versionOfResponse = .error e) :
    LearnsVersion net c known n known n'

section LearnsVersion

variable {net : Network σ κ} {c : Client κ} {known known' : DiscoveryState} {n n' : σ}

theorem run_learnVersion_of_some {version : String} (h : known.version = some version) :
    ((learnVersion net c).run.run known).run n = ((.ok (), known), n) := by
  have hnone : ¬ known.version.isNone = true := by
    rw [h]
    exact Bool.false_ne_true
  rw [learnVersion, Survey.run_bind, Survey.run_get]
  simp only [if_neg hnone]
  rfl

theorem run_learnVersion_of_none (h : known.version = none) :
    ((learnVersion net c).run.run known).run n =
      match ((Client.version net).run.run c).run n with
      | ((.ok version, _), n') => ((.ok (), { known with version := some version }), n')
      | ((.error _, _), n') => ((.ok (), known), n') := by
  have hnone : known.version.isNone = true := by
    rw [h]
    rfl
  rw [learnVersion, Survey.run_bind, Survey.run_get]
  simp only [if_pos hnone, Survey.run_bind, Survey.run_session]
  rcases ((Client.version net).run.run c).run n with ⟨⟨_ | _, _⟩, _⟩ <;> rfl

theorem LearnsVersion.run_eq (h : LearnsVersion net c known n known' n') :
    ((learnVersion net c).run.run known).run n = ((.ok (), known'), n') := by
  cases h with
  | present hknown => exact run_learnVersion_of_some hknown
  | answered hknown hexchange hversion =>
    rw [run_learnVersion_of_none hknown, Client.run_version hexchange]
    simp only [Except.bind, hversion]
  | unanswered hknown hexchange hversion =>
    rw [run_learnVersion_of_none hknown, Client.run_version hexchange, hversion]

theorem exists_learnsVersion (net : Network σ κ) (c : Client κ) (known : DiscoveryState) (n : σ) :
    ∃ known' n', LearnsVersion net c known n known' n' := by
  cases hknown : known.version with
  | some version => exact ⟨known, n, .present hknown⟩
  | none =>
    rcases hexchange : ((Client.exchange net Client.versionTypeUrl).run.run c).run n with
      ⟨⟨outcome, c'⟩, n'⟩
    cases hversion : outcome.bind Client.versionOfResponse with
    | error e => exact ⟨known, n', .unanswered hknown hexchange hversion⟩
    | ok version =>
      cases outcome with
      | error e => cases hversion
      | ok response => exact ⟨_, n', .answered hknown hexchange hversion⟩

end LearnsVersion

/-! ## The whole run -/

/-- A snapshot is taken from the stream at an address. -/
inductive StreamRun (net : Network σ κ) (config : DiscoveryConfig) (address : String)
    (known : DiscoveryState) (n : σ) : Except Failure Snapshot → DiscoveryState → σ → Prop where
  /-- There is no connection. -/
  | unconnected {e : Failure} {n' : σ}
    (hconnect : (Client.connect net address (config.clientForAddress address)).run.run n =
      (.error e, n')) :
    StreamRun net config address known n (.error e) known n'
  /-- Some kinds are fetched, and then there is one that cannot be. -/
  | unfetched {c c₁ c₂ : Client κ} {n₁ n₂ n' : σ} {i : Nat} {k : Kind}
    {lists : List (List MeshObject)} {e : Failure}
    (hconnect : (Client.connect net address (config.clientForAddress address)).run.run n =
      (.ok c, n₁))
    (hk : Kind.all[i]? = some k)
    (hbefore : Client.FetchedInTurn net (Kind.all.take i) c n₁ lists c₁ n₂)
    (hfetch : Client.CannotFetch net k c₁ n₂ e c₂ n') :
    StreamRun net config address known n (.error (.fetch k.typeUrl e)) known n'
  /-- All kinds are fetched, and make the snapshot whatever becomes of the version. -/
  | fetched {c c₁ : Client κ} {n₁ n₂ n' : σ} {lists : List (List MeshObject)}
    {known' : DiscoveryState}
    (hconnect : (Client.connect net address (config.clientForAddress address)).run.run n =
      (.ok c, n₁))
    (hfetch : Client.FetchedInTurn net Kind.all c n₁ lists c₁ n₂)
    (hversion : LearnsVersion net c₁ known n₂ known' n') :
    StreamRun net config address known n (.ok (ofObjects lists.flatten)) known' n'

section StreamRun

variable {net : Network σ κ} {config : DiscoveryConfig} {address : String}
  {known known' : DiscoveryState} {n n' : σ}

theorem run_ofStream_of_connect {c : Client κ} {n₁ : σ}
    (h : (Client.connect net address (config.clientForAddress address)).run.run n = (.ok c, n₁)) :
    ((ofStream net config address).run.run known).run n =
      match ((Client.resources net).run.run c).run n₁ with
      | ((.ok objects, c'), n₂) =>
        ((do learnVersion net c'; return ofObjects objects : Survey σ Snapshot).run.run known).run
          n₂
      | ((.error e, _), n₂) => ((.error e, known), n₂) := by
  rw [ofStream, Survey.run_bind, Survey.run_ofAction, h]
  simp only [Survey.run_bind, Survey.run_session, Survey.run_ofAction, Action.run_ofExcept]
  rcases ((Client.resources net).run.run c).run n₁ with ⟨⟨_ | _, _⟩, _⟩ <;> rfl

theorem run_ofStream_of_fetchedInTurn {c c₁ : Client κ} {n₁ n₂ : σ}
    {lists : List (List MeshObject)}
    (hconnect : (Client.connect net address (config.clientForAddress address)).run.run n =
      (.ok c, n₁))
    (hfetch : Client.FetchedInTurn net Kind.all c n₁ lists c₁ n₂)
    (hversion : LearnsVersion net c₁ known n₂ known' n') :
    ((ofStream net config address).run.run known).run n =
      ((.ok (ofObjects lists.flatten), known'), n') := by
  obtain ⟨-, hresources⟩ := Client.of_run_connect hconnect
  simp only [run_ofStream_of_connect hconnect, hresources,
    Client.run_fetchAll_of_fetchedInTurn hfetch, Survey.run_bind, hversion.run_eq]
  rfl

/-- **Taking a snapshot from the stream goes as the relation says.** -/
theorem exists_streamRun (net : Network σ κ) (config : DiscoveryConfig) (address : String)
    (known : DiscoveryState) (n : σ) :
    ∃ r known' n', StreamRun net config address known n r known' n' ∧
      ((ofStream net config address).run.run known).run n = ((r, known'), n') := by
  rcases hconnect : (Client.connect net address (config.clientForAddress address)).run.run n with
    ⟨e | c, n₁⟩
  · refine ⟨.error e, known, n₁, .unconnected hconnect, ?_⟩
    rw [ofStream, Survey.run_bind, Survey.run_ofAction, hconnect]
  obtain ⟨⟨connection, hconnection⟩, hresources⟩ := Client.of_run_connect hconnect
  -- the kinds are fetched in turn, up to the first that cannot be
  rcases Client.fetchedInTurn_or_cannotFetch net hconnection Kind.all n₁ [] with
    ⟨lists, c₁, n₂, _, hfetch, -, -⟩ |
      ⟨i, k, lists, c₁, n₂, e, c₂, n', _, hk, hbefore, hcannot, -, hruns, -⟩
  · obtain ⟨known', n', hversion⟩ := exists_learnsVersion net c₁ known n₂
    exact ⟨_, known', n', .fetched hconnect hfetch hversion,
      run_ofStream_of_fetchedInTurn hconnect hfetch hversion⟩
  · refine ⟨_, known, n', .unfetched hconnect hk hbefore hcannot, ?_⟩
    simp only [run_ofStream_of_connect hconnect, hresources, hruns.original]

theorem StreamRun.eq_of_error {e : Failure}
    (h : StreamRun net config address known n (.error e) known' n') : known' = known := by
  cases h <;> rfl

end StreamRun

theorem mirrors_learnVersion (net : Network σ κ) (c : Client κ) (known : DiscoveryState) :
    Mirrors (Traffic.All Traffic.IsStream) ((learnVersion net c).run.run known)
      ((learnVersion net.recorded c).run.run known) := by
  refine .bind_carrying (.pure _) fun known' known ↦ ?_
  dsimp only
  split
  · refine ((Client.mirrors_version net c).of_session known).bind_carrying fun r known ↦ ?_
    cases r.1 with
    | ok version => exact .pure _
    | error e => exact .pure _
  · exact .pure _

/-- What a client is needed for once it is connected. -/
def ofClient (net : Network σ κ) (client : Client κ) : Survey σ Snapshot := do
  let (objects, client) ← (Client.resources net).run client
  let objects ← .ofAction (Action.ofExcept objects)
  learnVersion net client
  return ofObjects objects

theorem mirrors_ofClient (net : Network σ κ) (c : Client κ) (known : DiscoveryState) :
    Mirrors (Traffic.All Traffic.IsStream) ((ofClient net c).run.run known)
      ((ofClient net.recorded c).run.run known) := by
  have hresources := (Client.mirrors_resources net c).of_session known
  refine hresources.bind_carrying fun (objects, c') known ↦ ?_
  refine ((Mirrors.pure objects).of_action known).bind_carrying fun objects known ↦ ?_
  exact (mirrors_learnVersion net c' known).bind_carrying fun _ _ ↦ .pure _

/-- Taking a snapshot from the stream sends no HTTP requests. -/
theorem mirrors_ofStream (net : Network σ κ) (config : DiscoveryConfig) (address : String)
    (known : DiscoveryState) :
    Mirrors (Traffic.All Traffic.IsNoRequest) ((ofStream net config address).run.run known)
      ((ofStream net.recorded config address).run.run known) := by
  have hconnect {client : ClientConfig} :=
    (Client.mirrors_connect net address client).mono_all fun _ ↦ Traffic.IsConnection.isNoRequest
  refine (hconnect.of_action known).bind_carrying fun c known ↦ ?_
  exact (mirrors_ofClient net c known).mono_all fun _ ↦ Traffic.IsStream.isNoRequest

end Snapshot

end MeshSurvey
