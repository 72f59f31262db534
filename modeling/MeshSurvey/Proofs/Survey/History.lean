import Mathlib.Data.List.Basic
import MeshSurvey.Proofs.Retrieval.Version
import MeshSurvey.Proofs.Strategy.FirstSuccess

/-!
# The history of a survey

What is known of a control plane is filled in by calls of two sorts: chains, which commit the update
of a strategy, and snapshots, which may be told a version. However many calls there are, whatever
the chains and the networks, and in whatever order: a fact that is known never changes again. So at
the end it is what it was at the start, or else what the first call has gained that had it to offer.

The facts are of two sorts as well. A text is known when it is there, even if it is empty; the list
of kubelets is known when it is not empty. With a fact as an option in either case, merging is
"the first one that is there", fact by fact, and the rest of the theory does not tell them apart.
-/

namespace MeshSurvey

/-! ## Facts -/

/-- What may be known of a control plane. -/
inductive Fact where
  /-- The namespace it runs in. -/
  | namespaceName
  /-- The address of its discovery service. -/
  | discoveryAddress
  /-- The address of its debug endpoint. -/
  | debugAddress
  /-- The kubelets that answered. -/
  | kubelets
  /-- Its version. -/
  | version
  deriving DecidableEq, Repr

namespace Fact

/-- What is known when a fact is. -/
def Value : Fact → Type
  | .kubelets => List String
  | .namespaceName | .discoveryAddress | .debugAddress | .version => String

/-- A list that is not empty. -/
def ofList? (kubelets : List String) : Option (List String) :=
  if kubelets = [] then none else some kubelets

theorem ofList?_ite (kubelets others : List String) :
    ofList? (if kubelets.isEmpty then others else kubelets) =
      (ofList? kubelets).or (ofList? others) := by
  cases kubelets <;> rfl

theorem ofList?_injective {kubelets others : List String} (h : ofList? kubelets = ofList? others) :
    kubelets = others := by
  cases kubelets <;> cases others <;> simp_all [ofList?]

end Fact

/-- A fact that an update has to offer. -/
def DiscoveryUpdate.fact? (u : DiscoveryUpdate) : (f : Fact) → Option f.Value
  | .namespaceName => u.namespaceName
  | .discoveryAddress => u.discoveryAddress
  | .debugAddress => u.debugAddress
  | .kubelets => Fact.ofList? u.kubelets
  | .version => u.version

namespace DiscoveryState

/-- A fact, if it is known. -/
def fact? (s : DiscoveryState) : (f : Fact) → Option f.Value
  | .namespaceName => s.namespaceName
  | .discoveryAddress => s.discoveryAddress
  | .debugAddress => s.debugAddress
  | .kubelets => Fact.ofList? s.kubelets
  | .version => s.version

theorem fact?_merge (s : DiscoveryState) (u : DiscoveryUpdate) (f : Fact) :
    (s.merge u).fact? f = (s.fact? f).or (u.fact? f) := by
  cases f with
  | kubelets => exact Fact.ofList?_ite s.kubelets u.kubelets
  | _ => rfl

theorem ext_fact? {s t : DiscoveryState} (h : ∀ f, s.fact? f = t.fact? f) : s = t := by
  obtain ⟨_, _, _, _, _⟩ := s
  obtain ⟨_, _, _, _, _⟩ := t
  obtain rfl := h .namespaceName
  obtain rfl := h .discoveryAddress
  obtain rfl := h .debugAddress
  obtain rfl := Fact.ofList?_injective (h .kubelets)
  obtain rfl := h .version
  rfl

theorem merge_eq_self {s : DiscoveryState} {u : DiscoveryUpdate}
    (h : ∀ f, (u.fact? f).isSome = true → (s.fact? f).isSome = true) : s.merge u = s := by
  refine ext_fact? fun f ↦ ?_
  rw [fact?_merge]
  cases hknown : s.fact? f with
  | some value => rw [Option.some_or]
  | none =>
    rw [Option.none_or, ← Option.not_isSome_iff_eq_none]
    intro hoffer
    have hsome := h f hoffer
    rw [hknown] at hsome
    cases hsome

end DiscoveryState

namespace Survey

/-! ## Calls and what they gain -/

/-- A call, with the network that it finds. -/
inductive Call : Type 1 where
  /-- A chain is run. -/
  | chain {σ : Type} (c : Chain σ) (n : σ)
  /-- A snapshot is taken. -/
  | snapshot {σ κ : Type} (net : Network σ κ) (config : DiscoveryConfig) (n : σ)

/-- What is known after a call, whether it succeeds or fails. -/
def Call.after : Call → DiscoveryState → DiscoveryState
  | .chain c n, known => ((c.run.run.run known).run n).1.2
  | .snapshot net config n, known => (((Snapshot.retrieve net config).run.run known).run n).1.2

/-- What a call may add to what is known. -/
inductive Gain where
  /-- The update of a strategy is committed. -/
  | update (u : DiscoveryUpdate)
  /-- A version is told. -/
  | told (version : String)

namespace Gain

/-- A fact that is gained. -/
def fact? : Gain → (f : Fact) → Option f.Value
  | .update u, f => u.fact? f
  | .told version, .version => some version
  | .told _, .namespaceName | .told _, .discoveryAddress | .told _, .debugAddress
  | .told _, .kubelets => none

/-- The update, if one was committed. -/
def update? : Gain → Option DiscoveryUpdate
  | .update u => some u
  | .told _ => none

/-- The updates that were committed, in order. -/
def updates (gains : List Gain) : List DiscoveryUpdate := gains.filterMap update?

/-- Among gains the committed updates alone have a fact to offer, but for told versions. -/
theorem findSome?_fact?_eq (f : Fact) {gains : List Gain}
    (h : f ≠ .version ∨ ∀ version, Gain.told version ∉ gains) :
    gains.findSome? (·.fact? f) = (updates gains).findSome? (·.fact? f) := by
  rw [← List.head?_filterMap, ← List.head?_filterMap, updates, List.filterMap_filterMap]
  refine congrArg List.head? (List.filterMap_congr fun gain hgain ↦ ?_)
  cases gain with
  | update u => rfl
  | told version =>
    have hf : f ≠ .version := h.resolve_right fun hnone ↦ hnone version hgain
    cases f with
    | version => exact absurd rfl hf
    | _ => rfl

end Gain

/-- What a call gains, given what is known. -/
inductive Call.Gains (known : DiscoveryState) : Call → List Gain → Prop where
  /-- The strategies before some position fail in turn, and the update that is found at it is
  committed. -/
  | committed {σ : Type} {c : Chain σ} {n n₁ n₂ : σ} {i : Nat} {s : Strategy σ}
    {update : DiscoveryUpdate} {failures : List (String × Failure)} (hi : c.strategies[i]? = some s)
    (hturn : Strategy.FailInTurn known (c.strategies.take i) n failures n₁)
    (hfinds : s.Finds known n₁ update n₂) :
    Gains known (.chain c n) [.update update]
  /-- All strategies fail in turn. -/
  | exhausted {σ : Type} {c : Chain σ} {n n' : σ} {failures : List (String × Failure)}
    (hturn : Strategy.FailInTurn known c.strategies n failures n') :
    Gains known (.chain c n) []
  /-- The version is missing, and the control plane tells it. -/
  | told {σ κ : Type} {net : Network σ κ} {config : DiscoveryConfig} {n n' : σ}
    {r : Except Failure Snapshot} {version : String}
    (htells : Snapshot.TellsVersion net config known n r version n') :
    Gains known (.snapshot net config n) [.told version]
  /-- The version is not missing, or the control plane does not tell it. -/
  | untold {σ κ : Type} {net : Network σ κ} {config : DiscoveryConfig} {n : σ}
    (hsilent : ∀ r version n', ¬ Snapshot.TellsVersion net config known n r version n') :
    Gains known (.snapshot net config n) []

namespace Call

theorem exists_gains (call : Call) (known : DiscoveryState) :
    ∃ gains, call.Gains known gains := by
  cases call with
  | chain c n =>
    rcases Chain.exists_first_find known c.strategies n with
      ⟨i, s, update, failures, n₁, n₂, hi, hturn, hfinds⟩ | ⟨failures, n', hturn⟩
    · exact ⟨_, .committed hi hturn hfinds⟩
    · exact ⟨_, .exhausted hturn⟩
  | snapshot net config n =>
    by_cases htells : ∃ r version n', Snapshot.TellsVersion net config known n r version n'
    · obtain ⟨r, version, n', htells⟩ := htells
      exact ⟨_, .told htells⟩
    · exact ⟨_, .untold fun r version n' h ↦ htells ⟨r, version, n', h⟩⟩

/-- What is known before a call is kept, and what is missing is taken from the gain. -/
theorem Gains.fact?_after {call : Call} {known : DiscoveryState} {gains : List Gain}
    (h : call.Gains known gains) (f : Fact) :
    (call.after known).fact? f = (known.fact? f).or (gains.findSome? (·.fact? f)) := by
  cases h with
  | @committed _ c n n₁ n₂ i s update failures hi hturn hfinds =>
    have hrun := c.run_of_finds_getElem? hi hturn hfinds
    have hafter : (Call.chain c n).after known = known.merge update := congrArg (·.1.2) hrun
    rw [hafter, DiscoveryState.fact?_merge, List.findSome?_singleton]
    rfl
  | @exhausted _ c n n' failures hturn =>
    have hafter : (Call.chain c n).after known = known :=
      congrArg (·.1.2) (Chain.run_of_failInTurn c hturn)
    rw [hafter, List.findSome?_nil, Option.or_none]
  | @told _ _ net config n n' r version htells =>
    have hafter : (Call.snapshot net config n).after known =
        { known with version := some version } := congrArg (·.1.2) htells.run_eq
    -- a version is told only where none is known
    have hmissing : known.version = none := by
      cases htells with
      | intro hknown => exact hknown
    rw [hafter, List.findSome?_singleton]
    cases f with
    | version =>
      change some version = known.version.or (some version)
      rw [hmissing, Option.none_or]
    | _ => exact Option.or_none.symm
  | @untold _ _ net config n hsilent =>
    obtain ⟨r, known', n', more, hsource, hrun, -⟩ :=
      Snapshot.exists_sourceRun net config known n []
    have hafter : (Call.snapshot net config n).after known = known' := congrArg (·.1.2) hrun
    rcases hsource.eq_or_tellsVersion with rfl | ⟨version, htells, -⟩
    · rw [hafter, List.findSome?_nil, Option.or_none]
    · exact absurd htells (hsilent r version n')

end Call

/-! ## Histories -/

/-- What is known after some calls. -/
def after (calls : List Call) (known : DiscoveryState) : DiscoveryState :=
  calls.foldl (fun known call ↦ call.after known) known

/-- What calls gain one after another. -/
inductive History : DiscoveryState → List Call → List Gain → Prop where
  /-- There are no calls. -/
  | nil (known : DiscoveryState) : History known [] []
  /-- A call is made, and then the others are. -/
  | cons {known : DiscoveryState} {call : Call} {calls : List Call} {gains others : List Gain}
    (hcall : call.Gains known gains) (hcalls : History (call.after known) calls others) :
    History known (call :: calls) (gains ++ others)

theorem exists_history (calls : List Call) (known : DiscoveryState) :
    ∃ gains, History known calls gains := by
  induction calls generalizing known with
  | nil => exact ⟨[], .nil known⟩
  | cons call calls ih =>
    obtain ⟨gains, hcall⟩ := call.exists_gains known
    obtain ⟨others, hcalls⟩ := ih (call.after known)
    exact ⟨gains ++ others, .cons hcall hcalls⟩

theorem History.fact?_after {calls : List Call} {known : DiscoveryState} {gains : List Gain}
    (h : History known calls gains) (f : Fact) :
    (after calls known).fact? f = (known.fact? f).or (gains.findSome? (·.fact? f)) := by
  induction h with
  | nil known => exact Option.or_none.symm
  | @cons known call calls gains others hcall _ ih =>
    have hafter : after (call :: calls) known = after calls (call.after known) := rfl
    rw [hafter, ih, hcall.fact?_after, Option.or_assoc, ← List.findSome?_append]

theorem fact?_after_of_eq_some {known : DiscoveryState} {f : Fact} {value : f.Value}
    (h : known.fact? f = some value) (calls : List Call) :
    (after calls known).fact? f = some value := by
  obtain ⟨gains, hgains⟩ := exists_history calls known
  rw [hgains.fact?_after, h, Option.some_or]

/-- What was committed in the course of some calls has nothing more to offer. -/
theorem History.merge_after {calls : List Call} {known : DiscoveryState} {gains : List Gain}
    (h : History known calls gains) {u : DiscoveryUpdate} (hu : Gain.update u ∈ gains) :
    (after calls known).merge u = after calls known := by
  refine DiscoveryState.merge_eq_self fun f hoffer ↦ ?_
  have hfound : (gains.findSome? (·.fact? f)).isSome = true :=
    List.findSome?_isSome_iff.mpr ⟨.update u, hu, hoffer⟩
  rw [h.fact?_after, Option.isSome_or, hfound, Bool.or_true]

/-- **Facts are committed once.** Calls of chains and of snapshots, in whatever number and order,
have a history of gains. Each fact is at the end what it was at the start, or else what the first
gain has to offer that offers it, or else it is still missing; unless it is a version that some
snapshot was told, it is the committed updates alone that count. A fact that is known after some of
the calls is the same after all of them. In particular an update that was committed changes nothing
when it is merged again, neither at once nor later, and no update changes anything once every fact
is known. -/
theorem facts_are_committed_once (calls : List Call) (known : DiscoveryState) :
    (∃ gains, History known calls gains) ∧
    (∀ gains, History known calls gains →
      (∀ f, (after calls known).fact? f = (known.fact? f).or (gains.findSome? (·.fact? f))) ∧
      (∀ f, (f ≠ .version ∨ ∀ version, Gain.told version ∉ gains) →
        (after calls known).fact? f =
          (known.fact? f).or ((Gain.updates gains).findSome? (·.fact? f))) ∧
      ∀ u, Gain.update u ∈ gains → (after calls known).merge u = after calls known) ∧
    (∀ before others f value, calls = before ++ others →
      (after before known).fact? f = some value → (after calls known).fact? f = some value) ∧
    (∀ u, (known.merge u).merge u = known.merge u) ∧
    ((∀ f, (known.fact? f).isSome = true) → ∀ u, known.merge u = known) := by
  refine ⟨exists_history calls known, fun gains hgains ↦ ⟨hgains.fact?_after, fun f hf ↦ ?_,
    fun u hu ↦ hgains.merge_after hu⟩, ?_, known.merge_merge_self, fun hall u ↦ ?_⟩
  · rw [hgains.fact?_after, Gain.findSome?_fact?_eq f hf]
  · rintro before others f value rfl hvalue
    rw [after, List.foldl_append]
    exact fact?_after_of_eq_some hvalue others
  · exact DiscoveryState.merge_eq_self fun f _ ↦ hall f

end Survey

end MeshSurvey
