import MeshSurvey.Strategy.Chain

/-!
# The first success of a chain

A chain is decided by the first of its strategies whose run succeeds with an update that the
strategy itself accepts. What that means is said here without the loop: the strategies before it
*fail in turn*, each against the facts that were known at the start and in the network that the one
before it leaves, and it is the first to *find* something.

A network is stateful, so "is not run" is a statement about states: the network in which a chain
ends is the one that the deciding strategy leaves, and the outcome is the same whatever stands
behind it.
-/

namespace MeshSurvey

variable {σ : Type}

namespace Strategy

/-- In the network state `n` the strategy finds an update that it accepts, and leaves the state
`n'`. -/
def Finds (s : Strategy σ) (known : DiscoveryState) (n : σ) (update : DiscoveryUpdate) (n' : σ) :
    Prop :=
  (s.run known).run.run n = (.ok update, n') ∧ s.verify update = .ok ()

/-- In the network state `n` the strategy fails and leaves the state `n'`. It may be its run that
fails, or else its check of the update that the run has found. -/
inductive Fails (s : Strategy σ) (known : DiscoveryState) (n : σ) : Failure → σ → Prop where
  /-- The run fails. -/
  | run {e : Failure} {n' : σ} (h : (s.run known).run.run n = (.error e, n')) :
    Fails s known n e n'
  /-- The run succeeds with an update that is not usable. -/
  | verify {update : DiscoveryUpdate} {e : Failure} {n' : σ}
    (hrun : (s.run known).run.run n = (.ok update, n')) (hverify : s.verify update = .error e) :
    Fails s known n e n'

theorem run_tryOnce (s : Strategy σ) (known : DiscoveryState) (n : σ) :
    (s.tryOnce known).run.run n =
      match (s.run known).run.run n with
      | (.ok update, n') => ((s.verify update).map fun _ ↦ update, n')
      | (.error e, n') => (.error e, n') := by
  rw [tryOnce, ExceptT.run_bind, StateT.run_bind]
  rcases (s.run known).run.run n with ⟨e | update, n'⟩
  · rfl
  · simp only [bind]
    rcases s.verify update with e | _ <;> rfl

theorem run_tryOnce_of_finds {s : Strategy σ} {known : DiscoveryState} {n n' : σ}
    {update : DiscoveryUpdate} (h : s.Finds known n update n') :
    (s.tryOnce known).run.run n = (.ok update, n') := by
  obtain ⟨hrun, hverify⟩ := h
  simp only [run_tryOnce, hrun, hverify]
  rfl

theorem run_tryOnce_of_fails {s : Strategy σ} {known : DiscoveryState} {n n' : σ} {e : Failure}
    (h : s.Fails known n e n') : (s.tryOnce known).run.run n = (.error e, n') := by
  cases h with
  | run hrun => rw [run_tryOnce, hrun]
  | verify hrun hverify =>
    simp only [run_tryOnce, hrun, hverify]
    rfl

theorem finds_or_fails (s : Strategy σ) (known : DiscoveryState) (n : σ) :
    (∃ update n', s.Finds known n update n') ∨ ∃ e n', s.Fails known n e n' := by
  rcases hrun : (s.run known).run.run n with ⟨e | update, n'⟩
  · exact .inr ⟨e, n', .run hrun⟩
  · rcases hverify : s.verify update with e | _
    · exact .inr ⟨e, n', .verify hrun hverify⟩
    · exact .inl ⟨update, n', hrun, hverify⟩

theorem exists_finds_of_tryOnce {s : Strategy σ} {known : DiscoveryState} {n : σ} {address : String}
    (h : (((s.tryOnce known).run.run n).1.toOption.bind (·.discoveryAddress)) = some address) :
    ∃ update n', s.Finds known n update n' ∧ update.discoveryAddress = some address := by
  rcases s.finds_or_fails known n with ⟨update, n', hfinds⟩ | ⟨e, n', hfails⟩
  · rw [run_tryOnce_of_finds hfinds] at h
    exact ⟨update, n', hfinds, h⟩
  · rw [run_tryOnce_of_fails hfails] at h
    cases h

/-! ## Failing in turn -/

/-- The strategies of a list fail one after another, from the network state `n` to `n'`. All of them
are given the same facts; their failures are kept under their names. -/
inductive FailInTurn (known : DiscoveryState) :
    List (Strategy σ) → σ → List (String × Failure) → σ → Prop where
  /-- There is nothing to fail. -/
  | nil (n : σ) : FailInTurn known [] n [] n
  /-- The first one fails, and then the others do in the network that it leaves. -/
  | cons {s : Strategy σ} {strategies : List (Strategy σ)} {n n₁ n₂ : σ} {e : Failure}
    {failures : List (String × Failure)} (hhead : s.Fails known n e n₁)
    (htail : FailInTurn known strategies n₁ failures n₂) :
    FailInTurn known (s :: strategies) n ((s.name, e) :: failures) n₂

end Strategy

namespace Chain

open Strategy (FailInTurn)

theorem run_tryAll_append (fact : String) {known : DiscoveryState} {before : List (Strategy σ)}
    {n n' : σ} {failures : List (String × Failure)} (h : FailInTurn known before n failures n')
    (attempts : List (String × Failure)) (rest : List (Strategy σ)) :
    ((tryAll fact attempts (before ++ rest)).run.run known).run n =
      ((tryAll fact (attempts ++ failures) rest).run.run known).run n' := by
  induction h generalizing attempts with
  | nil n => rw [List.nil_append, List.append_nil]
  | @cons s strategies n n₁ n₂ e failures hhead _ ih =>
    rw [List.cons_append, run_tryAll_cons, Strategy.run_tryOnce_of_fails hhead]
    change ((tryAll fact (attempts ++ [(s.name, e)]) (strategies ++ rest)).run.run known).run n₁ = _
    rw [ih, List.append_assoc, List.singleton_append]

/-- Either all strategies of a list fail in turn, or those before some position do and the one at
it finds something. -/
theorem exists_first_find (known : DiscoveryState) (strategies : List (Strategy σ)) (n : σ) :
    (∃ i s update failures n₁ n₂, strategies[i]? = some s ∧
        FailInTurn known (strategies.take i) n failures n₁ ∧ s.Finds known n₁ update n₂) ∨
      ∃ failures n', FailInTurn known strategies n failures n' := by
  induction strategies generalizing n with
  | nil => exact .inr ⟨[], n, .nil n⟩
  | cons s strategies ih =>
    rcases s.finds_or_fails known n with ⟨update, n', hfinds⟩ | ⟨e, n', hfails⟩
    · exact .inl ⟨0, s, update, [], n, n', rfl, .nil n, hfinds⟩
    · rcases ih n' with ⟨i, t, update, failures, n₁, n₂, hi, hturn, hfinds⟩ | ⟨failures, n₂, hturn⟩
      · exact .inl ⟨i + 1, t, update, (s.name, e) :: failures, n₁, n₂, hi, .cons hfails hturn,
          hfinds⟩
      · exact .inr ⟨(s.name, e) :: failures, n₂, .cons hfails hturn⟩

/-- A chain ends with the first strategy that finds something. -/
theorem run_of_finds (fact : String) {known : DiscoveryState} {before : List (Strategy σ)}
    {s : Strategy σ} {update : DiscoveryUpdate} {n n₁ n₂ : σ} {failures : List (String × Failure)}
    (hturn : FailInTurn known before n failures n₁) (hfinds : s.Finds known n₁ update n₂)
    (others : List (Strategy σ)) :
    ((Chain.mk fact (before ++ s :: others)).run.run.run known).run n =
      ((.ok ⟨s.name, failures⟩, known.merge update), n₂) := by
  rw [run, run_tryAll_append fact hturn, List.nil_append, run_tryAll_cons,
    Strategy.run_tryOnce_of_finds hfinds]

theorem run_of_finds_getElem? (c : Chain σ) {i : Nat} {known : DiscoveryState} {s : Strategy σ}
    {update : DiscoveryUpdate} {n n₁ n₂ : σ} {failures : List (String × Failure)}
    (hi : c.strategies[i]? = some s)
    (hturn : FailInTurn known (c.strategies.take i) n failures n₁)
    (hfinds : s.Finds known n₁ update n₂) :
    (c.run.run.run known).run n = ((.ok ⟨s.name, failures⟩, known.merge update), n₂) := by
  have hstrategies : c.strategies = c.strategies.take i ++ s :: c.strategies.drop (i + 1) := by
    obtain ⟨hlt, rfl⟩ := List.getElem?_eq_some_iff.mp hi
    rw [List.getElem_cons_drop, List.take_append_drop]
  have hrun := run_of_finds c.fact hturn hfinds (c.strategies.drop (i + 1))
  rwa [← hstrategies] at hrun

/-- A chain whose strategies all fail leaves what is known as it was. -/
theorem run_of_failInTurn (c : Chain σ) {known : DiscoveryState} {n n' : σ}
    {failures : List (String × Failure)} (hturn : FailInTurn known c.strategies n failures n') :
    (c.run.run.run known).run n = ((.error (.exhausted c.fact failures), known), n') := by
  have h := run_tryAll_append c.fact hturn [] []
  rw [List.append_nil, List.nil_append, run_tryAll_nil] at h
  exact h

theorem exists_finds_of_run (c : Chain σ) {known known' : DiscoveryState} {n n' : σ} {o : Outcome}
    (h : (c.run.run.run known).run n = ((.ok o, known'), n')) :
    ∃ s ∈ c.strategies, s.name = o.strategy ∧
      ∃ update n₁, s.Finds known n₁ update n' ∧ known' = known.merge update := by
  rcases exists_first_find known c.strategies n with
    ⟨i, s, update, failures, n₁, n₂, hi, hturn, hfinds⟩ | ⟨failures, n₂, hturn⟩
  · rw [run_of_finds_getElem? c hi hturn hfinds] at h
    cases h
    exact ⟨s, List.mem_of_getElem? hi, rfl, update, n₁, hfinds, rfl⟩
  · rw [run_of_failInTurn c hturn] at h
    cases h

/-- **A chain is decided by its first success.** Either there is a position `i` before which all
strategies fail in turn and at which one finds an update. Then the chain succeeds under that
strategy's name with exactly those failures, what is known is what was known at the start together
with that update, and nothing behind it is run: the network stays as the strategy leaves it, and
any other strategies in the place of those behind it make no difference. Or all strategies fail in
turn. Then the chain fails for its fact with exactly these failures, and what is known stays as it
was. -/
theorem run_eq_first_success (c : Chain σ) (known : DiscoveryState) (n : σ) :
    (∃ i s update failures n₁ n₂, c.strategies[i]? = some s ∧
        FailInTurn known (c.strategies.take i) n failures n₁ ∧ s.Finds known n₁ update n₂ ∧
        (c.run.run.run known).run n = ((.ok ⟨s.name, failures⟩, known.merge update), n₂) ∧
        ∀ others : List (Strategy σ),
          ((Chain.mk c.fact (c.strategies.take (i + 1) ++ others)).run.run.run known).run n =
            ((.ok ⟨s.name, failures⟩, known.merge update), n₂)) ∨
      ∃ failures n', FailInTurn known c.strategies n failures n' ∧
        (c.run.run.run known).run n = ((.error (.exhausted c.fact failures), known), n') := by
  rcases exists_first_find known c.strategies n with
    ⟨i, s, update, failures, n₁, n₂, hi, hturn, hfinds⟩ | ⟨failures, n', hturn⟩
  · obtain ⟨hlt, hs⟩ := List.getElem?_eq_some_iff.mp hi
    have htake : c.strategies.take (i + 1) = c.strategies.take i ++ [s] := by
      rw [List.take_add_one, hi, Option.toList_some]
    have hothers : ∀ others : List (Strategy σ),
        ((Chain.mk c.fact (c.strategies.take (i + 1) ++ others)).run.run.run known).run n =
          ((.ok ⟨s.name, failures⟩, known.merge update), n₂) := by
      intro others
      rw [htake, List.append_assoc, List.singleton_append]
      exact run_of_finds c.fact hturn hfinds others
    -- the chain is the case in which the others are those that stand there
    refine .inl ⟨i, s, update, failures, n₁, n₂, hi, hturn, hfinds, ?_, hothers⟩
    have hwhole := hothers (c.strategies.drop (i + 1))
    rwa [List.take_append_drop] at hwhole
  · exact .inr ⟨failures, n', hturn, run_of_failInTurn c hturn⟩

end Chain

end MeshSurvey
