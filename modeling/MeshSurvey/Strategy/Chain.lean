import MeshSurvey.Discovery.State
import MeshSurvey.Network.Basic

/-!
# Chains of strategies

A strategy is one way of finding facts: it runs against what is known so far and yields an update,
and it can tell whether an update is usable. A chain tries its strategies one after another. The
first one whose run succeeds with an update that it accepts has that update merged, and nothing
after it is tried; the failures before it are kept. When none succeeds, what is known stays as it
was.
-/

namespace MeshSurvey

/-- An action that may add to what is known, even when it fails. -/
abbrev Survey (σ : Type) := ExceptT Failure (StateT DiscoveryState (StateM σ))

/-- An action that adds nothing to what is known. -/
def Survey.ofAction {σ α : Type} (a : Action σ α) : Survey σ α := ExceptT.mk (monadLift a.run)

/-- One way of finding facts in a network with states `σ`. -/
structure Strategy (σ : Type) where
  /-- The name of the strategy. -/
  name : String
  /-- Looks for facts, given those that are known. -/
  run : DiscoveryState → Action σ DiscoveryUpdate
  /-- Whether an update is usable. -/
  verify : DiscoveryUpdate → Except Failure Unit

/-- How a chain succeeded. -/
structure Outcome where
  /-- The name of the strategy that succeeded. -/
  strategy : String
  /-- The failures of those before it, by name. -/
  attempts : List (String × Failure)
  deriving Inhabited

/-- The failures before the success in one line, where they have words. -/
def Outcome.diagnostics? (o : Outcome) : Option String :=
  (Failure.attemptMessages? o.attempts).map ("; ".intercalate ·)

/-- Strategies for one fact, in the order in which they are tried. -/
structure Chain (σ : Type) where
  /-- What the chain is to find. -/
  fact : String
  strategies : List (Strategy σ)

namespace Strategy

variable {σ : Type}

/-- Runs a strategy and has it accept its own update. -/
def tryOnce (s : Strategy σ) (known : DiscoveryState) : Action σ DiscoveryUpdate := do
  let update ← s.run known
  match s.verify update with
  | .ok () => return update
  | .error e => throw e

end Strategy

namespace Chain

variable {σ : Type}

/-- Tries strategies for a fact, after some that have failed. -/
def tryAll (fact : String) : List (String × Failure) → List (Strategy σ) → Survey σ Outcome
  | attempts, [] => throw (.exhausted fact attempts)
  | attempts, s :: strategies => ExceptT.mk fun known ↦ do
    match ← (s.tryOnce known).run with
    | .ok update => return (.ok ⟨s.name, attempts⟩, known.merge update)
    | .error e => (tryAll fact (attempts ++ [(s.name, e)]) strategies).run known

theorem run_tryAll_nil (fact : String) (attempts : List (String × Failure))
    (known : DiscoveryState) (n : σ) :
    ((tryAll fact attempts []).run.run known).run n =
      ((.error (.exhausted fact attempts), known), n) :=
  rfl

/-- The first strategy decides, or else the others do in the network that it leaves behind. -/
theorem run_tryAll_cons (fact : String) (attempts : List (String × Failure)) (s : Strategy σ)
    (strategies : List (Strategy σ)) (known : DiscoveryState) (n : σ) :
    ((tryAll fact attempts (s :: strategies)).run.run known).run n =
      match (s.tryOnce known).run.run n with
      | (.ok update, n') => ((.ok ⟨s.name, attempts⟩, known.merge update), n')
      | (.error e, n') =>
        ((tryAll fact (attempts ++ [(s.name, e)]) strategies).run.run known).run n' := by
  simp only [tryAll, ExceptT.run_mk, StateT.run, bind, StateT.bind]
  rcases (s.tryOnce known).run n with ⟨_ | _, n'⟩ <;> rfl

/-- Tries the strategies of a chain. -/
def run (c : Chain σ) : Survey σ Outcome := tryAll c.fact [] c.strategies

/-- A chain in one line. -/
def text (c : Chain σ) : String :=
  "Runner \x7b fact: " ++ Text.quoted c.fact ++ ", strategies: " ++
    Text.quotedList (c.strategies.map (·.name)) ++ " \x7d"

end Chain

end MeshSurvey
