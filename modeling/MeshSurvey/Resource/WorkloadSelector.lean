import MeshSurvey.Schema

/-!
# Workload selectors

A policy may be limited to the workloads that carry certain labels.
-/

namespace MeshSurvey

/-- The workloads that carry all of the given labels. -/
structure WorkloadSelector where
  matchLabels : KeyMap String String := ∅
  deriving DecidableEq, Inhabited

namespace WorkloadSelector

/-- The two forms of a selector. -/
def schema : Schema WorkloadSelector where
  empty := {}
  members := [
    member 1 "matchLabels" .labels (·.matchLabels) fun v s ↦ { s with matchLabels := v }]

end WorkloadSelector

end MeshSurvey
