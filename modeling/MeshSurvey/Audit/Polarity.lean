import MeshSurvey.Audit.Registry

/-!
# Rules that match the wrong way

A policy that allows what is not excluded allows whatever nobody thought of, and a policy that
denies certain paths is evaded by other spellings of them. Safe policies allow by what matches and
deny by what does not; the others are flagged.
-/

namespace MeshSurvey

namespace AuthorizationRule

/-- Whether the rule has a negated list with an entry. -/
def hasNegativeMatch (r : AuthorizationRule) : Bool :=
  (r.sources.filterMap (·.source)).any (·.hasNegativeMatch) ||
    (r.operations.filterMap (·.operation)).any (·.hasNegativeMatch) ||
    r.conditions.any (!·.notValues.isEmpty)

/-- Whether the rule names paths. -/
def hasPositivePath (r : AuthorizationRule) : Bool :=
  (r.operations.filterMap (·.operation)).any (!·.paths.isEmpty)

end AuthorizationRule

namespace PolarityAudit

/-- The name of the auditor. -/
def name : String := "authz-polarity"

/-- What is wrong with a policy, if anything is. -/
def objection? (spec : AuthorizationPolicySpec) : Option String :=
  match spec.action.value with
  | .allow =>
    if spec.rules.any (·.hasNegativeMatch) then
      some "ALLOW policy uses negative matching; use positive matching instead"
    else none
  | .deny =>
    if spec.rules.any (·.hasPositivePath) then
      some "DENY policy matches paths positively; use notPaths instead"
    else none
  | .audit | .custom => none

/-- The finding on a policy, if there is one. -/
def finding? (policy : Custom AuthorizationPolicySpec) : Option Finding :=
  (objection? policy.spec).map fun objection ↦
    ⟨name, some ("authorizationpolicy/" ++ policy.metadata.fullName), objection⟩

/-- Flags policies that match the wrong way. -/
def auditor : Auditor :=
  ⟨name, fun context ↦ .ok (context.snapshot.authorizationPolicies.filterMap finding?)⟩

end PolarityAudit

end MeshSurvey
