import MeshSurvey.Address.DnsLabel
import MeshSurvey.Strategy.Chain

/-!
# The expected namespace

The first strategy of a survey takes the namespace that it was told, if that is a name a namespace
may have.
-/

namespace MeshSurvey.Strategy

variable {σ : Type}

/-- Accepts an update with a namespace that is a label of a domain name. -/
def verifyNamespace (update : DiscoveryUpdate) : Except Failure Unit :=
  let name := update.namespaceName.getD ""
  if isDnsLabel name then .ok ()
  else .error (.verify (Text.quoted name ++ " is not a valid namespace name"))

/-- Takes the namespace that is expected. -/
def expectedNamespace (name : String) : Strategy σ where
  name := "default-namespace"
  run _ := return { namespaceName := some name }
  verify := verifyNamespace

end MeshSurvey.Strategy
