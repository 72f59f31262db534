import MeshSurvey.Resource.Enumeration
import MeshSurvey.Resource.WorkloadSelector

/-!
# Authorization policies

An authorization policy has rules, and says what becomes of a request that one of them matches. A
rule matches by where a request comes from, by what it does, and by further conditions; each list
of values to match has a negated twin.
-/

namespace MeshSurvey

/-- What becomes of a request that a policy matches. -/
inductive PolicyAction where
  /-- It is allowed. -/
  | allow
  /-- It is denied. -/
  | deny
  /-- It is recorded. -/
  | audit
  /-- Another authority decides. -/
  | custom
  deriving DecidableEq, Repr, Inhabited

instance : Enumeration PolicyAction where
  title := "Action"
  values := [.allow, .deny, .audit, .custom]
  first := .allow
  name
    | .allow => "ALLOW"
    | .deny => "DENY"
    | .audit => "AUDIT"
    | .custom => "CUSTOM"
  number
    | .allow => 0
    | .deny => 1
    | .audit => 2
    | .custom => 3

/-! ## Clauses -/

/-- Where a request comes from. -/
structure Source where
  /-- Identities of the peer. -/
  principals : List String := []
  /-- Identities of the request. -/
  requestPrincipals : List String := []
  /-- Namespaces of the peer. -/
  namespaces : List String := []
  /-- Blocks of addresses of the peer. -/
  ipBlocks : List String := []
  /-- Excluded identities of the peer. -/
  notPrincipals : List String := []
  /-- Excluded identities of the request. -/
  notRequestPrincipals : List String := []
  /-- Excluded namespaces of the peer. -/
  notNamespaces : List String := []
  /-- Excluded blocks of addresses of the peer. -/
  notIpBlocks : List String := []
  /-- Blocks of addresses of the first client. -/
  remoteIpBlocks : List String := []
  /-- Excluded blocks of addresses of the first client. -/
  notRemoteIpBlocks : List String := []
  deriving DecidableEq, Repr, Inhabited

namespace Source

/-- The two forms of a source. -/
def schema : Schema Source where
  empty := {}
  members := [
    member 1 "principals" .texts (·.principals) fun v s ↦ { s with principals := v },
    member 2 "requestPrincipals" .texts (·.requestPrincipals)
      fun v s ↦ { s with requestPrincipals := v },
    member 3 "namespaces" .texts (·.namespaces) fun v s ↦ { s with namespaces := v },
    member 4 "ipBlocks" .texts (·.ipBlocks) fun v s ↦ { s with ipBlocks := v },
    member 5 "notPrincipals" .texts (·.notPrincipals) fun v s ↦ { s with notPrincipals := v },
    member 6 "notRequestPrincipals" .texts (·.notRequestPrincipals)
      fun v s ↦ { s with notRequestPrincipals := v },
    member 7 "notNamespaces" .texts (·.notNamespaces) fun v s ↦ { s with notNamespaces := v },
    member 8 "notIpBlocks" .texts (·.notIpBlocks) fun v s ↦ { s with notIpBlocks := v },
    member 9 "remoteIpBlocks" .texts (·.remoteIpBlocks) fun v s ↦ { s with remoteIpBlocks := v },
    member 10 "notRemoteIpBlocks" .texts (·.notRemoteIpBlocks)
      fun v s ↦ { s with notRemoteIpBlocks := v }]

/-- Whether any negated list has an entry. -/
def hasNegativeMatch (s : Source) : Bool :=
  [s.notPrincipals, s.notRequestPrincipals, s.notNamespaces, s.notIpBlocks,
    s.notRemoteIpBlocks].any (!·.isEmpty)

end Source

/-- What a request does. -/
structure Operation where
  /-- Hosts it names. -/
  hosts : List String := []
  /-- Ports it goes to. -/
  ports : List String := []
  methods : List String := []
  paths : List String := []
  /-- Excluded hosts. -/
  notHosts : List String := []
  /-- Excluded ports. -/
  notPorts : List String := []
  /-- Excluded methods. -/
  notMethods : List String := []
  /-- Excluded paths. -/
  notPaths : List String := []
  deriving DecidableEq, Repr, Inhabited

namespace Operation

/-- The two forms of an operation. -/
def schema : Schema Operation where
  empty := {}
  members := [
    member 1 "hosts" .texts (·.hosts) fun v s ↦ { s with hosts := v },
    member 2 "ports" .texts (·.ports) fun v s ↦ { s with ports := v },
    member 3 "methods" .texts (·.methods) fun v s ↦ { s with methods := v },
    member 4 "paths" .texts (·.paths) fun v s ↦ { s with paths := v },
    member 5 "notHosts" .texts (·.notHosts) fun v s ↦ { s with notHosts := v },
    member 6 "notPorts" .texts (·.notPorts) fun v s ↦ { s with notPorts := v },
    member 7 "notMethods" .texts (·.notMethods) fun v s ↦ { s with notMethods := v },
    member 8 "notPaths" .texts (·.notPaths) fun v s ↦ { s with notPaths := v }]

/-- Whether any negated list has an entry. -/
def hasNegativeMatch (o : Operation) : Bool :=
  [o.notHosts, o.notPorts, o.notMethods, o.notPaths].any (!·.isEmpty)

end Operation

/-- A condition on an attribute of a request. -/
structure Condition where
  /-- The name of the attribute. -/
  key : String := ""
  /-- Values that it may have. -/
  values : List String := []
  /-- Values that it may not have. -/
  notValues : List String := []
  deriving DecidableEq, Repr, Inhabited

/-- The two forms of a condition. -/
def Condition.schema : Schema Condition where
  empty := {}
  members := [
    member 1 "key" .text (·.key) fun v s ↦ { s with key := v },
    member 2 "values" .texts (·.values) fun v s ↦ { s with values := v },
    member 3 "notValues" .texts (·.notValues) fun v s ↦ { s with notValues := v }]

/-! ## Rules -/

/-- A clause on where a request comes from. -/
structure SourceClause where
  /-- The source; the clause says nothing when it is absent. -/
  source : Option Source := none
  deriving DecidableEq, Repr, Inhabited

/-- The two forms of the clause. -/
def SourceClause.schema : Schema SourceClause where
  empty := {}
  members := [
    member 1 "source" (.optional Source.schema) (·.source) fun v s ↦ { s with source := v }]

/-- A clause on what a request does. -/
structure OperationClause where
  /-- The operation; the clause says nothing when it is absent. -/
  operation : Option Operation := none
  deriving DecidableEq, Repr, Inhabited

/-- The two forms of the clause. -/
def OperationClause.schema : Schema OperationClause where
  empty := {}
  members := [
    member 1 "operation" (.optional Operation.schema) (·.operation)
      fun v s ↦ { s with operation := v }]

/-- A rule of an authorization policy. -/
structure AuthorizationRule where
  /-- Where a request comes from. -/
  sources : List SourceClause := []
  /-- What it does. -/
  operations : List OperationClause := []
  /-- What else holds of it. -/
  conditions : List Condition := []
  deriving DecidableEq, Repr, Inhabited

/-- The two forms of a rule. -/
def AuthorizationRule.schema : Schema AuthorizationRule where
  empty := {}
  members := [
    member 1 "from" (.list SourceClause.schema) (·.sources) fun v s ↦ { s with sources := v },
    member 2 "to" (.list OperationClause.schema) (·.operations)
      fun v s ↦ { s with operations := v },
    member 3 "when" (.list Condition.schema) (·.conditions) fun v s ↦ { s with conditions := v }]

/-- What an authorization policy says. -/
structure AuthorizationPolicySpec where
  /-- The workloads concerned; all of the namespace when absent. -/
  selector : Option WorkloadSelector := none
  /-- The rules, of which any one matches a request. -/
  rules : List AuthorizationRule := []
  /-- What becomes of a request that a rule matches. -/
  action : Coded PolicyAction := ⟨0⟩
  deriving DecidableEq, Inhabited

/-- The two forms of the policy. -/
def AuthorizationPolicySpec.schema : Schema AuthorizationPolicySpec where
  empty := {}
  members := [
    member 1 "selector" (.optional WorkloadSelector.schema) (·.selector)
      fun v s ↦ { s with selector := v },
    member 2 "rules" (.list AuthorizationRule.schema) (·.rules) fun v s ↦ { s with rules := v },
    member 3 "action" Coded.shape (·.action) fun v s ↦ { s with action := v }]

end MeshSurvey
