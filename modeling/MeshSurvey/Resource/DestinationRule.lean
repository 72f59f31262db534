import MeshSurvey.Resource.Enumeration

/-!
# Destination rules

A destination rule says how clients talk to a service: its traffic policy, and named subsets of the
service's endpoints with policies of their own.
-/

namespace MeshSurvey

/-- How a client uses TLS. -/
inductive ClientTlsMode where
  /-- Not at all. -/
  | disable
  /-- It checks the server. -/
  | simple
  /-- It also presents a certificate. -/
  | mutual
  /-- As before, with certificates that the mesh issues. -/
  | istioMutual
  deriving DecidableEq, Repr, Inhabited

instance : Enumeration ClientTlsMode where
  title := "ClientTlsMode"
  values := [.disable, .simple, .mutual, .istioMutual]
  first := .disable
  name
    | .disable => "DISABLE"
    | .simple => "SIMPLE"
    | .mutual => "MUTUAL"
    | .istioMutual => "ISTIO_MUTUAL"
  number
    | .disable => 0
    | .simple => 1
    | .mutual => 2
    | .istioMutual => 3

/-- TLS settings of a client. -/
structure ClientTlsSettings where
  /-- How TLS is used. -/
  mode : Coded ClientTlsMode := ⟨0⟩
  /-- Where the client's certificate is. -/
  clientCertificate : String := ""
  /-- Where the client's key is. -/
  privateKey : String := ""
  /-- Where the certificates of authorities are. -/
  caCertificates : String := ""
  /-- Names that the server may have. -/
  subjectAltNames : List String := []
  /-- The name that the client asks for. -/
  sni : String := ""
  credentialName : String := ""
  deriving DecidableEq, Repr, Inhabited

/-- The two forms of the settings. -/
def ClientTlsSettings.schema : Schema ClientTlsSettings where
  empty := {}
  members := [
    member 1 "mode" Coded.shape (·.mode) fun v s ↦ { s with mode := v },
    member 2 "clientCertificate" .text (·.clientCertificate)
      fun v s ↦ { s with clientCertificate := v },
    member 3 "privateKey" .text (·.privateKey) fun v s ↦ { s with privateKey := v },
    member 4 "caCertificates" .text (·.caCertificates) fun v s ↦ { s with caCertificates := v },
    member 5 "subjectAltNames" .texts (·.subjectAltNames) fun v s ↦ { s with subjectAltNames := v },
    member 6 "sni" .text (·.sni) fun v s ↦ { s with sni := v },
    member 7 "credentialName" .text (·.credentialName) fun v s ↦ { s with credentialName := v }]

/-- How traffic to a destination is treated. -/
structure TrafficPolicy where
  tls : Option ClientTlsSettings := none
  deriving DecidableEq, Repr, Inhabited

/-- The two forms of the policy. -/
def TrafficPolicy.schema : Schema TrafficPolicy where
  empty := {}
  members := [
    member 4 "tls" (.optional ClientTlsSettings.schema) (·.tls) fun v s ↦ { s with tls := v }]

/-- A named part of a service's endpoints. -/
structure Subset where
  name : String := ""
  /-- The labels of its endpoints. -/
  labels : KeyMap String String := ∅
  trafficPolicy : Option TrafficPolicy := none
  deriving DecidableEq, Inhabited

/-- The two forms of a subset. -/
def Subset.schema : Schema Subset where
  empty := {}
  members := [
    member 1 "name" .text (·.name) fun v s ↦ { s with name := v },
    member 2 "labels" .labels (·.labels) fun v s ↦ { s with labels := v },
    member 3 "trafficPolicy" (.optional TrafficPolicy.schema) (·.trafficPolicy)
      fun v s ↦ { s with trafficPolicy := v }]

/-- What a destination rule says. -/
structure DestinationRuleSpec where
  /-- The service concerned. -/
  host : String := ""
  /-- The policy for all of it. -/
  trafficPolicy : Option TrafficPolicy := none
  subsets : List Subset := []
  /-- The namespaces in which the rule is visible. -/
  exportTo : List String := []
  deriving DecidableEq, Inhabited

/-- The two forms of the rule. -/
def DestinationRuleSpec.schema : Schema DestinationRuleSpec where
  empty := {}
  members := [
    member 1 "host" .text (·.host) fun v s ↦ { s with host := v },
    member 2 "trafficPolicy" (.optional TrafficPolicy.schema) (·.trafficPolicy)
      fun v s ↦ { s with trafficPolicy := v },
    member 3 "subsets" (.list Subset.schema) (·.subsets) fun v s ↦ { s with subsets := v },
    member 4 "exportTo" .texts (·.exportTo) fun v s ↦ { s with exportTo := v }]

end MeshSurvey
