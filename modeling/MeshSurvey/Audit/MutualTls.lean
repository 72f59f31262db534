import MeshSurvey.Audit.Registry

/-!
# Plaintext traffic

Flags namespaces whose workloads accept plaintext. A policy without selector holds for its whole
namespace, and one in the root namespace for every namespace without a policy of its own. With
neither, plaintext is accepted. A port that a policy opens to plaintext is flagged by itself.
-/

namespace MeshSurvey.MutualTlsAudit

/-- The name of the auditor. -/
def name : String := "mtls"

/-- The mode that the namespace-wide policies of a namespace set: the first one that is set. -/
def namespaceMode? (policies : List (Custom PeerAuthenticationSpec)) (namespaceName : String) :
    Option MtlsMode :=
  ((policies.filter fun p ↦
      p.metadata.namespaceName = some namespaceName && p.spec.isNamespaceWide).map
    (·.spec.mode)).find? (· ≠ .unset)

/-- The mode of a namespace: its own, or that of the root namespace, or else permissive. -/
def inheritedMode (policies : List (Custom PeerAuthenticationSpec))
    (rootNamespace namespaceName : String) : MtlsMode :=
  ((namespaceMode? policies namespaceName).or (namespaceMode? policies rootNamespace)).getD
    .permissive

/-- The finding on a namespace by its name and mode, unless the mode is strict. -/
def namespaceFinding? (namespaceName : String) (mode : MtlsMode) : Option Finding :=
  if mode = .strict then none
  else some ⟨name, some ("namespace/" ++ namespaceName),
    "mutual TLS is " ++ mode.text ++ " rather than STRICT"⟩

/-- The findings on the ports of a policy. -/
def portFindings (policy : Custom PeerAuthenticationSpec) : List Finding :=
  policy.spec.portLevelMtls.entries.filterMap fun (port, mtls) ↦
    if mtls.mode.value = .disable then
      some ⟨name, some ("peerauthentication/" ++ policy.metadata.fullName),
        "mutual TLS is disabled on port " ++ toString port.toNat⟩
    else none

/-- The findings on namespaces with a name, and then those on ports. -/
def findings (context : AuditContext) : List Finding :=
  let policies := context.snapshot.peerAuthentications
  context.snapshot.namespaces.filterMap (fun n ↦
      n.metadata.name.bind fun namespaceName ↦
        namespaceFinding? namespaceName
          (inheritedMode policies context.rootNamespace namespaceName)) ++
    policies.flatMap portFindings

/-- Flags plaintext traffic. -/
def auditor : Auditor := ⟨name, fun context ↦ .ok (findings context)⟩

end MeshSurvey.MutualTlsAudit
