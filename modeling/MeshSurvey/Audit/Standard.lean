import MeshSurvey.Audit.MutualTls
import MeshSurvey.Audit.Polarity
import MeshSurvey.Audit.Vulnerability

/-!
# The standard audit

The auditors that run when none are chosen.
-/

namespace MeshSurvey

/-- The standard auditors. -/
def AuditorRegistry.standard : AuditorRegistry :=
  ⟨[MutualTlsAudit.auditor, PolarityAudit.auditor,
    VulnerabilityAudit.auditor Vulnerability.published]⟩

end MeshSurvey
