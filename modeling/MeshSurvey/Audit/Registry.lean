import MeshSurvey.Failure
import MeshSurvey.Snapshot

/-!
# Auditors

An auditor checks a snapshot against one rule and reports what it finds; it may also be unable to
judge. A registry runs its auditors in order. One that fails is reported as such, and the findings
of the others stand.
-/

namespace MeshSurvey

/-- Something that an auditor objects to. -/
structure Finding where
  /-- The name of the auditor. -/
  auditor : String
  /-- The resource concerned, if it is a single one. -/
  resource : Option String
  /-- What is wrong. -/
  description : String
  deriving DecidableEq, Repr, Inhabited

/-- A finding in one line. -/
def Finding.text (f : Finding) : String :=
  match f.resource with
  | some resource => "[" ++ f.auditor ++ "] " ++ resource ++ ": " ++ f.description
  | none => "[" ++ f.auditor ++ "] " ++ f.description

/-- What auditors are given. -/
structure AuditContext where
  /-- The configuration. -/
  snapshot : Snapshot
  /-- The namespace of the control plane, whose policies hold for the whole mesh. -/
  rootNamespace : String
  /-- The version of the control plane, if it is known. -/
  version : Option String

/-- A check of one rule. -/
structure Auditor where
  /-- The name of the auditor. -/
  name : String
  /-- The findings. -/
  audit : AuditContext → Except Failure (List Finding)

/-- What a run of auditors yields. -/
structure AuditReport where
  /-- The findings of those that succeeded. -/
  findings : List Finding := []
  /-- Those that failed, by name. -/
  failures : List (String × Failure) := []
  deriving Inhabited

/-- Auditors in the order in which they run. -/
structure AuditorRegistry where
  /-- The auditors. -/
  auditors : List Auditor

namespace AuditorRegistry

/-- The names of the auditors. -/
def names (r : AuditorRegistry) : List String := r.auditors.map (·.name)

/-- The report after one more auditor. -/
def step (context : AuditContext) (report : AuditReport) (auditor : Auditor) : AuditReport :=
  match auditor.audit context with
  | .ok findings => { report with findings := report.findings ++ findings }
  | .error e => { report with failures := report.failures ++ [(auditor.name, e)] }

/-- Runs every auditor on the same context. -/
def run (r : AuditorRegistry) (context : AuditContext) : AuditReport :=
  r.auditors.foldl (step context) {}

end AuditorRegistry

end MeshSurvey
