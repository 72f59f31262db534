import MeshSurvey.Audit.Registry

/-!
# Auditors run apart

What a run of auditors yields is told by what each of them comes to on the context alone: the
findings of those that succeed, one after another, and the failures of the others. The run adds to
two lists as it goes, so both are followed at once, from whatever stands in them already.

An auditor that fails leaves no mark on the findings. So auditors that fail may stand anywhere, and
a registry that is cut in two finds what its two parts find.
-/

namespace MeshSurvey

/-! ## Outcomes -/

/-- What an auditor comes to, under its name. -/
abbrev AuditOutcome := String × Except Failure (List Finding)

namespace Auditor

/-- What the auditor comes to on a context. -/
def outcome (context : AuditContext) (a : Auditor) : AuditOutcome := (a.name, a.audit context)

/-- The auditor is unable to judge the context. -/
def Fails (context : AuditContext) (a : Auditor) : Prop := ∃ e, a.audit context = .error e

end Auditor

namespace AuditOutcome

/-- The findings of those that succeeded, one after another. -/
def findings (outcomes : List AuditOutcome) : List Finding :=
  (outcomes.filterMap fun o ↦ o.2.toOption).flatten

/-- The failures of those that failed, each under the auditor's name. -/
def failures (outcomes : List AuditOutcome) : List (String × Failure) :=
  outcomes.filterMap fun
    | (_, .ok _) => none
    | (name, .error e) => some (name, e)

variable {outcomes others : List AuditOutcome} {name : String}

theorem findings_append :
    findings (outcomes ++ others) = findings outcomes ++ findings others := by
  rw [findings, List.filterMap_append, List.flatten_append]
  rfl

theorem findings_cons (o : AuditOutcome) :
    findings (o :: outcomes) = findings [o] ++ findings outcomes := by
  rw [← findings_append, List.singleton_append]

theorem findings_cons_ok {new : List Finding} :
    findings ((name, .ok new) :: outcomes) = new ++ findings outcomes := rfl

theorem findings_cons_error {e : Failure} :
    findings ((name, .error e) :: outcomes) = findings outcomes := rfl

theorem failures_cons_ok {new : List Finding} :
    failures ((name, .ok new) :: outcomes) = failures outcomes := rfl

theorem failures_cons_error {e : Failure} :
    failures ((name, .error e) :: outcomes) = (name, e) :: failures outcomes := rfl

end AuditOutcome

namespace AuditReport

/-- The report with what more auditors have come to. -/
def add (report : AuditReport) (outcomes : List AuditOutcome) : AuditReport where
  findings := report.findings ++ AuditOutcome.findings outcomes
  failures := report.failures ++ AuditOutcome.failures outcomes

theorem add_nil (report : AuditReport) : report.add [] = report := by
  simp only [add, AuditOutcome.findings, AuditOutcome.failures, List.filterMap_nil,
    List.flatten_nil, List.append_nil]

end AuditReport

namespace AuditorRegistry

open AuditOutcome

/-- One more auditor adds its findings or its failure, and then the others add theirs. -/
theorem add_step (context : AuditContext) (report : AuditReport) (a : Auditor)
    (outcomes : List AuditOutcome) :
    (step context report a).add outcomes = report.add (a.outcome context :: outcomes) := by
  rw [step, Auditor.outcome]
  cases a.audit context with
  | ok new =>
    simp only [AuditReport.add, findings_cons_ok, failures_cons_ok, List.append_assoc]
  | error e =>
    simp only [AuditReport.add, findings_cons_error, failures_cons_error, List.append_assoc,
      List.singleton_append]

theorem foldl_step (context : AuditContext) (auditors : List Auditor) (report : AuditReport) :
    auditors.foldl (step context) report = report.add (auditors.map (·.outcome context)) := by
  induction auditors generalizing report with
  | nil => exact report.add_nil.symm
  | cons a auditors ih => rw [List.foldl_cons, ih, add_step, List.map_cons]

theorem findings_run (r : AuditorRegistry) (context : AuditContext) :
    (r.run context).findings = findings (r.auditors.map (·.outcome context)) := by
  rw [run, foldl_step]
  rfl

theorem failures_run (r : AuditorRegistry) (context : AuditContext) :
    (r.run context).failures = failures (r.auditors.map (·.outcome context)) := by
  rw [run, foldl_step]
  rfl

/-! ## Auditors that fail -/

/-- The same auditors in the same order, but for some in either list that fail on the context. -/
inductive UpToFailing (context : AuditContext) : List Auditor → List Auditor → Prop where
  /-- There are none. -/
  | nil : UpToFailing context [] []
  /-- An auditor stands in both lists. -/
  | both {a : Auditor} {before after : List Auditor} (h : UpToFailing context before after) :
    UpToFailing context (a :: before) (a :: after)
  /-- One that fails is removed. -/
  | removed {a : Auditor} {before after : List Auditor} (hfails : a.Fails context)
    (h : UpToFailing context before after) : UpToFailing context (a :: before) after
  /-- One that fails is inserted. -/
  | inserted {a : Auditor} {before after : List Auditor} (hfails : a.Fails context)
    (h : UpToFailing context before after) : UpToFailing context before (a :: after)

theorem findings_outcome_cons_of_fails {context : AuditContext} {a : Auditor}
    (hfails : a.Fails context) (outcomes : List AuditOutcome) :
    findings (a.outcome context :: outcomes) = findings outcomes := by
  obtain ⟨e, he⟩ := hfails
  rw [Auditor.outcome, he, findings_cons_error]

/-- Auditors that fail find nothing, wherever they stand. -/
theorem UpToFailing.findings_eq {context : AuditContext} {before after : List Auditor}
    (h : UpToFailing context before after) :
    findings (before.map (·.outcome context)) = findings (after.map (·.outcome context)) := by
  induction h with
  | nil => rfl
  | both _ ih => rw [List.map_cons, List.map_cons, findings_cons, ih, ← findings_cons]
  | removed hfails _ ih => rw [List.map_cons, findings_outcome_cons_of_fails hfails, ih]
  | inserted hfails _ ih => rw [List.map_cons, findings_outcome_cons_of_fails hfails, ih]

/-- **Auditors do not disturb each other.** Every auditor is run on the same context. The findings
are those of the auditors that succeed, in the order of the registry, and the failures are those of
the auditors that fail, in the same order and under their names. So auditors that fail may be put in
or taken out anywhere without a change to the findings, and if a registry is cut in two, then it
finds what the first part finds and then what the second part does. -/
theorem auditors_run_apart (r : AuditorRegistry) (context : AuditContext) :
    (r.run context).findings = findings (r.auditors.map (·.outcome context)) ∧
      (r.run context).failures = failures (r.auditors.map (·.outcome context)) ∧
      (∀ s : AuditorRegistry, UpToFailing context r.auditors s.auditors →
        (s.run context).findings = (r.run context).findings) ∧
      ∀ first second : AuditorRegistry, r.auditors = first.auditors ++ second.auditors →
        (r.run context).findings =
          (first.run context).findings ++ (second.run context).findings := by
  refine ⟨findings_run r context, failures_run r context, fun s h ↦ ?_, fun first second h ↦ ?_⟩
  · rw [findings_run, findings_run, h.findings_eq]
  · rw [findings_run, findings_run, findings_run, h, List.map_append, findings_append]

example (context : AuditContext) (finding : Finding) (e : Failure) :
    (run ⟨[⟨"broken", fun _ ↦ .error e⟩, ⟨"always", fun _ ↦ .ok [finding]⟩]⟩ context) =
      { findings := [finding], failures := [("broken", e)] } := rfl

end AuditorRegistry

end MeshSurvey
