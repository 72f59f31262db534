import MeshSurvey.Audit.Polarity
import MeshSurvey.Proofs.Resource

/-!
# Which policies match the wrong way

Which policies are objected to is said here by what their rules say, clause by clause: a policy that
allows may exclude nothing, be it by a source, by an operation or by a condition, and a policy that
denies may name no paths.

All that is asked for is that some clause of some rule says something. So a policy is judged by what
is said in it and not by where it is said, and a policy that says more is not judged more mildly.
-/

namespace MeshSurvey

/-! ## Rules -/

/-- Some list of excluded values has an entry. -/
def Source.Excludes (s : Source) : Prop :=
  s.notPrincipals ≠ [] ∨ s.notRequestPrincipals ≠ [] ∨ s.notNamespaces ≠ [] ∨
    s.notIpBlocks ≠ [] ∨ s.notRemoteIpBlocks ≠ []

theorem Source.hasNegativeMatch_iff {s : Source} : s.hasNegativeMatch = true ↔ s.Excludes := by
  simp only [hasNegativeMatch, Excludes, List.any_cons, List.any_nil, Bool.or_false,
    Bool.or_eq_true, Bool.not_eq_true', List.isEmpty_eq_false_iff]

/-- Some list of excluded values has an entry. -/
def Operation.Excludes (o : Operation) : Prop :=
  o.notHosts ≠ [] ∨ o.notPorts ≠ [] ∨ o.notMethods ≠ [] ∨ o.notPaths ≠ []

theorem Operation.hasNegativeMatch_iff {o : Operation} :
    o.hasNegativeMatch = true ↔ o.Excludes := by
  simp only [hasNegativeMatch, Excludes, List.any_cons, List.any_nil, Bool.or_false,
    Bool.or_eq_true, Bool.not_eq_true', List.isEmpty_eq_false_iff]

namespace AuthorizationRule

/-- A clause of the rule has this source. -/
def HasSource (r : AuthorizationRule) (s : Source) : Prop := ⟨some s⟩ ∈ r.sources

/-- A clause of the rule has this operation. -/
def HasOperation (r : AuthorizationRule) (o : Operation) : Prop := ⟨some o⟩ ∈ r.operations

theorem mem_filterMap_sources_iff {r : AuthorizationRule} {s : Source} :
    s ∈ r.sources.filterMap (·.source) ↔ r.HasSource s := by
  rw [List.mem_filterMap]
  constructor
  · rintro ⟨⟨_⟩, hclause, rfl⟩
    exact hclause
  · exact fun h ↦ ⟨_, h, rfl⟩

theorem mem_filterMap_operations_iff {r : AuthorizationRule} {o : Operation} :
    o ∈ r.operations.filterMap (·.operation) ↔ r.HasOperation o := by
  rw [List.mem_filterMap]
  constructor
  · rintro ⟨⟨_⟩, hclause, rfl⟩
    exact hclause
  · exact fun h ↦ ⟨_, h, rfl⟩

/-- A rule excludes something by one of its clauses. -/
inductive Excludes (r : AuthorizationRule) : Prop where
  /-- By where a request comes from. -/
  | source {s : Source} (hsource : r.HasSource s) (h : s.Excludes)
  /-- By what it does. -/
  | operation {o : Operation} (hoperation : r.HasOperation o) (h : o.Excludes)
  /-- By what else holds of it. -/
  | condition {c : Condition} (hcondition : c ∈ r.conditions) (h : c.notValues ≠ [])

/-- A rule names paths. -/
def NamesPaths (r : AuthorizationRule) : Prop := ∃ o, r.HasOperation o ∧ o.paths ≠ []

theorem hasNegativeMatch_iff {r : AuthorizationRule} : r.hasNegativeMatch = true ↔ r.Excludes := by
  simp only [hasNegativeMatch, Bool.or_eq_true, List.any_eq_true, mem_filterMap_sources_iff,
    mem_filterMap_operations_iff, Source.hasNegativeMatch_iff, Operation.hasNegativeMatch_iff,
    Bool.not_eq_true', List.isEmpty_eq_false_iff]
  constructor
  · rintro ((⟨s, hsource, h⟩ | ⟨o, hoperation, h⟩) | ⟨c, hcondition, h⟩)
    · exact .source hsource h
    · exact .operation hoperation h
    · exact .condition hcondition h
  · rintro (⟨hsource, h⟩ | ⟨hoperation, h⟩ | ⟨hcondition, h⟩)
    · exact .inl (.inl ⟨_, hsource, h⟩)
    · exact .inl (.inr ⟨_, hoperation, h⟩)
    · exact .inr ⟨_, hcondition, h⟩

theorem hasPositivePath_iff {r : AuthorizationRule} :
    r.hasPositivePath = true ↔ r.NamesPaths := by
  simp only [hasPositivePath, NamesPaths, List.any_eq_true, mem_filterMap_operations_iff,
    Bool.not_eq_true', List.isEmpty_eq_false_iff]

/-- All that a rule says, another one says as well. -/
structure SaidBy (r r' : AuthorizationRule) : Prop where
  source {s : Source} (h : r.HasSource s) : r'.HasSource s
  operation {o : Operation} (h : r.HasOperation o) : r'.HasOperation o
  condition {c : Condition} (h : c ∈ r.conditions) : c ∈ r'.conditions

theorem SaidBy.excludes {r r' : AuthorizationRule} (hsaid : r.SaidBy r') (h : r.Excludes) :
    r'.Excludes := by
  cases h with
  | source hsource h => exact .source (hsaid.source hsource) h
  | operation hoperation h => exact .operation (hsaid.operation hoperation) h
  | condition hcondition h => exact .condition (hsaid.condition hcondition) h

theorem SaidBy.namesPaths {r r' : AuthorizationRule} (hsaid : r.SaidBy r') (h : r.NamesPaths) :
    r'.NamesPaths := by
  obtain ⟨o, hoperation, hpaths⟩ := h
  exact ⟨o, hsaid.operation hoperation, hpaths⟩

/-- The same clauses in any order, apart from those that say nothing. -/
structure Rearranged (r r' : AuthorizationRule) : Prop where
  sources : (r.sources.filter (·.source.isSome)).Perm (r'.sources.filter (·.source.isSome))
  operations :
    (r.operations.filter (·.operation.isSome)).Perm (r'.operations.filter (·.operation.isSome))
  conditions : r.conditions.Perm r'.conditions

theorem Rearranged.symm {r r' : AuthorizationRule} (h : r.Rearranged r') : r'.Rearranged r :=
  ⟨h.sources.symm, h.operations.symm, h.conditions.symm⟩

theorem exists_rearranged_of_mem {rules rules' : List AuthorizationRule}
    (h : List.Forall₂ Rearranged rules rules') {r : AuthorizationRule} (hr : r ∈ rules) :
    ∃ r' ∈ rules', r.Rearranged r' := by
  induction h with
  | nil => exact absurd hr List.not_mem_nil
  | @cons head head' _ _ hhead _ ih =>
    rcases List.mem_cons.mp hr with rfl | hr
    · exact ⟨head', List.mem_cons_self, hhead⟩
    · obtain ⟨r', hr', hrearranged⟩ := ih hr
      exact ⟨r', List.mem_cons_of_mem head' hr', hrearranged⟩

theorem Rearranged.saidBy {r r' : AuthorizationRule} (h : r.Rearranged r') : r.SaidBy r' where
  source hsource := by
    have hmem := h.sources.mem_iff.mp (List.mem_filter.mpr ⟨hsource, rfl⟩)
    exact (List.mem_filter.mp hmem).1
  operation hoperation := by
    have hmem := h.operations.mem_iff.mp (List.mem_filter.mpr ⟨hoperation, rfl⟩)
    exact (List.mem_filter.mp hmem).1
  condition hcondition := h.conditions.mem_iff.mp hcondition

/-- All the clauses, and perhaps more. -/
structure Extended (r r' : AuthorizationRule) : Prop where
  sources : r.sources ⊆ r'.sources
  operations : r.operations ⊆ r'.operations
  conditions : r.conditions ⊆ r'.conditions

theorem Extended.saidBy {r r' : AuthorizationRule} (h : r.Extended r') : r.SaidBy r' where
  source hsource := h.sources hsource
  operation hoperation := h.operations hoperation
  condition hcondition := h.conditions hcondition

end AuthorizationRule

/-! ## Policies -/

namespace AuthorizationPolicySpec

/-- The action is to allow: its number is that of allowing, or one that has no name. -/
def Allows (spec : AuthorizationPolicySpec) : Prop :=
  spec.action.number = 0 ∨ ∀ action : PolicyAction, Enumeration.number action ≠ spec.action.number

theorem value_action_eq_allow_iff {spec : AuthorizationPolicySpec} :
    spec.action.value = .allow ↔ spec.Allows := by
  rw [Coded.value_eq_iff, Allows]
  exact or_congr_right (and_iff_right rfl)

theorem value_action_eq_iff {spec : AuthorizationPolicySpec} {action : PolicyAction}
    (h : action ≠ .allow) :
    spec.action.value = action ↔ spec.action.number = Enumeration.number action := by
  rw [Coded.value_eq_iff_of_ne h]
  exact ⟨congrArg Coded.number, congrArg Coded.mk⟩

theorem value_action_eq_deny_iff {spec : AuthorizationPolicySpec} :
    spec.action.value = .deny ↔ spec.action.number = 1 := by
  have hne : PolicyAction.deny ≠ .allow := nofun
  exact value_action_eq_iff hne

/-- All that the rules of a policy say, those of another one say as well. -/
structure SaidBy (spec spec' : AuthorizationPolicySpec) : Prop where
  action : spec.action = spec'.action
  rule : ∀ r ∈ spec.rules, ∃ r' ∈ spec'.rules, r.SaidBy r'

/-- The same action, and the same rules in any order, each with its clauses in any order, apart from
those that say nothing. -/
structure Rearranged (spec spec' : AuthorizationPolicySpec) : Prop where
  action : spec.action = spec'.action
  rules : ∃ rules, spec.rules.Perm rules ∧
    List.Forall₂ AuthorizationRule.Rearranged rules spec'.rules

/-- The same action, and all the rules with all their clauses, and perhaps more of either. -/
structure Extended (spec spec' : AuthorizationPolicySpec) : Prop where
  action : spec.action = spec'.action
  rules : ∀ r ∈ spec.rules, ∃ r' ∈ spec'.rules, r.Extended r'

theorem Rearranged.saidBy {spec spec' : AuthorizationPolicySpec} (h : spec.Rearranged spec') :
    spec.SaidBy spec' := by
  obtain ⟨haction, rules, hperm, hrules⟩ := h
  refine ⟨haction, fun r hr ↦ ?_⟩
  obtain ⟨r', hr', hrearranged⟩ :=
    AuthorizationRule.exists_rearranged_of_mem hrules (hperm.mem_iff.mp hr)
  exact ⟨r', hr', hrearranged.saidBy⟩

theorem Rearranged.said {spec spec' : AuthorizationPolicySpec} (h : spec.Rearranged spec') :
    spec'.SaidBy spec := by
  obtain ⟨haction, rules, hperm, hrules⟩ := h
  have hback : List.Forall₂ AuthorizationRule.Rearranged spec'.rules rules :=
    hrules.flip.imp fun _ _ hrearranged ↦ hrearranged.symm
  refine ⟨haction.symm, fun r' hr' ↦ ?_⟩
  obtain ⟨r, hr, hrearranged⟩ := AuthorizationRule.exists_rearranged_of_mem hback hr'
  exact ⟨r, hperm.mem_iff.mpr hr, hrearranged.saidBy⟩

theorem Extended.saidBy {spec spec' : AuthorizationPolicySpec} (h : spec.Extended spec') :
    spec.SaidBy spec' where
  action := h.action
  rule r hr := by
    obtain ⟨r', hr', hextended⟩ := h.rules r hr
    exact ⟨r', hr', hextended.saidBy⟩

end AuthorizationPolicySpec

/-! ## Objections -/

namespace PolarityAudit

/-- What a policy is objected to for. -/
inductive Objects (spec : AuthorizationPolicySpec) : String → Prop where
  /-- It allows what some rule does not exclude. -/
  | allow {r : AuthorizationRule} (haction : spec.Allows) (hr : r ∈ spec.rules) (h : r.Excludes) :
    Objects spec "ALLOW policy uses negative matching; use positive matching instead"
  /-- It denies the paths that some rule names. -/
  | deny {r : AuthorizationRule} (haction : spec.action.number = 1) (hr : r ∈ spec.rules)
    (h : r.NamesPaths) : Objects spec "DENY policy matches paths positively; use notPaths instead"

theorem objection?_eq_some_iff {spec : AuthorizationPolicySpec} {text : String} :
    objection? spec = some text ↔ Objects spec text := by
  constructor
  · intro h
    rw [objection?] at h
    split at h
    · next haction =>
      obtain ⟨hrules, heq⟩ := Option.ite_none_right_eq_some.mp h
      obtain ⟨r, hr, hexcludes⟩ := List.any_eq_true.mp hrules
      obtain rfl := Option.some.inj heq
      exact .allow (AuthorizationPolicySpec.value_action_eq_allow_iff.mp haction) hr
        (AuthorizationRule.hasNegativeMatch_iff.mp hexcludes)
    · next haction =>
      obtain ⟨hrules, heq⟩ := Option.ite_none_right_eq_some.mp h
      obtain ⟨r, hr, hpaths⟩ := List.any_eq_true.mp hrules
      obtain rfl := Option.some.inj heq
      exact .deny (AuthorizationPolicySpec.value_action_eq_deny_iff.mp haction) hr
        (AuthorizationRule.hasPositivePath_iff.mp hpaths)
    · exact absurd h nofun
    · exact absurd h nofun
  · intro h
    rw [objection?]
    cases h with
    | allow hallows hr h =>
      rw [AuthorizationPolicySpec.value_action_eq_allow_iff.mpr hallows]
      exact if_pos (List.any_eq_true.mpr ⟨_, hr, AuthorizationRule.hasNegativeMatch_iff.mpr h⟩)
    | deny hdenies hr h =>
      rw [AuthorizationPolicySpec.value_action_eq_deny_iff.mpr hdenies]
      exact if_pos (List.any_eq_true.mpr ⟨_, hr, AuthorizationRule.hasPositivePath_iff.mpr h⟩)

theorem not_objects {spec : AuthorizationPolicySpec} {text : String} {action : PolicyAction}
    (haction : spec.action.number = Enumeration.number action)
    (hne : action ≠ .allow ∧ action ≠ .deny) : ¬ Objects spec text := by
  intro h
  have hvalue := (AuthorizationPolicySpec.value_action_eq_iff hne.1).mpr haction
  cases h with
  | allow hallows =>
    exact hne.1 (hvalue.symm.trans (AuthorizationPolicySpec.value_action_eq_allow_iff.mpr hallows))
  | deny hdenies =>
    exact hne.2 (hvalue.symm.trans (AuthorizationPolicySpec.value_action_eq_deny_iff.mpr hdenies))

theorem Objects.of_saidBy {spec spec' : AuthorizationPolicySpec} {text : String}
    (hsaid : spec.SaidBy spec') (h : Objects spec text) : Objects spec' text := by
  have haction := hsaid.action
  cases h with
  | allow hallows hr h =>
    obtain ⟨r', hr', hrule⟩ := hsaid.rule _ hr
    exact .allow (by rwa [AuthorizationPolicySpec.Allows, ← haction]) hr' (hrule.excludes h)
  | deny hdenies hr h =>
    obtain ⟨r', hr', hrule⟩ := hsaid.rule _ hr
    exact .deny (by rwa [← haction]) hr' (hrule.namesPaths h)

/-- A policy is reported under its full name with what it is objected to for. -/
theorem finding?_eq_some_iff {p : Custom AuthorizationPolicySpec} {f : Finding} :
    finding? p = some f ↔ ∃ text, Objects p.spec text ∧
      f = ⟨"authz-polarity", some ("authorizationpolicy/" ++ p.metadata.fullName), text⟩ := by
  simp only [finding?, Option.map_eq_some_iff, objection?_eq_some_iff, eq_comm (a := f)]
  rfl

/-- **A policy is reported just if it matches the wrong way.** There is at most one finding for each
policy, in the order of the policies: one that allows is reported if some rule excludes anything,
and one that denies if some rule names paths. Policies that only record, or leave it to others, are
not reported. The order of rules and clauses does not matter, nor do clauses that say nothing, and
what is reported of a policy is reported of every policy that says more. -/
theorem reports_wrong_polarity (context : AuditContext) :
    ∃ verdict : Custom AuthorizationPolicySpec → Option Finding,
      auditor.audit context = .ok (context.snapshot.authorizationPolicies.filterMap verdict) ∧
      (∀ p f, verdict p = some f ↔ ∃ text, Objects p.spec text ∧
        f = ⟨"authz-polarity", some ("authorizationpolicy/" ++ p.metadata.fullName), text⟩) ∧
      (∀ p, p.spec.action.number = Enumeration.number PolicyAction.audit ∨
        p.spec.action.number = Enumeration.number PolicyAction.custom → verdict p = none) ∧
      (∀ p q, p.metadata = q.metadata → p.spec.Rearranged q.spec → verdict p = verdict q) ∧
      ∀ p q f, p.metadata = q.metadata → p.spec.Extended q.spec → verdict p = some f →
        verdict q = some f := by
  have hmore {p q : Custom AuthorizationPolicySpec} {f : Finding} (hmeta : p.metadata = q.metadata)
      (hsaid : p.spec.SaidBy q.spec) (h : finding? p = some f) : finding? q = some f := by
    obtain ⟨text, hobjects, rfl⟩ := finding?_eq_some_iff.mp h
    exact finding?_eq_some_iff.mpr ⟨text, hobjects.of_saidBy hsaid, by rw [hmeta]⟩
  refine ⟨finding?, rfl, fun p f ↦ finding?_eq_some_iff, fun p haction ↦ ?_,
    fun p q hmeta h ↦ ?_, fun p q f hmeta h ↦ hmore hmeta h.saidBy⟩
  · refine Option.eq_none_iff_forall_ne_some.mpr fun f hf ↦ ?_
    obtain ⟨text, hobjects, -⟩ := finding?_eq_some_iff.mp hf
    rcases haction with haction | haction
    · exact not_objects haction ⟨nofun, nofun⟩ hobjects
    · exact not_objects haction ⟨nofun, nofun⟩ hobjects
  · exact Option.ext fun f ↦ ⟨hmore hmeta h.saidBy, hmore hmeta.symm h.said⟩

end PolarityAudit

end MeshSurvey
