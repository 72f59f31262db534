import MeshSurvey.Proofs.Schema
import MeshSurvey.Resource.AuthorizationPolicy
import MeshSurvey.Resource.DestinationRule
import MeshSurvey.Resource.Gateway
import MeshSurvey.Resource.PeerAuthentication
import MeshSurvey.Resource.VirtualService

/-!
# What the kinds specify is restored

The specification of each kind has a lawful schema, and so survives both its forms. The depth of a
schema is how many levels of messages a structure needs at most, counted from the bottom: one for a
structure of scalars, one more for each optional structure, and two more for each list of
structures, since lists are levels of their own in JSON.
-/

namespace MeshSurvey

/-! ## Enumerations -/

/-- Each value has a name of its own. -/
class LawfulEnumeration (ε : Type) [Enumeration ε] : Prop where
  /-- A value is found by its name. -/
  ofName?_name : ∀ v ∈ Enumeration.values (ε := ε),
    Enumeration.ofName? (Enumeration.name v) = some v

namespace Coded

variable {ε : Type} [Enumeration ε]

@[simp] theorem default_shape : (shape (ε := ε)).wire.default = ⟨0⟩ := rfl

omit [Enumeration ε] in
theorem wireCodec_restores {depth : Nat} : (wireCodec (ε := ε)).Restores depth := by
  -- names play no part in the binary form
  refine Wire.Codec.restores_of_atMostOne rfl fun ⟨n⟩ ↦ ?_
  by_cases hn : n = 0
  · exact .inl ⟨if_pos hn, congrArg Coded.mk hn⟩
  · exact .inr ⟨.varint n.toInt64.toUInt64, if_neg hn, .varint _,
      fun _ _ _ ↦ congrArg (some ∘ Coded.mk) (Wire.toInt32_toUInt32_toUInt64_toInt64 n)⟩

/-- A number that has a name is written as the name, which has the same number. -/
theorem jsonCodec_restores [LawfulEnumeration ε] {depth : Nat} :
    (jsonCodec (ε := ε)).Restores depth where
  fits c := by
    cases hv : Enumeration.ofNumber? (ε := ε) c.number with
    | none =>
      simp only [jsonCodec, hv]
      exact Json.Codec.signed_restores.fits c.number
    | some v =>
      simp only [jsonCodec, hv]
      exact Json.Codec.text_restores.fits (Enumeration.name v)
  read_write c := by
    cases hv : Enumeration.ofNumber? (ε := ε) c.number with
    | none =>
      have hsigned : Json.Codec.signed.Restores depth := Json.Codec.signed_restores
      simp only [jsonCodec, hv]
      exact congrArg (Except.map Coded.mk) (hsigned.read_write c.number)
    | some v =>
      have hname := LawfulEnumeration.ofName?_name v (List.mem_of_find?_eq_some hv)
      have hnumber : Enumeration.number v = c.number :=
        of_decide_eq_true (List.find?_some (p := fun v : ε ↦ Enumeration.number v = c.number) hv)
      simp only [jsonCodec, hv, Json.arranged, Json.arrangedBy, hname]
      rw [of, hnumber]

@[simp] theorem shape_restores [LawfulEnumeration ε] {depth : Nat} :
    (shape (ε := ε)).Restores depth :=
  ⟨wireCodec_restores, jsonCodec_restores⟩

end Coded

/-- Each value has a number of its own. -/
class NumberedEnumeration (ε : Type) [Enumeration ε] : Prop where
  /-- A value is found by its number. -/
  ofNumber?_number : ∀ v : ε, Enumeration.ofNumber? (Enumeration.number v) = some v

theorem Coded.value_eq_iff {ε : Type} [Enumeration ε] [NumberedEnumeration ε] {c : Coded ε}
    {v : ε} :
    c.value = v ↔ c.number = Enumeration.number v ∨
      v = Enumeration.first ∧ ∀ w : ε, Enumeration.number w ≠ c.number := by
  have hfound {w : ε} (hw : Enumeration.number w = c.number) :
      Enumeration.ofNumber? c.number = some w := hw ▸ NumberedEnumeration.ofNumber?_number w
  rw [Coded.value]
  cases hnumber : Enumeration.ofNumber? (ε := ε) c.number with
  | some u =>
    have hu : Enumeration.number u = c.number :=
      of_decide_eq_true (List.find?_some (p := fun v : ε ↦ Enumeration.number v = c.number) hnumber)
    constructor
    · rintro rfl
      exact .inl hu.symm
    · rintro (hv | ⟨-, hnone⟩)
      · exact Option.some.inj (hnumber.symm.trans (hfound hv.symm))
      · exact absurd hu (hnone u)
  | none =>
    constructor
    · rintro rfl
      refine .inr ⟨rfl, fun w hw ↦ ?_⟩
      cases hnumber.symm.trans (hfound hw)
    · rintro (hv | ⟨rfl, -⟩)
      · cases hnumber.symm.trans (hfound hv.symm)
      · rfl

/-- Only the first value is read from more than one number. -/
theorem Coded.value_eq_iff_of_ne {ε : Type} [Enumeration ε] [NumberedEnumeration ε] {c : Coded ε}
    {v : ε} (hne : v ≠ Enumeration.first) : c.value = v ↔ c = .of v := by
  rw [Coded.value_eq_iff, or_iff_left fun h ↦ hne h.1]
  exact ⟨congrArg Coded.mk, congrArg Coded.number⟩

instance : NumberedEnumeration PolicyAction := ⟨by rintro ⟨⟩ <;> rfl⟩

instance : NumberedEnumeration MtlsMode := ⟨by rintro ⟨⟩ <;> rfl⟩

instance : LawfulEnumeration PolicyAction := ⟨by decide⟩

instance : LawfulEnumeration ClientTlsMode := ⟨by decide⟩

instance : LawfulEnumeration ServerTlsMode := ⟨by decide⟩

instance : LawfulEnumeration MtlsMode := ⟨by decide⟩

/-! ## Peer authentication policies -/

theorem WorkloadSelector.schema_lawful : schema.Lawful 2 where
  depth_pos := by decide
  sound := by simp [schema, Wire.Key.IsField]
  apart := by simp [schema]
  ext := by
    rintro ⟨⟩ ⟨⟩ h
    simpa [schema] using h

theorem MutualTls.schema_lawful : schema.Lawful 1 where
  depth_pos := by decide
  sound := by simp [schema, Wire.Key.IsField]
  apart := by simp [schema]
  ext := by
    rintro ⟨⟩ ⟨⟩ h
    simpa [schema] using h

theorem PeerAuthenticationSpec.schema_lawful : schema.Lawful 3 where
  depth_pos := by decide
  sound := by
    simp [schema, Wire.Key.IsField, Shape.optional_restores WorkloadSelector.schema_lawful,
      Shape.optional_restores MutualTls.schema_lawful,
      Shape.numbered_restores MutualTls.schema_lawful]
  apart := by simp [schema]
  ext := by
    rintro ⟨⟩ ⟨⟩ h
    simpa [schema] using h

/-! ## Authorization policies -/

theorem Source.schema_lawful : schema.Lawful 1 where
  depth_pos := by decide
  sound := by simp [schema, Wire.Key.IsField]
  apart := by simp [schema]
  ext := by
    rintro ⟨⟩ ⟨⟩ h
    simpa [schema] using h

theorem Operation.schema_lawful : schema.Lawful 1 where
  depth_pos := by decide
  sound := by simp [schema, Wire.Key.IsField]
  apart := by simp [schema]
  ext := by
    rintro ⟨⟩ ⟨⟩ h
    simpa [schema] using h

theorem Condition.schema_lawful : schema.Lawful 1 where
  depth_pos := by decide
  sound := by simp [schema, Wire.Key.IsField]
  apart := by simp [schema]
  ext := by
    rintro ⟨⟩ ⟨⟩ h
    simpa [schema] using h

theorem SourceClause.schema_lawful : schema.Lawful 2 where
  depth_pos := by decide
  sound := by simp [schema, Wire.Key.IsField, Shape.optional_restores Source.schema_lawful]
  apart := by simp [schema]
  ext := by
    rintro ⟨⟩ ⟨⟩ h
    simpa [schema] using h

theorem OperationClause.schema_lawful : schema.Lawful 2 where
  depth_pos := by decide
  sound := by simp [schema, Wire.Key.IsField, Shape.optional_restores Operation.schema_lawful]
  apart := by simp [schema]
  ext := by
    rintro ⟨⟩ ⟨⟩ h
    simpa [schema] using h

theorem AuthorizationRule.schema_lawful : schema.Lawful 4 where
  depth_pos := by decide
  sound := by
    simp [schema, Wire.Key.IsField, Shape.list_restores SourceClause.schema_lawful,
      Shape.list_restores OperationClause.schema_lawful,
      Shape.list_restores Condition.schema_lawful]
  apart := by simp [schema]
  ext := by
    rintro ⟨⟩ ⟨⟩ h
    simpa [schema] using h

theorem AuthorizationPolicySpec.schema_lawful : schema.Lawful 6 where
  depth_pos := by decide
  sound := by
    simp [schema, Wire.Key.IsField, Shape.optional_restores WorkloadSelector.schema_lawful,
      Shape.list_restores AuthorizationRule.schema_lawful]
  apart := by simp [schema]
  ext := by
    rintro ⟨⟩ ⟨⟩ h
    simpa [schema] using h

/-! ## Destination rules -/

theorem ClientTlsSettings.schema_lawful : schema.Lawful 1 where
  depth_pos := by decide
  sound := by simp [schema, Wire.Key.IsField]
  apart := by simp [schema]
  ext := by
    rintro ⟨⟩ ⟨⟩ h
    simpa [schema] using h

theorem TrafficPolicy.schema_lawful : schema.Lawful 2 where
  depth_pos := by decide
  sound := by
    simp [schema, Wire.Key.IsField, Shape.optional_restores ClientTlsSettings.schema_lawful]
  apart := by simp [schema]
  ext := by
    rintro ⟨⟩ ⟨⟩ h
    simpa [schema] using h

theorem Subset.schema_lawful : schema.Lawful 3 where
  depth_pos := by decide
  sound := by simp [schema, Wire.Key.IsField, Shape.optional_restores TrafficPolicy.schema_lawful]
  apart := by simp [schema]
  ext := by
    rintro ⟨⟩ ⟨⟩ h
    simpa [schema] using h

theorem DestinationRuleSpec.schema_lawful : schema.Lawful 5 where
  depth_pos := by decide
  sound := by
    simp [schema, Wire.Key.IsField, Shape.optional_restores TrafficPolicy.schema_lawful,
      Shape.list_restores Subset.schema_lawful]
  apart := by simp [schema]
  ext := by
    rintro ⟨⟩ ⟨⟩ h
    simpa [schema] using h

/-! ## Gateways -/

theorem ServerPort.schema_lawful : schema.Lawful 1 where
  depth_pos := by decide
  sound := by simp [schema, Wire.Key.IsField]
  apart := by simp [schema]
  ext := by
    rintro ⟨⟩ ⟨⟩ h
    simpa [schema] using h

theorem ServerTlsSettings.schema_lawful : schema.Lawful 1 where
  depth_pos := by decide
  sound := by simp [schema, Wire.Key.IsField]
  apart := by simp [schema]
  ext := by
    rintro ⟨⟩ ⟨⟩ h
    simpa [schema] using h

theorem Server.schema_lawful : schema.Lawful 2 where
  depth_pos := by decide
  sound := by
    simp [schema, Wire.Key.IsField, Shape.optional_restores ServerPort.schema_lawful,
      Shape.optional_restores ServerTlsSettings.schema_lawful]
  apart := by simp [schema]
  ext := by
    rintro ⟨⟩ ⟨⟩ h
    simpa [schema] using h

theorem GatewaySpec.schema_lawful : schema.Lawful 4 where
  depth_pos := by decide
  sound := by simp [schema, Wire.Key.IsField, Shape.list_restores Server.schema_lawful]
  apart := by simp [schema]
  ext := by
    rintro ⟨⟩ ⟨⟩ h
    simpa [schema] using h

/-! ## Virtual services -/

theorem PortSelector.schema_lawful : schema.Lawful 1 where
  depth_pos := by decide
  sound := by simp [schema, Wire.Key.IsField]
  apart := by simp [schema]
  ext := by
    rintro ⟨⟩ ⟨⟩ h
    simpa [schema] using h

theorem Destination.schema_lawful : schema.Lawful 2 where
  depth_pos := by decide
  sound := by simp [schema, Wire.Key.IsField, Shape.optional_restores PortSelector.schema_lawful]
  apart := by simp [schema]
  ext := by
    rintro ⟨⟩ ⟨⟩ h
    simpa [schema] using h

theorem HttpRouteDestination.schema_lawful : schema.Lawful 3 where
  depth_pos := by decide
  sound := by simp [schema, Wire.Key.IsField, Shape.optional_restores Destination.schema_lawful]
  apart := by simp [schema]
  ext := by
    rintro ⟨⟩ ⟨⟩ h
    simpa [schema] using h

theorem HttpRoute.schema_lawful : schema.Lawful 5 where
  depth_pos := by decide
  sound := by
    simp [schema, Wire.Key.IsField, Shape.list_restores HttpRouteDestination.schema_lawful]
  apart := by simp [schema]
  ext := by
    rintro ⟨⟩ ⟨⟩ h
    simpa [schema] using h

theorem VirtualServiceSpec.schema_lawful : schema.Lawful 7 where
  depth_pos := by decide
  sound := by simp [schema, Wire.Key.IsField, Shape.list_restores HttpRoute.schema_lawful]
  apart := by simp [schema]
  ext := by
    rintro ⟨⟩ ⟨⟩ h
    simpa [schema] using h

end MeshSurvey
