import MeshSurvey.Proofs.MessageType
import MeshSurvey.Proofs.Schema.Edits

/-!
# Documents of the kinds

What a kind specifies also comes as a document, and so does every structure in it. A document need
not be the one that would be written: whoever made it may know more fields, may leave out those that
hold their default, and may write numbers for names. None of this changes what is read, whether the
members of objects come as they were written or in order of their names.
-/

namespace MeshSurvey

/-! ## Enumerations -/

namespace Coded

variable {ε : Type} [Enumeration ε] [LawfulEnumeration ε]

theorem jsonCodec_stable : (jsonCodec (ε := ε)).Stable := by
  have hrestores : (jsonCodec (ε := ε)).Restores 0 := jsonCodec_restores
  refine .of_scalar (fun c ↦ ?_) nofun nofun
  have hscalar : (jsonCodec.write c).arranged = jsonCodec.write c := by
    simp only [jsonCodec]
    split <;> rfl
  have hread := hrestores.read_write c
  rwa [hscalar] at hread

@[simp] theorem shape_json_stable : (shape (ε := ε)).json.Stable := jsonCodec_stable

end Coded

/-! ## Peer authentication policies -/

theorem WorkloadSelector.json_stable : schema.json.Stable :=
  schema_lawful.json_stable (by simp [schema])

theorem MutualTls.json_stable : schema.json.Stable :=
  schema_lawful.json_stable (by simp [schema])

theorem PeerAuthenticationSpec.json_stable : schema.json.Stable :=
  schema_lawful.json_stable (by
    simp [schema, Shape.optional_json_stable WorkloadSelector.json_stable,
      Shape.optional_json_stable MutualTls.json_stable,
      Shape.numbered_json_stable MutualTls.json_stable])

/-! ## Authorization policies -/

theorem Source.json_stable : schema.json.Stable :=
  schema_lawful.json_stable (by simp [schema])

theorem Operation.json_stable : schema.json.Stable :=
  schema_lawful.json_stable (by simp [schema])

theorem Condition.json_stable : schema.json.Stable :=
  schema_lawful.json_stable (by simp [schema])

theorem SourceClause.json_stable : schema.json.Stable :=
  schema_lawful.json_stable (by simp [schema, Shape.optional_json_stable Source.json_stable])

theorem OperationClause.json_stable : schema.json.Stable :=
  schema_lawful.json_stable (by simp [schema, Shape.optional_json_stable Operation.json_stable])

theorem AuthorizationRule.json_stable : schema.json.Stable :=
  schema_lawful.json_stable (by
    simp [schema, Shape.list_json_stable SourceClause.json_stable,
      Shape.list_json_stable OperationClause.json_stable,
      Shape.list_json_stable Condition.json_stable])

theorem AuthorizationPolicySpec.json_stable : schema.json.Stable :=
  schema_lawful.json_stable (by
    simp [schema, Shape.optional_json_stable WorkloadSelector.json_stable,
      Shape.list_json_stable AuthorizationRule.json_stable])

/-! ## Destination rules -/

theorem ClientTlsSettings.json_stable : schema.json.Stable :=
  schema_lawful.json_stable (by simp [schema])

theorem TrafficPolicy.json_stable : schema.json.Stable :=
  schema_lawful.json_stable (by
    simp [schema, Shape.optional_json_stable ClientTlsSettings.json_stable])

theorem Subset.json_stable : schema.json.Stable :=
  schema_lawful.json_stable (by simp [schema, Shape.optional_json_stable TrafficPolicy.json_stable])

theorem DestinationRuleSpec.json_stable : schema.json.Stable :=
  schema_lawful.json_stable (by
    simp [schema, Shape.optional_json_stable TrafficPolicy.json_stable,
      Shape.list_json_stable Subset.json_stable])

/-! ## Gateways -/

theorem ServerPort.json_stable : schema.json.Stable :=
  schema_lawful.json_stable (by simp [schema])

theorem ServerTlsSettings.json_stable : schema.json.Stable :=
  schema_lawful.json_stable (by simp [schema])

theorem Server.json_stable : schema.json.Stable :=
  schema_lawful.json_stable (by
    simp [schema, Shape.optional_json_stable ServerPort.json_stable,
      Shape.optional_json_stable ServerTlsSettings.json_stable])

theorem GatewaySpec.json_stable : schema.json.Stable :=
  schema_lawful.json_stable (by simp [schema, Shape.list_json_stable Server.json_stable])

/-! ## Virtual services -/

theorem PortSelector.json_stable : schema.json.Stable :=
  schema_lawful.json_stable (by simp [schema])

theorem Destination.json_stable : schema.json.Stable :=
  schema_lawful.json_stable (by simp [schema, Shape.optional_json_stable PortSelector.json_stable])

theorem HttpRouteDestination.json_stable : schema.json.Stable :=
  schema_lawful.json_stable (by simp [schema, Shape.optional_json_stable Destination.json_stable])

theorem HttpRoute.json_stable : schema.json.Stable :=
  schema_lawful.json_stable (by
    simp [schema, Shape.list_json_stable HttpRouteDestination.json_stable])

theorem VirtualServiceSpec.json_stable : schema.json.Stable :=
  schema_lawful.json_stable (by simp [schema, Shape.list_json_stable HttpRoute.json_stable])

/-! ## Any type -/

namespace MessageType

/-- The schema of a type that comes as a document. -/
def schema? : (t : MessageType) → Option (Schema t.Value)
  | workloadSelector => some WorkloadSelector.schema
  | mutualTls => some MutualTls.schema
  | peerAuthenticationSpec => some PeerAuthenticationSpec.schema
  | source => some Source.schema
  | operation => some Operation.schema
  | condition => some Condition.schema
  | sourceClause => some SourceClause.schema
  | operationClause => some OperationClause.schema
  | authorizationRule => some AuthorizationRule.schema
  | authorizationPolicySpec => some AuthorizationPolicySpec.schema
  | clientTlsSettings => some ClientTlsSettings.schema
  | trafficPolicy => some TrafficPolicy.schema
  | subset => some Subset.schema
  | destinationRuleSpec => some DestinationRuleSpec.schema
  | serverPort => some ServerPort.schema
  | serverTlsSettings => some ServerTlsSettings.schema
  | server => some Server.schema
  | gatewaySpec => some GatewaySpec.schema
  | portSelector => some PortSelector.schema
  | destination => some Destination.schema
  | httpRouteDestination => some HttpRouteDestination.schema
  | httpRoute => some HttpRoute.schema
  | virtualServiceSpec => some VirtualServiceSpec.schema
  | node | controlPlane | discoveryRequest | discoveryResponse | anyMessage
  | metadata | envelope | namespaceBody => none

theorem fits_and_stable : ∀ (t : MessageType) (s : Schema t.Value), t.schema? = some s →
    (∀ x, (s.json.write x).Fits 8) ∧ s.json.Stable
  | workloadSelector, _, rfl =>
    ⟨(WorkloadSelector.schema_lawful.json.mono (by decide)).fits, WorkloadSelector.json_stable⟩
  | mutualTls, _, rfl =>
    ⟨(MutualTls.schema_lawful.json.mono (by decide)).fits, MutualTls.json_stable⟩
  | peerAuthenticationSpec, _, rfl =>
    ⟨(PeerAuthenticationSpec.schema_lawful.json.mono (by decide)).fits,
      PeerAuthenticationSpec.json_stable⟩
  | source, _, rfl =>
    ⟨(Source.schema_lawful.json.mono (by decide)).fits, Source.json_stable⟩
  | operation, _, rfl =>
    ⟨(Operation.schema_lawful.json.mono (by decide)).fits, Operation.json_stable⟩
  | condition, _, rfl =>
    ⟨(Condition.schema_lawful.json.mono (by decide)).fits, Condition.json_stable⟩
  | sourceClause, _, rfl =>
    ⟨(SourceClause.schema_lawful.json.mono (by decide)).fits, SourceClause.json_stable⟩
  | operationClause, _, rfl =>
    ⟨(OperationClause.schema_lawful.json.mono (by decide)).fits, OperationClause.json_stable⟩
  | authorizationRule, _, rfl =>
    ⟨(AuthorizationRule.schema_lawful.json.mono (by decide)).fits, AuthorizationRule.json_stable⟩
  | authorizationPolicySpec, _, rfl =>
    ⟨(AuthorizationPolicySpec.schema_lawful.json.mono (by decide)).fits,
      AuthorizationPolicySpec.json_stable⟩
  | clientTlsSettings, _, rfl =>
    ⟨(ClientTlsSettings.schema_lawful.json.mono (by decide)).fits, ClientTlsSettings.json_stable⟩
  | trafficPolicy, _, rfl =>
    ⟨(TrafficPolicy.schema_lawful.json.mono (by decide)).fits, TrafficPolicy.json_stable⟩
  | subset, _, rfl =>
    ⟨(Subset.schema_lawful.json.mono (by decide)).fits, Subset.json_stable⟩
  | destinationRuleSpec, _, rfl =>
    ⟨(DestinationRuleSpec.schema_lawful.json.mono (by decide)).fits,
      DestinationRuleSpec.json_stable⟩
  | serverPort, _, rfl =>
    ⟨(ServerPort.schema_lawful.json.mono (by decide)).fits, ServerPort.json_stable⟩
  | serverTlsSettings, _, rfl =>
    ⟨(ServerTlsSettings.schema_lawful.json.mono (by decide)).fits, ServerTlsSettings.json_stable⟩
  | server, _, rfl =>
    ⟨(Server.schema_lawful.json.mono (by decide)).fits, Server.json_stable⟩
  | gatewaySpec, _, rfl =>
    ⟨(GatewaySpec.schema_lawful.json.mono (by decide)).fits, GatewaySpec.json_stable⟩
  | portSelector, _, rfl =>
    ⟨(PortSelector.schema_lawful.json.mono (by decide)).fits, PortSelector.json_stable⟩
  | destination, _, rfl =>
    ⟨(Destination.schema_lawful.json.mono (by decide)).fits, Destination.json_stable⟩
  | httpRouteDestination, _, rfl =>
    ⟨(HttpRouteDestination.schema_lawful.json.mono (by decide)).fits,
      HttpRouteDestination.json_stable⟩
  | httpRoute, _, rfl =>
    ⟨(HttpRoute.schema_lawful.json.mono (by decide)).fits, HttpRoute.json_stable⟩
  | virtualServiceSpec, _, rfl =>
    ⟨(VirtualServiceSpec.schema_lawful.json.mono (by decide)).fits, VirtualServiceSpec.json_stable⟩

/-- **Documents keep what they say.** A structure of any type is read from the document that is
written for it, and from all documents that come of that one by edits: by members that are not
declared, with whatever values, by leaving out members that hold their default, and by numbers in
the place of names, at any depth and in any order. It is the same whether the members of objects
come as they were written or arranged, before the edits and after them, and whether the document is
a value or a text; as a text it must not nest too deep to be read, which what is written never
does. -/
theorem documents_keep_what_they_say (t : MessageType) (s : Schema t.Value)
    (hs : t.schema? = some s) (x : t.Value) :
    (s.json.write x).Fits Json.Reader.maxDepth ∧
    ∀ d : Json, (Relation.ReflTransGen s.json.Edits (s.json.write x) d ∨
        Relation.ReflTransGen s.json.Edits (s.json.write x).arranged d) →
      s.json.read d = .ok x ∧ s.json.read d.arranged = .ok x ∧
      (d.Fits Json.Reader.maxDepth →
        (Json.ofTextAsWritten? d.text).map s.json.read = some (.ok x) ∧
        (Json.ofText? d.text).map s.json.read = some (.ok x)) := by
  obtain ⟨hfits, hstable⟩ := t.fits_and_stable s hs
  refine ⟨(hfits x).mono (by decide), ?_⟩
  intro d hd
  have hwrite := hstable.read_write x
  have hread : s.json.read d = .ok x := by
    rcases hd with hd | hd
    · exact Json.Codec.read_eq_of_edits hd hwrite
    · exact Json.Codec.read_eq_of_edits hd (hstable.read_arranged _ x hwrite)
  have harranged := hstable.read_arranged d x hread
  refine ⟨hread, harranged, ?_⟩
  intro hdepth
  rw [Json.ofTextAsWritten?_text hdepth, Json.ofText?_text hdepth, Option.map_some,
    Option.map_some, hread, harranged]
  exact ⟨rfl, rfl⟩

/-- A policy for all workloads has modes for two ports, of which one has no name. It is read from a
document without a selector, with a member that is not declared and a number for a name. -/
theorem documents_keep_what_they_say_of_ports :
    let s := PeerAuthenticationSpec.schema
    let x : PeerAuthenticationSpec :=
      { mtls := some ⟨⟨3⟩⟩, portLevelMtls := .ofList [(9080, ⟨⟨1⟩⟩), (10, ⟨⟨77⟩⟩)] }
    let d : Json := .object [
      ("mtls", .object [("mode", .string "STRICT"), ("since", .array [.null])]),
      ("portLevelMtls", .object [("10", .object [("mode", .integer 77)]),
        ("9080", .object [("mode", .integer 1)])])]
    Relation.ReflTransGen s.json.Edits (s.json.write x) d ∧ d.Fits Json.Reader.maxDepth ∧
      s.json.read d = .ok x ∧ (Json.ofTextAsWritten? d.text).map s.json.read = some (.ok x) := by
  intro s x d
  let strict : Json := .object [("mode", .string "STRICT")]
  let unnamed : Json := .object [("mode", .integer 77)]
  let named : Json := .object [("mode", .string "DISABLE")]
  let since : Json := .object [("mode", .string "STRICT"), ("since", .array [.null])]
  let withLast (mtls last : Json) : Json :=
    .object [("mtls", mtls), ("portLevelMtls", .object [("10", unnamed), ("9080", last)])]
  have hlawful := PeerAuthenticationSpec.schema_lawful
  have homitted : s.json.Edits (s.json.write x) (withLast strict named) := by
    have hselector : s.members[0] ∈ s.members := List.getElem_mem _
    exact .omitted hlawful hselector (v := .null) rfl [] _
  have hundeclared : s.json.Edits (withLast strict named) (withLast since named) := by
    have hmtls : s.members[1] ∈ s.members := List.getElem_mem _
    have hname : ∀ m ∈ MutualTls.schema.members, m.name ≠ "since" :=
      List.forall_mem_singleton.mpr (by decide)
    exact .field hlawful hmtls (.present (.undeclared MutualTls.schema_lawful hname
      [("mode", .string "STRICT")] [] (.array [.null]))) [] _
  have hnumber : s.json.Edits (withLast since named) d := by
    have hports : s.members[2] ∈ s.members := List.getElem_mem _
    have hmode : MutualTls.schema.members[0] ∈ MutualTls.schema.members := List.getElem_mem _
    have hvalue : MutualTls.schema.json.Edits named (.object [("mode", .integer 1)]) :=
      .field MutualTls.schema_lawful hmode (.number (e := MtlsMode.disable) rfl) [] []
    exact .field hlawful hports (.entry hvalue "9080" [("10", unnamed)] []) [("mtls", since)] []
  have hedits : Relation.ReflTransGen s.json.Edits (s.json.write x) d :=
    ((Relation.ReflTransGen.single homitted).tail hundeclared).tail hnumber
  have hfits : d.Fits 3 := by
    simp [d, Json.Fits, Json.Codec.minInteger_eq, Json.Codec.maxInteger_eq]
  have hdepth : d.Fits Json.Reader.maxDepth := hfits.mono (by decide)
  have hkept := (documents_keep_what_they_say .peerAuthenticationSpec s rfl x).2 d (.inl hedits)
  exact ⟨hedits, hdepth, hkept.1, (hkept.2.2 hdepth).1⟩

end MessageType

end MeshSurvey
