import MeshSurvey.Proofs.Protocol
import MeshSurvey.Proofs.Resource
import MeshSurvey.Proofs.Wire.Arrangement

/-!
# Every declared message survives its bytes

The types of messages are those of the discovery protocol, those of the envelopes, and those of
which the specifications of the kinds are made, down to the smallest. Each has a lawful binary form,
and from that alone it follows that its bytes say all there is to say about a structure: what was
written is read, two structures are never written as the same bytes, and bytes that are read and
written again mean what they meant. Neither the values of the fields nor the order in which maps are
listed, on any level, make a difference to that.

No type needs more than seven levels, counted as its schema counts them, of the hundred that a
reader has.
-/

namespace MeshSurvey

/-- The types of messages. -/
inductive MessageType where
  | node
  | controlPlane
  | discoveryRequest
  | discoveryResponse
  | anyMessage
  | metadata
  | envelope
  | namespaceBody
  | workloadSelector
  | mutualTls
  | peerAuthenticationSpec
  | source
  | operation
  | condition
  | sourceClause
  | operationClause
  | authorizationRule
  | authorizationPolicySpec
  | clientTlsSettings
  | trafficPolicy
  | subset
  | destinationRuleSpec
  | serverPort
  | serverTlsSettings
  | server
  | gatewaySpec
  | portSelector
  | destination
  | httpRouteDestination
  | httpRoute
  | virtualServiceSpec
  deriving DecidableEq, Repr

namespace MessageType

/-- The structures of a type. -/
def Value : MessageType → Type
  | node => Node
  | controlPlane => ControlPlane
  | discoveryRequest => DiscoveryRequest
  | discoveryResponse => DiscoveryResponse
  | anyMessage => AnyMessage
  | metadata => Metadata
  | envelope => Envelope
  | namespaceBody => NamespaceBody
  | workloadSelector => WorkloadSelector
  | mutualTls => MutualTls
  | peerAuthenticationSpec => PeerAuthenticationSpec
  | source => Source
  | operation => Operation
  | condition => Condition
  | sourceClause => SourceClause
  | operationClause => OperationClause
  | authorizationRule => AuthorizationRule
  | authorizationPolicySpec => AuthorizationPolicySpec
  | clientTlsSettings => ClientTlsSettings
  | trafficPolicy => TrafficPolicy
  | subset => Subset
  | destinationRuleSpec => DestinationRuleSpec
  | serverPort => ServerPort
  | serverTlsSettings => ServerTlsSettings
  | server => Server
  | gatewaySpec => GatewaySpec
  | portSelector => PortSelector
  | destination => Destination
  | httpRouteDestination => HttpRouteDestination
  | httpRoute => HttpRoute
  | virtualServiceSpec => VirtualServiceSpec

/-- The binary form of a type. -/
def wire : (t : MessageType) → Wire.Message t.Value
  | node => Node.wire
  | controlPlane => ControlPlane.wire
  | discoveryRequest => DiscoveryRequest.wire
  | discoveryResponse => DiscoveryResponse.wire
  | anyMessage => AnyMessage.wire
  | metadata => Metadata.wire
  | envelope => Envelope.wire
  | namespaceBody => NamespaceBody.wire
  | workloadSelector => WorkloadSelector.schema.wire
  | mutualTls => MutualTls.schema.wire
  | peerAuthenticationSpec => PeerAuthenticationSpec.schema.wire
  | source => Source.schema.wire
  | operation => Operation.schema.wire
  | condition => Condition.schema.wire
  | sourceClause => SourceClause.schema.wire
  | operationClause => OperationClause.schema.wire
  | authorizationRule => AuthorizationRule.schema.wire
  | authorizationPolicySpec => AuthorizationPolicySpec.schema.wire
  | clientTlsSettings => ClientTlsSettings.schema.wire
  | trafficPolicy => TrafficPolicy.schema.wire
  | subset => Subset.schema.wire
  | destinationRuleSpec => DestinationRuleSpec.schema.wire
  | serverPort => ServerPort.schema.wire
  | serverTlsSettings => ServerTlsSettings.schema.wire
  | server => Server.schema.wire
  | gatewaySpec => GatewaySpec.schema.wire
  | portSelector => PortSelector.schema.wire
  | destination => Destination.schema.wire
  | httpRouteDestination => HttpRouteDestination.schema.wire
  | httpRoute => HttpRoute.schema.wire
  | virtualServiceSpec => VirtualServiceSpec.schema.wire

theorem wire_lawful : ∀ t : MessageType, t.wire.Lawful 7
  | node => Node.wire_lawful.mono (by decide)
  | controlPlane => ControlPlane.wire_lawful.mono (by decide)
  | discoveryRequest => DiscoveryRequest.wire_lawful.mono (by decide)
  | discoveryResponse => DiscoveryResponse.wire_lawful.mono (by decide)
  | anyMessage => AnyMessage.wire_lawful.mono (by decide)
  | metadata => Metadata.wire_lawful.mono (by decide)
  | envelope => Envelope.wire_lawful.mono (by decide)
  | namespaceBody => NamespaceBody.wire_lawful.mono (by decide)
  | workloadSelector => WorkloadSelector.schema_lawful.wire.mono (by decide)
  | mutualTls => MutualTls.schema_lawful.wire.mono (by decide)
  | peerAuthenticationSpec => PeerAuthenticationSpec.schema_lawful.wire.mono (by decide)
  | source => Source.schema_lawful.wire.mono (by decide)
  | operation => Operation.schema_lawful.wire.mono (by decide)
  | condition => Condition.schema_lawful.wire.mono (by decide)
  | sourceClause => SourceClause.schema_lawful.wire.mono (by decide)
  | operationClause => OperationClause.schema_lawful.wire.mono (by decide)
  | authorizationRule => AuthorizationRule.schema_lawful.wire.mono (by decide)
  | authorizationPolicySpec => AuthorizationPolicySpec.schema_lawful.wire.mono (by decide)
  | clientTlsSettings => ClientTlsSettings.schema_lawful.wire.mono (by decide)
  | trafficPolicy => TrafficPolicy.schema_lawful.wire.mono (by decide)
  | subset => Subset.schema_lawful.wire.mono (by decide)
  | destinationRuleSpec => DestinationRuleSpec.schema_lawful.wire.mono (by decide)
  | serverPort => ServerPort.schema_lawful.wire.mono (by decide)
  | serverTlsSettings => ServerTlsSettings.schema_lawful.wire.mono (by decide)
  | server => Server.schema_lawful.wire.mono (by decide)
  | gatewaySpec => GatewaySpec.schema_lawful.wire.mono (by decide)
  | portSelector => PortSelector.schema_lawful.wire.mono (by decide)
  | destination => Destination.schema_lawful.wire.mono (by decide)
  | httpRouteDestination => HttpRouteDestination.schema_lawful.wire.mono (by decide)
  | httpRoute => HttpRoute.schema_lawful.wire.mono (by decide)
  | virtualServiceSpec => VirtualServiceSpec.schema_lawful.wire

/-! ## Written by anyone -/

/-- The bytes can be written for a structure, by someone who lists maps in an order of their own. -/
def WrittenAs (t : MessageType) (v : t.Value) (bytes : Wire.Bytes) : Prop :=
  ∃ records, Wire.Message.Arranges Wire.maxDepth t.Value t.wire v records ∧
    bytes = Wire.encodeRecords records

variable {t : MessageType} {v w : t.Value} {bytes : Wire.Bytes}

theorem writtenAs_encode (v : t.Value) : t.WrittenAs v (t.wire.encode v) :=
  ⟨_, (t.wire_lawful.mono (by decide)).arranges_records v, rfl⟩

theorem WrittenAs.decode_eq (h : t.WrittenAs v bytes) (hcount : bytes.length < UInt64.size) :
    t.wire.decode bytes = some v := by
  obtain ⟨records, harranges, rfl⟩ := h
  exact harranges.mergeBytes hcount

theorem WrittenAs.unique (hv : t.WrittenAs v bytes) (hw : t.WrittenAs w bytes)
    (hcount : bytes.length < UInt64.size) : v = w :=
  Option.some.inj ((hv.decode_eq hcount).symm.trans (hw.decode_eq hcount))

/-! ## Faithfulness -/

/-- **Bytes are as good as the structure that they were written for.** A structure of any type is
read from its own bytes, and from all others that can be written for it; these are not written for
any other structure; and what is written for a structure that was read means what was read. All of
this is for bytes that can be counted in 64 bits. -/
theorem decode_inverts_writing (t : MessageType) :
    (∀ v : t.Value, (t.wire.encode v).length < UInt64.size →
      t.wire.decode (t.wire.encode v) = some v) ∧
    (∀ v w : t.Value, (t.wire.encode v).length < UInt64.size →
      t.wire.encode v = t.wire.encode w → v = w) ∧
    (∀ v : t.Value, t.WrittenAs v (t.wire.encode v)) ∧
    (∀ (v : t.Value) (bytes : Wire.Bytes), t.WrittenAs v bytes → bytes.length < UInt64.size →
      t.wire.decode bytes = some v) ∧
    (∀ (v w : t.Value) (bytes : Wire.Bytes), t.WrittenAs v bytes → t.WrittenAs w bytes →
      bytes.length < UInt64.size → v = w) ∧
    ∀ (v : t.Value) (bytes again : Wire.Bytes), t.wire.decode bytes = some v →
      t.WrittenAs v again → again.length < UInt64.size →
      t.wire.decode again = t.wire.decode bytes := by
  refine ⟨fun v hcount ↦ (writtenAs_encode v).decode_eq hcount, fun v w hcount heq ↦ ?_,
    writtenAs_encode, fun v bytes h hcount ↦ h.decode_eq hcount,
    fun v w bytes hv hw hcount ↦ hv.unique hw hcount, fun v bytes again hread h hcount ↦ ?_⟩
  · exact (writtenAs_encode v).unique (heq ▸ writtenAs_encode w) hcount
  · rw [hread]
    exact h.decode_eq hcount

/-- The labels of an envelope may be written in descending order. -/
theorem decode_inverts_writing_backwards :
    envelope.WrittenAs ⟨some ⟨"", "", .ofList [("a", "1"), ("b", "2")], ∅⟩, none⟩
        [10, 16, 34, 6, 10, 1, 98, 18, 1, 50, 34, 6, 10, 1, 97, 18, 1, 49] ∧
      envelope.wire.decode [10, 16, 34, 6, 10, 1, 98, 18, 1, 50, 34, 6, 10, 1, 97, 18, 1, 49] =
        some ⟨some ⟨"", "", .ofList [("a", "1"), ("b", "2")], ∅⟩, none⟩ := by
  have harranges := Envelope.arranges_of_perm (by decide : 1 ≤ 98) (List.reverse_perm
    (Metadata.wire.records ⟨"", "", .ofList [("a", "1"), ("b", "2")], ∅⟩)) none
  have hwritten : envelope.WrittenAs ⟨some ⟨"", "", .ofList [("a", "1"), ("b", "2")], ∅⟩, none⟩
      [10, 16, 34, 6, 10, 1, 98, 18, 1, 50, 34, 6, 10, 1, 97, 18, 1, 49] :=
    ⟨_, harranges, by decide +kernel⟩
  exact ⟨hwritten, (decode_inverts_writing .envelope).2.2.2.1 _ _ hwritten (by decide)⟩

end MessageType

end MeshSurvey
