import Mathlib.Logic.Relation
import MeshSurvey.Mesh.EnvelopedResource
import MeshSurvey.Proofs.MessageType
import MeshSurvey.Proofs.Wire.Undeclared

/-!
# Objects do not show records that are not declared

A response holds envelopes as opaque bytes, and an envelope the body of an object. Any of the three
may be written by someone who knows more fields than are declared here. Records of such fields may
stand at any boundary of the response, of an envelope in it and of a body in that, and at any level
of each; the objects that are read stay the same.

Opaque bytes are only copied until they are decoded in their turn, so that of a message that holds
them no more is observed than what they are decoded to.
-/

namespace MeshSurvey

open Wire (Bytes maxDepth)

variable {ω : Type}

/-! ## What is observed of opaque bytes -/

namespace AnyMessage

/-- An opaque message, as it looks to someone who sees of its bytes only what they mean. -/
def look (meaning : Bytes → ω) (any : AnyMessage) : String × ω := (any.typeUrl, meaning any.value)

theorem wire_respects (meaning : Bytes → ω) (depth : Nat) :
    wire.Respects depth (look meaning) := by
  apply Wire.Message.respects_of_fields
  refine List.forall_mem_cons.mpr ⟨?_, List.forall_mem_singleton.mpr ?_⟩
  · intro p x y hlook
    obtain ⟨htype, hvalue⟩ := Prod.mk.inj hlook
    simp [Wire.Field.merge, wireField, htype, look, hvalue, Function.comp_def]
  · intro p x y hlook
    obtain ⟨htype, -⟩ := Prod.mk.inj hlook
    cases p with
    | bytes b => simp [Wire.Field.merge, wireField, Wire.Codec.bytes, look, htype]
    | varint | fixed64 | group | fixed32 => rfl

variable {meaning : Bytes → ω} {depth : Nat} {inner : Bytes → Bytes → Prop} {body body' : Bytes}

/-- Bytes are replaced without being noticed by bytes that mean the same. -/
theorem mergeBytes_replaces (hinner : ∀ v v', inner v v' → meaning v' = meaning v)
    (h : wire.Replaces depth 2 inner body body') (x : AnyMessage) :
    (wire.mergeBytes depth x body').map (look meaning) =
      (wire.mergeBytes depth x body).map (look meaning) := by
  refine h.map_mergeBytes (wire_respects meaning depth) ?_ x
  intro v v' hv y
  exact congrArg (fun w ↦ some (y.typeUrl, w)) (hinner v v' hv)

end AnyMessage

namespace Envelope

/-- An envelope, as it looks to someone who sees of the body only what it means. -/
def look (meaning : Bytes → ω) (e : Envelope) : Option Metadata × Option (String × ω) :=
  (e.metadata, e.body.map (AnyMessage.look meaning))

variable {meaning : Bytes → ω}

theorem look_getD {o o' : Option AnyMessage}
    (h : o.map (AnyMessage.look meaning) = o'.map (AnyMessage.look meaning)) (d : AnyMessage) :
    AnyMessage.look meaning (o.getD d) = AnyMessage.look meaning (o'.getD d) := by
  rw [← Option.getD_map (AnyMessage.look meaning), h, Option.getD_map]

theorem map_look_merge_body (depth : Nat) (p : Wire.Payload) (e : Envelope) :
    ((wireField 2 (.optional AnyMessage.wire) Envelope.body
      fun v m ↦ { m with body := v }).merge depth e p).map (look meaning) =
      ((Wire.Codec.mergeNested AnyMessage.wire depth (e.body.getD {}) p).map
        (AnyMessage.look meaning)).map fun l ↦ (e.metadata, some l) := by
  rw [Wire.Field.merge, Option.map_map, Option.map_map]
  exact Option.map_map _ _ _

theorem wire_respects (meaning : Bytes → ω) (depth : Nat) :
    wire.Respects depth (look meaning) := by
  apply Wire.Message.respects_of_fields
  refine List.forall_mem_cons.mpr ⟨?_, List.forall_mem_singleton.mpr ?_⟩
  · intro p x y hlook
    obtain ⟨hmetadata, hbody⟩ := Prod.mk.inj hlook
    simp [Wire.Field.merge, wireField, hmetadata, look, hbody, Function.comp_def]
  · intro p x y hlook
    obtain ⟨hmetadata, hbody⟩ := Prod.mk.inj hlook
    rw [map_look_merge_body, map_look_merge_body, hmetadata,
      Wire.Codec.map_mergeNested (AnyMessage.wire_respects meaning) depth p (look_getD hbody {})]

variable {depth : Nat} {inner : Bytes → Bytes → Prop} {bytes bytes' : Bytes}

theorem mergeBytes_replaces (hinner : ∀ v v', inner v v' → meaning v' = meaning v)
    (h : wire.Replaces (depth + 1) 2 (AnyMessage.wire.Replaces depth 2 inner) bytes bytes')
    (x : Envelope) : (wire.mergeBytes (depth + 1) x bytes').map (look meaning) =
      (wire.mergeBytes (depth + 1) x bytes).map (look meaning) := by
  refine h.map_mergeBytes (wire_respects meaning (depth + 1)) ?_ x
  intro body body' hbody y
  have hread : (AnyMessage.wire.mergeBytes depth (y.body.getD {}) body').map
      (AnyMessage.look meaning) = (AnyMessage.wire.mergeBytes depth (y.body.getD {}) body).map
      (AnyMessage.look meaning) := AnyMessage.mergeBytes_replaces hinner hbody _
  have hfield (b : Bytes) : (wire.mergeRecord (depth + 1) y (2, .bytes b)).map (look meaning) =
      ((AnyMessage.wire.mergeBytes depth (y.body.getD {}) b).map (AnyMessage.look meaning)).map
        fun l ↦ (y.metadata, some l) := map_look_merge_body (depth + 1) (.bytes b) y
  rw [hfield, hfield, hread]

end Envelope

namespace DiscoveryResponse

/-- A response, as it looks to someone who sees of its resources only what they mean. -/
def look (meaning : Bytes → ω) (r : DiscoveryResponse) :
    String × List (String × ω) × String × String × Option ControlPlane :=
  (r.versionInfo, r.resources.map (AnyMessage.look meaning), r.typeUrl, r.nonce, r.controlPlane)

variable {meaning : Bytes → ω}

theorem map_look_merge_resources (depth : Nat) (p : Wire.Payload) (r : DiscoveryResponse) :
    ((wireField 2 (.messages AnyMessage.wire) DiscoveryResponse.resources
      fun v m ↦ { m with resources := v }).merge depth r p).map (look meaning) =
      ((Wire.Codec.mergeNested AnyMessage.wire depth {} p).map (AnyMessage.look meaning)).map
        fun l ↦ (r.versionInfo, r.resources.map (AnyMessage.look meaning) ++ [l], r.typeUrl,
          r.nonce, r.controlPlane) := by
  rw [Wire.Field.merge, Option.map_map, Option.map_map]
  refine (Option.map_map _ _ _).trans ?_
  congr 1
  funext any
  simp [look, wireField]

theorem wire_respects (meaning : Bytes → ω) (depth : Nat) :
    wire.Respects depth (look meaning) := by
  apply Wire.Message.respects_of_fields
  intro f hf p x y hlook
  have hsame : x.versionInfo = y.versionInfo ∧
      x.resources.map (AnyMessage.look meaning) = y.resources.map (AnyMessage.look meaning) ∧
      x.typeUrl = y.typeUrl ∧ x.nonce = y.nonce ∧ x.controlPlane = y.controlPlane := by
    simpa [look] using hlook
  obtain ⟨hversion, hresources, htype, hnonce, hcontrol⟩ := hsame
  simp only [wire, List.mem_cons, List.not_mem_nil, or_false] at hf
  rcases hf with rfl | rfl | rfl | rfl | rfl
  · simp [Wire.Field.merge, wireField, look, Function.comp_def, hversion, hresources, htype,
      hnonce, hcontrol]
  · rw [map_look_merge_resources, map_look_merge_resources, hversion, hresources, htype, hnonce,
      hcontrol]
  · simp [Wire.Field.merge, wireField, look, Function.comp_def, hversion, hresources, htype,
      hnonce, hcontrol]
  · simp [Wire.Field.merge, wireField, look, Function.comp_def, hversion, hresources, htype,
      hnonce, hcontrol]
  · simp [Wire.Field.merge, wireField, look, Function.comp_def, hversion, hresources, htype,
      hnonce, hcontrol]

variable {depth : Nat} {inner : Bytes → Bytes → Prop} {bytes bytes' : Bytes}

theorem mergeBytes_replaces (hinner : ∀ v v', inner v v' → meaning v' = meaning v)
    (h : wire.Replaces (depth + 1) 2 (AnyMessage.wire.Replaces depth 2 inner) bytes bytes')
    (x : DiscoveryResponse) : (wire.mergeBytes (depth + 1) x bytes').map (look meaning) =
      (wire.mergeBytes (depth + 1) x bytes).map (look meaning) := by
  refine h.map_mergeBytes (wire_respects meaning (depth + 1)) ?_ x
  intro body body' hbody y
  have hread : (AnyMessage.wire.mergeBytes depth {} body').map (AnyMessage.look meaning) =
      (AnyMessage.wire.mergeBytes depth {} body).map (AnyMessage.look meaning) :=
    AnyMessage.mergeBytes_replaces hinner hbody _
  have hfield (b : Bytes) : (wire.mergeRecord (depth + 1) y (2, .bytes b)).map (look meaning) =
      ((AnyMessage.wire.mergeBytes depth {} b).map (AnyMessage.look meaning)).map
        fun l ↦ (y.versionInfo, y.resources.map (AnyMessage.look meaning) ++ [l], y.typeUrl,
          y.nonce, y.controlPlane) := map_look_merge_resources (depth + 1) (.bytes b) y
  rw [hfield, hfield, hread]

end DiscoveryResponse

/-! ## Objects -/

namespace Kind

/-- The second envelope is the first with one more record of a field that is not declared, in the
envelope, in a message that is nested in it, or in the body of a kind that it holds. -/
def InsertsInEnvelope (k : Kind) (bytes bytes' : Bytes) : Prop :=
  Envelope.wire.Inserts maxDepth bytes bytes' ∨
    Envelope.wire.Replaces maxDepth 2
      (AnyMessage.wire.Replaces (maxDepth - 1) 2 (k.bodyWire.Inserts maxDepth)) bytes bytes'

/-- The second response is the first with one more record of a field that is not declared, in the
response, in a message that is nested in it, or in one of the envelopes that it holds. -/
def InsertsInResponse (k : Kind) (bytes bytes' : Bytes) : Prop :=
  DiscoveryResponse.wire.Inserts maxDepth bytes bytes' ∨
    DiscoveryResponse.wire.Replaces maxDepth 2
      (AnyMessage.wire.Replaces (maxDepth - 1) 2 k.InsertsInEnvelope) bytes bytes'

variable {k : Kind}

theorem toObject_congr {metadata : Kubernetes.ObjectMeta} {payload payload' : Bytes}
    (h : k.bodyWire.decode payload' = k.bodyWire.decode payload) :
    (EnvelopedResource.mk k metadata payload').toObject =
      (EnvelopedResource.mk k metadata payload).toObject := by
  unfold EnvelopedResource.toObject
  cases hdecode : k.bodyWire.decode payload with
  | none => simp only [h, hdecode]
  | some body => simp only [h, hdecode]

/-- Of the body of an envelope only what it is decoded to makes the object. -/
theorem ofEnvelope_congr {e e' : Envelope}
    (h : e'.look k.bodyWire.decode = e.look k.bodyWire.decode) :
    k.ofEnvelope e' = k.ofEnvelope e := by
  obtain ⟨hmetadata, hbody⟩ := Prod.mk.inj h
  have hany : AnyMessage.look k.bodyWire.decode (e'.body.getD {}) =
      AnyMessage.look k.bodyWire.decode (e.body.getD {}) := Envelope.look_getD hbody {}
  have hvalue : k.bodyWire.decode (e'.body.getD {}).value =
      k.bodyWire.decode (e.body.getD {}).value := (Prod.mk.inj hany).2
  simp only [ofEnvelope, EnvelopedResource.ofEnvelope, hmetadata]
  cases EnvelopedResource.splitName k.isNamespaced (e.metadata.getD {}).name with
  | none => rfl
  | some parts => exact toObject_congr hvalue

theorem InsertsInEnvelope.ofEnvelopeBytes_eq {bytes bytes' : Bytes}
    (h : k.InsertsInEnvelope bytes bytes') :
    k.ofEnvelopeBytes bytes' = k.ofEnvelopeBytes bytes := by
  have hlook : (Envelope.wire.decode bytes').map (Envelope.look k.bodyWire.decode) =
      (Envelope.wire.decode bytes).map (Envelope.look k.bodyWire.decode) := by
    rcases h with h | h
    · rw [Wire.Message.decode, h.mergeBytes_eq, Wire.Message.decode]
    · refine Envelope.mergeBytes_replaces (fun v v' hv ↦ ?_) h Envelope.wire.empty
      exact hv.mergeBytes_eq _
  unfold ofEnvelopeBytes
  cases hread : Envelope.wire.decode bytes with
  | none =>
    rw [hread, Option.map_none, Option.map_eq_none_iff] at hlook
    rw [hlook]
  | some e =>
    rw [hread, Option.map_some, Option.map_eq_some_iff] at hlook
    obtain ⟨e', hread', he⟩ := hlook
    rw [hread']
    exact ofEnvelope_congr he

/-- Of the resources of a response only the objects that they are make those of the response. -/
theorem ofResponse_congr {r r' : DiscoveryResponse}
    (h : r'.look k.ofEnvelopeBytes = r.look k.ofEnvelopeBytes) :
    k.ofResponse r' = k.ofResponse r := by
  have hresources : r'.resources.map (AnyMessage.look k.ofEnvelopeBytes) =
      r.resources.map (AnyMessage.look k.ofEnvelopeBytes) := (Prod.mk.inj (Prod.mk.inj h).2).1
  have hobjects (s : DiscoveryResponse) : k.ofResponse s =
      (s.resources.map (AnyMessage.look k.ofEnvelopeBytes)).mapM (·.2) := by
    rw [List.mapM_map]
    rfl
  rw [hobjects, hobjects, hresources]

theorem InsertsInResponse.map_ofResponse_eq {bytes bytes' : Bytes}
    (h : k.InsertsInResponse bytes bytes') :
    (DiscoveryResponse.wire.decode bytes').map k.ofResponse =
      (DiscoveryResponse.wire.decode bytes).map k.ofResponse := by
  have hlook : (DiscoveryResponse.wire.decode bytes').map
        (DiscoveryResponse.look k.ofEnvelopeBytes) =
      (DiscoveryResponse.wire.decode bytes).map (DiscoveryResponse.look k.ofEnvelopeBytes) := by
    rcases h with h | h
    · rw [Wire.Message.decode, h.mergeBytes_eq, Wire.Message.decode]
    · refine DiscoveryResponse.mergeBytes_replaces (fun v v' hv ↦ ?_) h DiscoveryResponse.wire.empty
      exact InsertsInEnvelope.ofEnvelopeBytes_eq hv
  cases hread : DiscoveryResponse.wire.decode bytes with
  | none =>
    rw [hread, Option.map_none, Option.map_eq_none_iff] at hlook
    rw [hlook]
  | some r =>
    rw [hread, Option.map_some, Option.map_eq_some_iff] at hlook
    obtain ⟨r', hread', hr⟩ := hlook
    rw [hread', Option.map_some, Option.map_some, ofResponse_congr hr]

end Kind

/-! ## Any number of records -/

theorem eq_of_reflTransGen {α β : Type} {step : α → α → Prop} {f : α → β}
    (hstep : ∀ a b, step a b → f b = f a) {a b : α} (h : Relation.ReflTransGen step a b) :
    f b = f a := by
  induction h with
  | refl => rfl
  | tail _ hlast ih => rw [hstep _ _ hlast, ih]

/-- **Records that are not declared are invisible.** A record of a field that a type does not
declare, at the boundary of two records of a message that can be decoded, leaves what it is decoded
to. So does any number of such records, in the message and in those that are nested in it; and so it
is with the objects of a kind in an envelope and in a response, wherever the records are on the way
down to the bodies of the objects. -/
theorem undeclared_records_are_invisible :
    (∀ (t : MessageType) (records : List Wire.Record) (front text back : Bytes) (v : t.Value),
      t.wire.Spells maxDepth records front → t.wire.Undeclared maxDepth text →
      t.wire.decode (front ++ back) = some v →
      t.wire.decode (front ++ text ++ back) = some v) ∧
    (∀ (t : MessageType) (bytes bytes' : Bytes),
      Relation.ReflTransGen (t.wire.Inserts maxDepth) bytes bytes' →
      t.wire.decode bytes' = t.wire.decode bytes) ∧
    (∀ (k : Kind) (bytes bytes' : Bytes), Relation.ReflTransGen k.InsertsInEnvelope bytes bytes' →
      k.ofEnvelopeBytes bytes' = k.ofEnvelopeBytes bytes) ∧
    ∀ (k : Kind) (bytes bytes' : Bytes), Relation.ReflTransGen k.InsertsInResponse bytes bytes' →
      (DiscoveryResponse.wire.decode bytes').map k.ofResponse =
        (DiscoveryResponse.wire.decode bytes).map k.ofResponse := by
  refine ⟨?_, ?_, ?_, ?_⟩
  · intro t records front text back v hfront htext hread
    rw [← hread]
    exact (Wire.Message.Inserts.here hfront htext).mergeBytes_eq t.wire.empty
  · intro t bytes bytes' h
    exact eq_of_reflTransGen (fun _ _ hstep ↦ hstep.mergeBytes_eq t.wire.empty) h
  · intro k bytes bytes' h
    exact eq_of_reflTransGen (fun _ _ hstep ↦ hstep.ofEnvelopeBytes_eq) h
  · intro k bytes bytes' h
    exact eq_of_reflTransGen (f := fun b ↦ (DiscoveryResponse.wire.decode b).map k.ofResponse)
      (fun _ _ hstep ↦ hstep.map_ofResponse_eq) h

/-- Into the envelope of a namespace a group is put behind the name, and then a number behind the
metadata. The envelope is decoded as before, and the namespace that it holds is the same; so it is
in a response, where the counts around the envelope are others. -/
theorem undeclared_records_are_invisible_of_two :
    let metadata : Bytes := [10, 2, 47, 97]
    let group : Bytes := [75, 8, 1, 76]
    let number : Bytes := [24, 1]
    let before : Bytes := [10, 4] ++ metadata
    let between : Bytes := [10, 8] ++ (metadata ++ group ++ [])
    let after : Bytes := between ++ number ++ []
    Metadata.wire.Undeclared 99 group ∧ Envelope.wire.Undeclared maxDepth number ∧
      Envelope.wire.decode after = some ⟨some { name := "/a" }, none⟩ ∧
      Envelope.wire.decode after = Envelope.wire.decode before ∧
      Kind.namespaces.ofEnvelopeBytes after = Kind.namespaces.ofEnvelopeBytes before ∧
      (DiscoveryResponse.wire.decode ([18, 12] ++ ([18, 10] ++ between))).map
          Kind.namespaces.ofResponse =
        (DiscoveryResponse.wire.decode ([18, 8] ++ ([18, 6] ++ before))).map
          Kind.namespaces.ofResponse := by
  intro metadata group number before between after
  have hgroup : Metadata.wire.Undeclared 99 group := Wire.Message.undeclared_iff.mpr
    ⟨(9, .group [(1, .varint 1)]), rfl, Wire.readRecords_eq_some_iff.mp rfl⟩
  have hnumber : Envelope.wire.Undeclared maxDepth number := Wire.Message.undeclared_iff.mpr
    ⟨(3, .varint 1), rfl, Wire.readRecords_eq_some_iff.mp rfl⟩
  have hmetadata : Metadata.wire.Spells 99 [(1, .bytes [47, 97])] metadata :=
    Wire.readRecords_eq_some_iff.mp rfl
  have hbetween : Envelope.wire.Spells maxDepth [(1, .bytes (metadata ++ group ++ []))] between :=
    Wire.readRecords_eq_some_iff.mp rfl
  have hfirst : Envelope.wire.Inserts maxDepth ([] ++ before ++ []) ([] ++ between ++ []) :=
    .nested rfl (.optional Metadata.wire) .nil (Wire.readRecords_eq_some_iff.mp rfl) hbetween
      (.here hmetadata hgroup)
  have hsecond : Envelope.wire.Inserts maxDepth (between ++ []) (between ++ number ++ []) :=
    .here hbetween hnumber
  have hread : Envelope.wire.decode (between ++ []) = some ⟨some { name := "/a" }, none⟩ := by
    decide +kernel
  have hsteps : Relation.ReflTransGen Kind.namespaces.InsertsInEnvelope before after :=
    .tail (.tail .refl (.inl hfirst)) (.inl hsecond)
  have hany : AnyMessage.wire.Replaces 99 2 Kind.namespaces.InsertsInEnvelope
      ([] ++ ([18, 6] ++ before) ++ []) ([] ++ ([18, 10] ++ between) ++ []) :=
    .mk .nil (Wire.readRecords_eq_some_iff.mp rfl) (Wire.readRecords_eq_some_iff.mp rfl)
      (.inl hfirst)
  have hresponse : Relation.ReflTransGen Kind.namespaces.InsertsInResponse
      ([] ++ ([18, 8] ++ ([18, 6] ++ before)) ++ [])
      ([] ++ ([18, 12] ++ ([18, 10] ++ between)) ++ []) :=
    .single (.inr (.mk .nil (Wire.readRecords_eq_some_iff.mp rfl)
      (Wire.readRecords_eq_some_iff.mp rfl) hany))
  obtain ⟨hone, hmany, henvelope, hobjects⟩ := undeclared_records_are_invisible
  refine ⟨hgroup, hnumber, ?_, ?_, henvelope .namespaces _ _ hsteps,
    hobjects .namespaces _ _ hresponse⟩
  · exact hone .envelope _ between number [] _ hbetween hnumber hread
  · exact hmany .envelope _ _ (.tail (.tail .refl hfirst) hsecond)

end MeshSurvey
