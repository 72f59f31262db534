import MeshSurvey.Proofs.Wire.Arrangement
import MeshSurvey.Protocol.Message

/-!
# Requests, responses and envelopes are restored

The messages of the protocol are decoded from their own bytes: a request, a response, and of each
resource its metadata, its body as opaque bytes, and the envelope around both. The metadata has
maps, and its records may come in any order.
-/

namespace MeshSurvey

section Fields

variable {σ α β : Type} {number number' depth : Nat} {codec : Wire.Codec α}
  {codec' : Wire.Codec β} {get : σ → α} {set : α → σ → σ} {get' : σ → β} {set' : β → σ → σ}
  {empty x y : σ}

@[simp] theorem get_wireField_eq_iff :
    (wireField number codec get set).get x = (wireField number codec get set).get y ↔
      get x = get y := .rfl

@[simp] theorem apart_wireField_iff :
    (wireField number codec get set).Apart (wireField number' codec' get' set') ↔
      number ≠ number' ∧ (∀ v x, get' (set v x) = get' x) ∧ ∀ v x, get (set' v x) = get x := .rfl

@[simp] theorem sound_wireField_iff :
    (wireField number codec get set).Sound empty depth ↔
      Wire.Key.IsField number ∧ (∀ v x, get (set v x) = v) ∧ get empty = codec.default ∧
        codec.Restores depth :=
  ⟨fun h ↦ ⟨h.isField, h.get_set, h.get_empty, h.restores⟩,
    fun h ↦ ⟨h.1, h.2.1, h.2.2.1, h.2.2.2⟩⟩

end Fields

theorem AnyMessage.wire_lawful : wire.Lawful 1 where
  depth_pos := by decide
  sound := by simp [wire, Wire.Key.IsField]
  apart := by simp [wire]
  ext := by
    rintro ⟨⟩ ⟨⟩ h
    simpa [wire] using h

theorem AnyMessage.length_value_le (a : AnyMessage) :
    a.value.length ≤ (wire.encode a).length := by
  rcases a with ⟨typeUrl, value⟩
  -- empty bytes are not written at all
  cases value with
  | nil => exact Nat.zero_le _
  | cons first rest =>
    exact Wire.Message.length_le_of_mem_write (List.mem_cons_of_mem _ List.mem_cons_self)
      List.mem_cons_self

theorem ControlPlane.wire_lawful : wire.Lawful 1 where
  depth_pos := by decide
  sound := by simp [wire, Wire.Key.IsField]
  apart := by simp [wire]
  ext := by
    rintro ⟨⟩ ⟨⟩ h
    simpa [wire] using h

theorem Node.wire_lawful : wire.Lawful 1 where
  depth_pos := by decide
  sound := by simp [wire, Wire.Key.IsField]
  apart := by simp [wire]
  ext := by
    rintro ⟨⟩ ⟨⟩ h
    simpa [wire] using h

theorem DiscoveryRequest.wire_lawful : wire.Lawful 2 where
  depth_pos := by decide
  sound := by
    have hnode := Wire.Codec.optional_restores Node.wire_lawful.restores_message
    simp [wire, Wire.Key.IsField, hnode]
  apart := by simp [wire]
  ext := by
    rintro ⟨⟩ ⟨⟩ h
    simpa [wire] using h

theorem DiscoveryResponse.wire_lawful : wire.Lawful 2 where
  depth_pos := by decide
  sound := by
    have hresources := Wire.Codec.messages_restores AnyMessage.wire_lawful.restores_message
    have hcontrolPlane := Wire.Codec.optional_restores ControlPlane.wire_lawful.restores_message
    simp [wire, Wire.Key.IsField, hresources, hcontrolPlane]
  apart := by simp [wire]
  ext := by
    rintro ⟨⟩ ⟨⟩ h
    simpa [wire] using h

theorem NamespaceBody.wire_lawful : wire.Lawful 1 where
  depth_pos := by decide
  sound := by simp [wire, Wire.Key.IsField]
  apart := by simp [wire]
  ext := by
    rintro ⟨⟩ ⟨⟩ h
    simpa [wire] using h

theorem Metadata.wire_lawful : wire.Lawful 2 where
  depth_pos := by decide
  sound := by
    have hmap : (Wire.Codec.map .text .text).Restores 2 :=
      Wire.Codec.map_restores Wire.Codec.text_restores Wire.Codec.text_restores (Nat.le_refl 1)
    simp [wire, Wire.Key.IsField, hmap]
  apart := by simp [wire]
  ext := by
    rintro ⟨⟩ ⟨⟩ h
    simpa [wire] using h

/-- Its records arrange metadata in any order. -/
theorem Metadata.arranges_of_perm {depth : Nat} (hdepth : 1 ≤ depth) {metadata : Metadata}
    {records : List Wire.Record} (hperm : records.Perm (wire.records metadata)) :
    Wire.Message.Arranges (depth + 1) Metadata wire metadata records := by
  refine (wire_lawful.mono (Nat.succ_le_succ hdepth)).arranges_of_perm ?_ hperm
  have htext : ∀ (s : String) ps, ps.Perm (Wire.Codec.text.write s) →
      Wire.Codec.text.Arranges (Wire.Message.Arranges depth) s ps :=
    fun _ _ ↦ Wire.Codec.text_arranges_of_perm
  have hmap : ∀ (m : KeyMap String String) ps, ps.Perm ((Wire.Codec.map .text .text).write m) →
      (Wire.Codec.map .text .text).Arranges (Wire.Message.Arranges depth) m ps :=
    fun _ _ ↦ Wire.Codec.map_arranges_of_perm Wire.Codec.text_restores Wire.Codec.text_restores
      hdepth
  simp only [wire, List.forall_mem_cons]
  exact ⟨htext, htext, hmap, hmap, List.forall_mem_nil _⟩

theorem Envelope.wire_lawful : wire.Lawful 3 where
  depth_pos := by decide
  sound := by
    have hmetadata := Wire.Codec.optional_restores Metadata.wire_lawful.restores_message
    have hbody := (Wire.Codec.optional_restores AnyMessage.wire_lawful.restores_message).mono
      (Nat.le_succ 2)
    simp [wire, Wire.Key.IsField, hmetadata, hbody]
  apart := by simp [wire]
  ext := by
    rintro ⟨⟩ ⟨⟩ h
    simpa [wire] using h

theorem Envelope.arranges_of_perm {depth : Nat} (hdepth : 1 ≤ depth) {metadata : Metadata}
    {records : List Wire.Record} (hperm : records.Perm (Metadata.wire.records metadata))
    (body : Option AnyMessage) :
    Wire.Message.Arranges (depth + 2) Envelope wire ⟨some metadata, body⟩
      ((1, .bytes (Wire.encodeRecords records)) ::
        ((Wire.Codec.optional AnyMessage.wire).write body).map (2, ·)) := by
  refine (wire_lawful.mono (Nat.add_le_add_right hdepth 2)).arranges ?_ ?_
  · have hfirst : ∃ f ∈ wire.fields, 1 = f.number := ⟨_, List.mem_cons_self, rfl⟩
    have hsecond : ∃ f ∈ wire.fields, 2 = f.number :=
      ⟨_, List.mem_cons_of_mem _ List.mem_cons_self, rfl⟩
    exact List.forall_mem_cons.mpr ⟨hfirst, List.forall_mem_map.mpr fun _ _ ↦ hsecond⟩
  · have hmetadata := Metadata.arranges_of_perm hdepth hperm
    -- the body is there or not, which says what the payloads of both fields are
    refine List.forall_mem_cons.mpr ⟨?_, List.forall_mem_singleton.mpr ?_⟩
    · cases body with
      | none => exact .optional hmetadata
      | some _ => exact .optional hmetadata
    · cases body with
      | none => exact .own _ _
      | some _ => exact .own _ _

end MeshSurvey
