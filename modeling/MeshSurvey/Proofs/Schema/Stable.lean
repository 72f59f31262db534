import MeshSurvey.Proofs.Json.Stable
import MeshSurvey.Proofs.Schema

/-!
# Schemas do not mind how members are arranged

What is read of an object is decided for each field by itself, by the members of its name. There may
be one at most, so that arranging an object leaves each field the member that it has. So schemas are
stable if their fields are.
-/

namespace MeshSurvey

variable {σ α : Type}

namespace Schema

variable {s : Schema σ} {depth : Nat}

theorem takes_arranged {m : Member σ} (hm : m.shape.json.Stable) {x y : σ}
    {members : List (String × Json)} (h : m.Takes [] x y (valuesUnder m.name members)) :
    m.Takes [] x y (valuesUnder m.name
      (Json.sortMembers (members.map fun m ↦ (m.1, m.2.arranged)))) := by
  rw [Json.valuesUnder_arranged]
  match hvs : valuesUnder m.name members with
  | [] =>
    rw [hvs] at h
    exact h
  | [v] =>
    rw [hvs] at h
    exact ⟨h.1, hm.read_arranged v _ h.2⟩
  | _ :: _ :: _ =>
    rw [hvs] at h
    exact h.elim

theorem readItems_arranged {members : List (Member σ)}
    (hmembers : ∀ m ∈ members, m.shape.json.Stable) {items : List Json} {x y : σ}
    (h : Json.Field.readItems (members.map (·.json)) items x = .ok y) :
    Json.Field.readItems (members.map (·.json)) (items.map Json.arranged) x = .ok y := by
  induction members generalizing items x with
  | nil =>
    cases items with
    | nil => exact h
    | cons v items => cases h
  | cons m members ih =>
    obtain ⟨hm, hmembers⟩ := List.forall_mem_cons.mp hmembers
    cases items with
    | nil => exact h
    | cons v items =>
      rw [List.map_cons, Json.Field.readItems] at h
      rw [List.map_cons, List.map_cons, Json.Field.readItems]
      cases hread : m.shape.json.read v with
      | error e =>
        rw [Member.json_read_error hread x] at h
        cases h
      | ok a =>
        rw [Member.json_read_ok hread x] at h
        rw [Member.json_read_ok (hm.read_arranged v a hread) x]
        exact ih hmembers h

theorem Lawful.json_stable (h : s.Lawful depth)
    (hmembers : ∀ m ∈ s.members, m.shape.json.Stable) : s.json.Stable where
  read_write x := by
    rw [json_write, h.read_object_iff]
    intro m hm
    rw [valuesUnder_map_of_distinct (·.json.write x) (h.apart.imp Member.Apart.name_ne) hm]
    exact ⟨List.not_mem_nil, (hmembers m hm).read_write (m.get x)⟩
  read_arranged v y hread := by
    cases v with
    | object members =>
      rw [h.read_object_iff] at hread
      rw [Json.arranged_object, h.read_object_iff]
      exact fun m hm ↦ takes_arranged (hmembers m hm) (hread m hm)
    | array items =>
      rw [Json.arranged_array]
      exact readItems_arranged hmembers hread
    | _ => cases hread

end Schema

/-! ## Fields and shapes -/

namespace Member

@[simp] theorem stable_member_iff {number : Nat} {name : String} {shape : Shape α} {get : σ → α}
    {set : α → σ → σ} :
    (member number name shape get set).shape.json.Stable ↔ shape.json.Stable := .rfl

end Member

namespace Shape

@[simp] theorem text_json_stable : text.json.Stable := Json.Codec.text_stable

@[simp] theorem flag_json_stable : flag.json.Stable := Json.Codec.flag_stable

@[simp] theorem unsigned_json_stable : unsigned.json.Stable := Json.Codec.unsigned_stable

@[simp] theorem signed_json_stable : signed.json.Stable := Json.Codec.signed_stable

@[simp] theorem texts_json_stable : texts.json.Stable :=
  Json.Codec.list_stable Json.Codec.text_stable

@[simp] theorem labels_json_stable : labels.json.Stable :=
  Json.Codec.map_stable Json.Codec.KeyCodec.text_exact Json.Codec.text_stable

theorem optional_json_stable {s : Schema σ} (h : s.json.Stable) : (optional s).json.Stable :=
  Json.Codec.optional_stable h s.isNull_json_write

theorem list_json_stable {s : Schema σ} (h : s.json.Stable) : (list s).json.Stable :=
  Json.Codec.list_stable h

theorem numbered_json_stable {s : Schema σ} (h : s.json.Stable) : (numbered s).json.Stable :=
  Json.Codec.map_stable Json.Codec.KeyCodec.unsigned_exact h

end Shape

end MeshSurvey
