import Mathlib.Logic.Relation
import MeshSurvey.Proofs.Schema.Stable
import MeshSurvey.Resource.Enumeration

/-!
# Documents that say the same

Three edits do not change what a document says. A structure may get a member that it does not
declare, with whatever value. It may lose a member from which the field's default is read. And where
the name of an enumeration's value stands, its number may stand. All of this may be done at any
depth: within a field, within an option, to an item of a list or to an entry of a map. The keys of a
map are no fields, so no entries are added or removed.

Since each edit leaves what is read as it was, so does any sequence of edits.
-/

namespace MeshSurvey

namespace Json.Codec

/-- One edit to a document of a codec. -/
inductive Edits : {α : Type} → Codec α → Json → Json → Prop where
  /-- A structure gets a member that it does not declare. -/
  | undeclared {σ : Type} {s : Schema σ} {depth : Nat} (lawful : s.Lawful depth) {name : String}
      (h : ∀ m ∈ s.members, m.name ≠ name) (before after : List (String × Json)) (v : Json) :
      Edits s.json (.object (before ++ after)) (.object (before ++ (name, v) :: after))
  /-- A structure loses a member from which the field's default is read. -/
  | omitted {σ : Type} {s : Schema σ} {depth : Nat} (lawful : s.Lawful depth) {m : Member σ}
      (hm : m ∈ s.members) {v : Json} (h : m.shape.json.read v = .ok (m.get s.empty))
      (before after : List (String × Json)) :
      Edits s.json (.object (before ++ (m.name, v) :: after)) (.object (before ++ after))
  /-- The number of a value stands where its name stood. -/
  | number {ε : Type} [Enumeration ε] {name : String} {e : ε}
      (h : Enumeration.ofName? name = some e) :
      Edits (Coded.jsonCodec (ε := ε)) (.string name) (.integer (Enumeration.number e).toInt)
  /-- The value of a field is edited. -/
  | field {σ : Type} {s : Schema σ} {depth : Nat} (lawful : s.Lawful depth) {m : Member σ}
      (hm : m ∈ s.members) {v w : Json} (h : Edits m.shape.json v w)
      (before after : List (String × Json)) :
      Edits s.json (.object (before ++ (m.name, v) :: after))
        (.object (before ++ (m.name, w) :: after))
  /-- A value that may be absent is edited. -/
  | present {α : Type} {item : Codec α} {v w : Json} (h : Edits item v w) :
      Edits (optional item) v w
  /-- An item of a list is edited. -/
  | item {α : Type} {item : Codec α} {v w : Json} (h : Edits item v w) (before after : List Json) :
      Edits (list item) (.array (before ++ v :: after)) (.array (before ++ w :: after))
  /-- The value of an entry of a map is edited. -/
  | entry {κ ν : Type} [Ord κ] [Std.TransOrd κ] [Std.LawfulEqOrd κ] {key : KeyCodec κ}
      {value : Codec ν} {v w : Json} (h : Edits value v w) (name : String)
      (before after : List (String × Json)) :
      Edits (map key value) (.object (before ++ (name, v) :: after))
        (.object (before ++ (name, w) :: after))

variable {α : Type} {c : Codec α} {v w : Json} {x : α}

theorem Edits.not_null (h : c.Edits v w) : v.isNull = false ∧ w.isNull = false := by
  induction h with
  | present _ ih => exact ih
  | _ => exact ⟨rfl, rfl⟩

end Json.Codec

namespace Member

variable {σ : Type} {m : Member σ} {seen : List String} {x y : σ}

/-- Only one value under a field's name may be taken. -/
theorem Takes.of_append_cons {v : Json} {vs ws : List Json} (h : m.Takes seen x y (vs ++ v :: ws)) :
    vs = [] ∧ ws = [] ∧ m.name ∉ seen ∧ m.shape.json.read v = .ok (m.get y) := by
  match vs, ws with
  | [], [] => exact ⟨rfl, rfl, h⟩
  | [], _ :: _ => exact h.elim
  | [_], _ => exact h.elim
  | _ :: _ :: _, _ => exact h.elim

end Member

namespace Schema

variable {σ : Type} {s : Schema σ} {depth : Nat} {before after : List (String × Json)} {y : σ}

/-! ## One edit to a structure -/

theorem Lawful.read_undeclared (h : s.Lawful depth) {name : String}
    (hname : ∀ m ∈ s.members, m.name ≠ name) (v : Json)
    (hread : s.json.read (.object (before ++ after)) = .ok y) :
    s.json.read (.object (before ++ (name, v) :: after)) = .ok y := by
  rw [h.read_object_iff] at hread ⊢
  intro m hm
  have hne : (name, v).1 ≠ m.name := (hname m hm).symm
  rw [valuesUnder_append, valuesUnder_cons_of_ne hne, ← valuesUnder_append]
  exact hread m hm

/-- A member may be replaced by others if what it says about its field is said by them, and if they
say nothing about other fields. -/
theorem Lawful.read_replaced (h : s.Lawful depth) {m : Member σ} (hm : m ∈ s.members) {v : Json}
    (others : List (String × Json)) (hothers : ∀ o ∈ others, o.1 = m.name)
    (hother : m.shape.json.read v = .ok (m.get y) →
      m.Takes [] s.empty y (valuesUnder m.name others))
    (hread : s.json.read (.object (before ++ (m.name, v) :: after)) = .ok y) :
    s.json.read (.object (before ++ (others ++ after))) = .ok y := by
  rw [h.read_object_iff] at hread ⊢
  intro m' hm'
  have htakes := hread m' hm'
  rw [valuesUnder_append] at htakes
  rw [valuesUnder_append, valuesUnder_append]
  by_cases hname : m'.name = m.name
  · -- nothing else is said of the field, before the member or after it
    obtain rfl := h.eq_of_name hm hm' hname
    rw [valuesUnder_cons_self] at htakes
    obtain ⟨hbefore, hafter, _, hv⟩ := htakes.of_append_cons
    rw [hbefore, hafter, List.nil_append, List.append_nil]
    exact hother hv
  · have hnone : valuesUnder m'.name others = [] := by
      refine List.filterMap_eq_nil_iff.mpr fun o ho ↦ ?_
      exact if_neg ((hothers o ho).trans_ne (Ne.symm hname))
    rw [valuesUnder_cons_of_ne (Ne.symm hname)] at htakes
    rw [hnone, List.nil_append]
    exact htakes

theorem Lawful.read_default (h : s.Lawful depth) {m : Member σ} (hm : m ∈ s.members) {v : Json}
    (hv : m.shape.json.read v = .ok (m.get s.empty))
    (hread : s.json.read (.object (before ++ (m.name, v) :: after)) = .ok y) :
    s.json.read (.object (before ++ after)) = .ok y := by
  refine h.read_replaced hm [] (List.forall_mem_nil _) ?_ hread
  intro hy
  exact Except.ok.inj (hy.symm.trans hv)

theorem Lawful.read_field (h : s.Lawful depth) {m : Member σ} (hm : m ∈ s.members) {v w : Json}
    (hw : ∀ a, m.shape.json.read v = .ok a → m.shape.json.read w = .ok a)
    (hread : s.json.read (.object (before ++ (m.name, v) :: after)) = .ok y) :
    s.json.read (.object (before ++ (m.name, w) :: after)) = .ok y := by
  refine h.read_replaced hm [(m.name, w)] ?_ ?_ hread
  · exact List.forall_mem_singleton.mpr rfl
  · intro hv
    rw [valuesUnder_cons_self]
    exact ⟨List.not_mem_nil, hw _ hv⟩

end Schema

namespace Json.Codec

variable {α : Type} {c : Codec α} {v w : Json} {x : α}

/-! ## Edits within options, lists and maps -/

theorem read_present {item : Codec α} (hv : v.isNull = false) (hw : w.isNull = false)
    (h : ∀ a, item.read v = .ok a → item.read w = .ok a) {o : Option α}
    (hread : (optional item).read v = .ok o) : (optional item).read w = .ok o := by
  rw [optional_read item hv] at hread
  rw [optional_read item hw]
  obtain ⟨a, ha, rfl⟩ := map_eq_ok_iff.mp hread
  rw [h a ha]
  rfl

theorem read_item {item : Codec α} (h : ∀ a, item.read v = .ok a → item.read w = .ok a)
    {before after : List Json} {xs : List α}
    (hread : (list item).read (.array (before ++ v :: after)) = .ok xs) :
    (list item).read (.array (before ++ w :: after)) = .ok xs :=
  mapM_eq_ok_iff.mpr (map_eq_ok_of_replaced h (mapM_eq_ok_iff.mp hread))

theorem read_entry {κ ν : Type} [Ord κ] [Std.TransOrd κ] [Std.LawfulEqOrd κ] {key : KeyCodec κ}
    {value : Codec ν} (h : ∀ a, value.read v = .ok a → value.read w = .ok a) {name : String}
    {before after : List (String × Json)} {m : KeyMap κ ν}
    (hread : (map key value).read (.object (before ++ (name, v) :: after)) = .ok m) :
    (map key value).read (.object (before ++ (name, w) :: after)) = .ok m := by
  obtain ⟨es, hes, hm⟩ := map_read_object_iff.mp hread
  refine map_read_object_iff.mpr ⟨es, map_eq_ok_of_replaced (fun e he ↦ ?_) hes, hm⟩
  obtain ⟨hk, hx⟩ := readEntry_eq_ok_iff.mp he
  exact readEntry_eq_ok_iff.mpr ⟨hk, h e.2 hx⟩

/-! ## Names and numbers -/

theorem read_number {ε : Type} [Enumeration ε] {name : String} {e : ε}
    (h : Enumeration.ofName? name = some e) {x : Coded ε}
    (hread : Coded.jsonCodec.read (.string name) = .ok x) :
    Coded.jsonCodec.read (.integer (Enumeration.number e).toInt) = .ok x := by
  have hnumber : (signed.read (.integer (Enumeration.number e).toInt)).map Coded.mk =
      .ok (Coded.of e) := by
    have hsigned := signed_stable.read_write (Enumeration.number e)
    exact congrArg (Except.map Coded.mk) hsigned
  simp only [Coded.jsonCodec, h] at hread
  rw [← hread]
  exact hnumber

/-! ## Edits anywhere -/

/-- **An edit does not change what is read.** -/
theorem Edits.read_eq (h : c.Edits v w) (hread : c.read v = .ok x) : c.read w = .ok x := by
  induction h with
  | undeclared lawful hname before after v => exact lawful.read_undeclared hname v hread
  | omitted lawful hm hdefault before after => exact lawful.read_default hm hdefault hread
  | number hname => exact read_number hname hread
  | field lawful hm _ before after ih => exact lawful.read_field hm (fun _ ↦ ih) hread
  | present h ih => exact read_present h.not_null.1 h.not_null.2 (fun _ ↦ ih) hread
  | item _ before after ih => exact read_item (fun _ ↦ ih) hread
  | entry _ name before after ih => exact read_entry (fun _ ↦ ih) hread

theorem read_eq_of_edits (h : Relation.ReflTransGen c.Edits v w) (hread : c.read v = .ok x) :
    c.read w = .ok x := by
  induction h with
  | refl => exact hread
  | tail _ hstep ih => exact hstep.read_eq ih

end Json.Codec

end MeshSurvey
