import MeshSurvey.Proofs.Json.Codec
import MeshSurvey.Schema

/-!
# Schemas restore their structures in both forms

A schema states the fields of a structure once, and so the laws of the fields are stated once. From
them follows that a structure survives its binary form and its JSON form, however deep the
structures within it. Both readers start from the empty structure and put in one field after
another: the binary one in the order of the numbers, the JSON one in the order of the names.

What the JSON reader makes of an object comes to a condition on each field by itself: without a
member of its name the field has its default, one member of its name gives it its value, and two are
an error. Members of other names have no part in it, and neither has the order of the members.
-/

namespace MeshSurvey

variable {σ α : Type}

/-- The shape restores values in both forms, if structures within them nest fewer than `depth`
deep. -/
structure Shape.Restores (s : Shape α) (depth : Nat) : Prop where
  /-- The binary form is restored. -/
  wire : s.wire.Restores depth
  /-- The JSON form is restored. -/
  json : s.json.Restores depth

/-- Putting a value into one of two fields does not change the other, and both their numbers and
their names are different. -/
structure Member.Apart (m m' : Member σ) : Prop where
  /-- The numbers are different. -/
  number_ne : m.number ≠ m'.number
  /-- The names are different. -/
  name_ne : m.name ≠ m'.name
  /-- The second field keeps its value. -/
  get_set : ∀ v x, m'.get (m.set v x) = m'.get x
  /-- The first field keeps its value. -/
  get_set' : ∀ v x, m.get (m'.set v x) = m.get x

theorem Member.Apart.symm {m m' : Member σ} (h : m.Apart m') : m'.Apart m :=
  ⟨h.number_ne.symm, h.name_ne.symm, h.get_set', h.get_set⟩

/-- A field may have its number, holds what was put into it, has its default in the empty
structure, and is restored in both forms. -/
structure Member.Sound (m : Member σ) (empty : σ) (depth : Nat) : Prop where
  /-- The number is such as a field may have. -/
  isField : Wire.Key.IsField m.number
  /-- A value that was put into the field is there. -/
  get_set : ∀ v x, m.get (m.set v x) = v
  /-- The field of the empty structure has its default. -/
  get_empty : m.get empty = m.shape.wire.default
  /-- The values are restored. -/
  restores : m.shape.Restores depth

/-- The schema has sound fields apart from each other, and nothing besides. -/
structure Schema.Lawful (s : Schema σ) (depth : Nat) : Prop where
  /-- Reading a structure at all takes one level. -/
  depth_pos : 1 ≤ depth
  /-- Fields are sound. -/
  sound : ∀ m ∈ s.members, m.Sound s.empty depth
  /-- Fields are apart from each other. -/
  apart : s.members.Pairwise Member.Apart
  /-- There is nothing in a structure besides its fields. -/
  ext : ∀ x y, (∀ m ∈ s.members, m.get x = m.get y) → x = y

namespace Member

variable {number number' : Nat} {name name' : String} {β : Type}

@[simp] theorem get_member_eq_iff {shape : Shape α} {get : σ → α} {set : α → σ → σ} {x y : σ} :
    (member number name shape get set).get x = (member number name shape get set).get y ↔
      get x = get y := .rfl

@[simp] theorem apart_member_iff {shape : Shape α} {shape' : Shape β} {get : σ → α}
    {set : α → σ → σ} {get' : σ → β} {set' : β → σ → σ} :
    (member number name shape get set).Apart (member number' name' shape' get' set') ↔
      number ≠ number' ∧ name ≠ name' ∧ (∀ v x, get' (set v x) = get' x) ∧
        ∀ v x, get (set' v x) = get x :=
  ⟨fun h ↦ ⟨h.number_ne, h.name_ne, h.get_set, h.get_set'⟩,
    fun h ↦ ⟨h.1, h.2.1, h.2.2.1, h.2.2.2⟩⟩

@[simp] theorem sound_member_iff {shape : Shape α} {get : σ → α} {set : α → σ → σ} {empty : σ}
    {depth : Nat} : (member number name shape get set).Sound empty depth ↔
      Wire.Key.IsField number ∧ (∀ v x, get (set v x) = v) ∧ get empty = shape.wire.default ∧
        shape.Restores depth :=
  ⟨fun h ↦ ⟨h.isField, h.get_set, h.get_empty, h.restores⟩,
    fun h ↦ ⟨h.1, h.2.1, h.2.2.1, h.2.2.2⟩⟩

end Member

theorem Member.json_read_ok {m : Member σ} {v : Json} {a : m.Value}
    (h : m.shape.json.read v = .ok a) (x : σ) : m.json.read v x = .ok (m.set a x) :=
  congrArg (Except.map (m.set · x)) h

theorem Member.json_read_error {m : Member σ} {v : Json} {e : Mismatch}
    (h : m.shape.json.read v = .error e) (x : σ) : m.json.read v x = .error e :=
  congrArg (Except.map (m.set · x)) h

/-- What the members of a field's name say about its value in `y`, when it has a value in `x`
beforehand, and when the names `seen` may not come again. -/
def Member.Takes (m : Member σ) (seen : List String) (x y : σ) : List Json → Prop
  | [] => m.get y = m.get x
  | [v] => m.name ∉ seen ∧ m.shape.json.read v = .ok (m.get y)
  | _ :: _ :: _ => False

theorem Member.Takes.of_cons {m : Member σ} {seen : List String} {x y : σ} {v : Json}
    {vs : List Json} (h : m.Takes seen x y (v :: vs)) :
    m.name ∉ seen ∧ m.shape.json.read v = .ok (m.get y) := by
  cases vs with
  | nil => exact h
  | cons w vs => exact h.elim

namespace Schema

variable {s : Schema σ} {depth : Nat}

/-! ## The binary form -/

theorem Lawful.wire (h : s.Lawful depth) : s.wire.Lawful depth where
  depth_pos := h.depth_pos
  sound := List.forall_mem_map.mpr fun m hm ↦
    ⟨(h.sound m hm).isField, (h.sound m hm).get_set, (h.sound m hm).get_empty,
      (h.sound m hm).restores.wire⟩
  apart := List.pairwise_map.mpr
    (h.apart.imp fun hapart ↦ ⟨hapart.number_ne, hapart.get_set, hapart.get_set'⟩)
  ext x y hxy := h.ext x y (List.forall_mem_map.mp hxy)

/-! ## The JSON form -/

theorem Lawful.find?_name (h : s.Lawful depth) {m : Member σ} (hm : m ∈ s.members) :
    (s.members.map (·.json)).find? (·.name = m.name) = some m.json := by
  have hdistinct : (s.members.map (·.json)).Pairwise fun f f' ↦ f.name ≠ f'.name :=
    List.pairwise_map.mpr (h.apart.imp Member.Apart.name_ne)
  exact find?_key_eq_some hdistinct (List.mem_map.mpr ⟨m, hm, rfl⟩)

theorem Lawful.get_set_of_ne (h : s.Lawful depth) {m m' : Member σ} (hm : m ∈ s.members)
    (hm' : m' ∈ s.members) (hne : m'.name ≠ m.name) (v : m.Value) (x : σ) :
    m'.get (m.set v x) = m'.get x := by
  have hapart : m'.Apart m := rel_of_pairwise (fun _ _ ↦ Member.Apart.symm) h.apart hm' hm hne
  exact hapart.get_set' v x

theorem find?_eq_none_of_forall {name : String} (h : ∀ m ∈ s.members, m.name ≠ name) :
    (s.members.map (·.json)).find? (·.name = name) = none := by
  refine List.find?_eq_none.mpr (List.forall_mem_map.mpr fun m hm ↦ ?_)
  rw [decide_eq_true_eq]
  exact h m hm

theorem Lawful.eq_of_name (h : s.Lawful depth) {m m' : Member σ} (hm : m ∈ s.members)
    (hm' : m' ∈ s.members) (hname : m'.name = m.name) : m' = m := by
  have hdistinct := h.apart.imp Member.Apart.name_ne
  have hfind := find?_key_eq_some hdistinct hm'
  rw [hname, find?_key_eq_some hdistinct hm] at hfind
  exact (Option.some.inj hfind).symm

theorem Lawful.takes_cons_iff (h : s.Lawful depth) {m m' : Member σ} (hm : m ∈ s.members)
    (hm' : m' ∈ s.members) {seen : List String} (hnew : m.name ∉ seen) {v : Json} {a : m.Value}
    (hread : m.shape.json.read v = .ok a) {x y : σ} (members : List (String × Json)) :
    m'.Takes (m.name :: seen) (m.set a x) y (valuesUnder m'.name members) ↔
      m'.Takes seen x y (valuesUnder m'.name ((m.name, v) :: members)) := by
  by_cases hname : m'.name = m.name
  · obtain rfl := h.eq_of_name hm hm' hname
    rw [valuesUnder_cons_self]
    -- a second member of the name is refused by both sides
    match valuesUnder m'.name members with
    | [] =>
      simp only [Member.Takes, hnew, not_false_eq_true, true_and, (h.sound m' hm).get_set, hread,
        Except.ok.injEq]
      exact eq_comm
    | [w] => simp only [Member.Takes, List.mem_cons, true_or, not_true_eq_false, false_and]
    | _ :: _ :: _ => exact .rfl
  · have hkept : m'.get (m.set a x) = m'.get x := h.get_set_of_ne hm hm' hname a x
    rw [valuesUnder_cons_of_ne (Ne.symm hname)]
    match valuesUnder m'.name members with
    | [] => rw [Member.Takes, Member.Takes, hkept]
    | [w] => simp only [Member.Takes, List.mem_cons, hname, false_or]
    | _ :: _ :: _ => exact .rfl

/-- What readers make of a run of members is a condition on each field by itself. -/
theorem Lawful.readMembers_eq_ok_iff (h : s.Lawful depth) {members : List (String × Json)}
    {seen : List String} {x y : σ} :
    Json.Field.readMembers (s.members.map (·.json)) seen members x = .ok y ↔
      ∀ m ∈ s.members, m.Takes seen x y (valuesUnder m.name members) := by
  -- by induction on the members that are left, with whatever has been read so far in `x`
  induction members generalizing seen x with
  | nil =>
    rw [Json.Field.readMembers]
    constructor
    · intro heq m _
      rw [Except.ok.inj heq]
      exact rfl
    · intro htakes
      exact congrArg Except.ok (h.ext x y fun m hm ↦ (htakes m hm).symm)
  | cons member members ih =>
    obtain ⟨name, v⟩ := member
    by_cases hdeclared : ∃ m ∈ s.members, m.name = name
    · obtain ⟨m, hm, rfl⟩ := hdeclared
      rw [Json.Field.readMembers, h.find?_name hm]
      by_cases hnew : m.name ∈ seen
      · -- neither the reader nor the field takes a name for a second time
        simp only [if_pos hnew]
        constructor
        · intro hread
          cases hread
        · intro htakes
          have hm := htakes m hm
          rw [valuesUnder_cons_self] at hm
          exact absurd hnew hm.of_cons.1
      · simp only [if_neg hnew]
        cases hread : m.shape.json.read v with
        | error e =>
          rw [Member.json_read_error hread x]
          constructor
          · intro hread
            cases hread
          · intro htakes
            have hm := htakes m hm
            rw [valuesUnder_cons_self] at hm
            cases hread.symm.trans hm.of_cons.2
        | ok a =>
          rw [Member.json_read_ok hread x]
          exact ih.trans (forall₂_congr fun m' hm' ↦ h.takes_cons_iff hm hm' hnew hread members)
    · have hnone : ∀ m ∈ s.members, m.name ≠ name := by
        intro m hm hname
        exact hdeclared ⟨m, hm, hname⟩
      rw [Json.Field.readMembers, find?_eq_none_of_forall hnone]
      refine ih.trans (forall₂_congr fun m hm ↦ ?_)
      rw [valuesUnder_cons_of_ne (hnone m hm).symm]

/-- **An object is read field by field.** The structure that is read has the default in each field
of which there is no member, and what is read from the member where there is one; it is not read if
there are several. -/
theorem Lawful.read_object_iff (h : s.Lawful depth) {members : List (String × Json)} {y : σ} :
    s.json.read (.object members) = .ok y ↔
      ∀ m ∈ s.members, m.Takes [] s.empty y (valuesUnder m.name members) :=
  h.readMembers_eq_ok_iff

theorem json_write (s : Schema σ) (x : σ) :
    s.json.write x = .object (s.members.map fun m ↦ (m.name, m.json.write x)) := by
  change Json.object ((s.members.map _).map _) = _
  rw [List.map_map]
  rfl

theorem Lawful.json (h : s.Lawful depth) : s.json.Restores (depth + 1) where
  fits x := by
    intro v hv
    obtain ⟨f, hf, rfl⟩ := List.mem_map.mp hv
    obtain ⟨m, hm, rfl⟩ := List.mem_map.mp hf
    exact (h.sound m hm).restores.json.fits (m.get x)
  read_write x := by
    rw [json_write, Json.arranged_object, h.read_object_iff]
    intro m hm
    rw [Json.valuesUnder_arranged,
      valuesUnder_map_of_distinct (·.json.write x) (h.apart.imp Member.Apart.name_ne) hm]
    exact ⟨List.not_mem_nil, (h.sound m hm).restores.json.read_write (m.get x)⟩

theorem isNull_json_write (s : Schema σ) (x : σ) : (s.json.write x).isNull = false := rfl

end Schema

/-! ## Shapes -/

namespace Shape

variable {depth d : Nat}

@[simp] theorem default_text : text.wire.default = "" := rfl

@[simp] theorem default_flag : flag.wire.default = false := rfl

@[simp] theorem default_unsigned : unsigned.wire.default = 0 := rfl

@[simp] theorem default_signed : signed.wire.default = 0 := rfl

@[simp] theorem default_texts : texts.wire.default = [] := rfl

@[simp] theorem default_optional (s : Schema σ) : (optional s).wire.default = none := rfl

@[simp] theorem default_list (s : Schema σ) : (list s).wire.default = [] := rfl

@[simp] theorem default_labels : labels.wire.default = ∅ := rfl

@[simp] theorem default_numbered (s : Schema σ) : (numbered s).wire.default = ∅ := rfl

@[simp] theorem text_restores : text.Restores depth :=
  ⟨Wire.Codec.text_restores, Json.Codec.text_restores⟩

@[simp] theorem flag_restores : flag.Restores depth :=
  ⟨Wire.Codec.flag_restores, Json.Codec.flag_restores⟩

@[simp] theorem unsigned_restores : unsigned.Restores depth :=
  ⟨Wire.Codec.unsigned_restores, Json.Codec.unsigned_restores⟩

@[simp] theorem signed_restores : signed.Restores depth :=
  ⟨Wire.Codec.signed_restores, Json.Codec.signed_restores⟩

@[simp] theorem texts_restores (hd : 1 ≤ d) : texts.Restores d where
  wire := Wire.Codec.texts_restores
  json := (Json.Codec.list_restores Json.Codec.text_restores).mono hd

theorem optional_restores {s : Schema σ} (h : s.Lawful depth) (hd : depth + 1 ≤ d) :
    (optional s).Restores d where
  wire := (Wire.Codec.optional_restores h.wire.restores_message).mono hd
  json := (Json.Codec.optional_restores h.json s.isNull_json_write).mono hd

theorem list_restores {s : Schema σ} (h : s.Lawful depth) (hd : depth + 2 ≤ d) :
    (list s).Restores d where
  wire := (Wire.Codec.messages_restores h.wire.restores_message).mono (Nat.le_of_succ_le hd)
  json := (Json.Codec.list_restores h.json).mono hd

@[simp] theorem labels_restores (hd : 2 ≤ d) : labels.Restores d where
  wire := (Wire.Codec.map_restores Wire.Codec.text_restores Wire.Codec.text_restores
    (Nat.le_refl 1)).mono hd
  json := (Json.Codec.map_restores Json.Codec.KeyCodec.text_restores
    Json.Codec.text_restores).mono (Nat.le_of_succ_le hd)

theorem numbered_restores {s : Schema σ} (h : s.Lawful depth) (hd : depth + 2 ≤ d) :
    (numbered s).Restores d where
  wire := (Wire.Codec.map_restores Wire.Codec.unsigned_restores
    (Wire.Codec.plain_restores h.wire.restores_message) (Nat.le_add_left 1 depth)).mono hd
  json := (Json.Codec.map_restores Json.Codec.KeyCodec.unsigned_restores h.json).mono hd

end Shape

end MeshSurvey
