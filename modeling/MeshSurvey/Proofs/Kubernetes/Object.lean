import MeshSurvey.Kubernetes.Object
import MeshSurvey.Proofs.Json.Codec

/-!
# Objects of the Kubernetes API are restored

An object is read field by field, beginning with the one in which every field is absent. So it is
restored if its fields lead there *in turn*: an absent field changes nothing, and the JSON that any
other field was written as is read into the next object. The fields of an object are listed in the
order of their names, and therefore in the order in which they are read.
-/

namespace MeshSurvey.Kubernetes

open Json.Codec (RestoresAt)

variable {σ α : Type}

/-- The member that a field is written as, unless it is absent. -/
def Field.member? (x : σ) (f : Field σ) : Option (String × Json) := (f.write x).map (f.name, ·)

theorem Field.member?_eq_none {f : Field σ} {x : σ} (h : f.write x = none) :
    member? x f = none := by
  rw [member?, h, Option.map_none]

theorem Field.member?_eq_some {f : Field σ} {x : σ} {v : Json} (h : f.write x = some v) :
    member? x f = some (f.name, v) := by
  rw [member?, h, Option.map_some]

theorem Field.fst_of_member? {f : Field σ} {x : σ} {m : String × Json}
    (h : member? x f = some m) : m.1 = f.name := by
  obtain ⟨v, _, rfl⟩ := Option.map_eq_some_iff.mp h
  rfl

/-- What the fields of `x` are written as takes `y` to another object when it is read. -/
inductive ReadInTurn (depth : Nat) (x : σ) : List (Field σ) → σ → σ → Prop where
  /-- There are no fields. -/
  | nil (y : σ) : ReadInTurn depth x [] y y
  /-- The first field is absent. -/
  | absent {f : Field σ} {fields : List (Field σ)} {y y' : σ} (hwrite : f.write x = none)
    (h : ReadInTurn depth x fields y y') : ReadInTurn depth x (f :: fields) y y'
  /-- The first field is written and read. -/
  | present {f : Field σ} {fields : List (Field σ)} {y y₁ y' : σ} {v : Json}
    (hwrite : f.write x = some v) (hfits : v.Fits depth) (hread : f.read v.arranged y = .ok y₁)
    (h : ReadInTurn depth x fields y₁ y') : ReadInTurn depth x (f :: fields) y y'

variable {depth : Nat} {x y y' : σ} {fields : List (Field σ)}

theorem readObject_cons {all : List (Field σ)} {name : String} {v : Json} {f : Field σ}
    {members : List (String × Json)} {y₁ : σ} (hfind : all.find? (·.name = name) = some f)
    (hread : f.read v y = .ok y₁) :
    readObject all y (.object ((name, v) :: members)) = readObject all y₁ (.object members) := by
  simp only [readObject, List.foldlM_cons, hfind, hread]
  rfl

namespace ReadInTurn

theorem constant (name value : String) (h : ReadInTurn depth x fields y y') :
    ReadInTurn depth x (constant name value :: fields) y y' :=
  .present rfl (Json.Codec.text_restores.fits value) (if_pos rfl) h

theorem required [Inhabited α] {name : String} {codec : Json.Codec α} {get : σ → α}
    {set : α → σ → σ} (hcodec : codec.RestoresAt depth (get x))
    (hnull : (codec.write (get x)).isNull = false)
    (h : ReadInTurn depth x fields (set (get x) y) y') :
    ReadInTurn depth x (required name codec get set :: fields) y y' := by
  refine .present rfl hcodec.fits ?_ h
  exact congrArg (Except.map fun a ↦ set (a.getD default) y) (hcodec.read_optional hnull)

/-- A field that may be absent, as it then is in `y`. -/
theorem optional {name : String} {codec : Json.Codec α} {get : σ → Option α}
    {set : Option α → σ → σ} (hcodec : ∀ a, get x = some a → codec.RestoresAt depth a)
    (hnull : ∀ a, (codec.write a).isNull = false) (habsent : set none y = y)
    (h : ReadInTurn depth x fields (set (get x) y) y') :
    ReadInTurn depth x (optional name codec get set :: fields) y y' := by
  cases hget : get x with
  | none =>
    rw [hget, habsent] at h
    exact .absent (congrArg (Option.map codec.write) hget) h
  | some a =>
    rw [hget] at h
    refine .present (congrArg (Option.map codec.write) hget) (hcodec a hget).fits ?_ h
    exact congrArg (Except.map (set · y)) ((hcodec a hget).read_optional (hnull a))

theorem fits (h : ReadInTurn depth x fields y y') :
    ∀ m ∈ fields.filterMap (Field.member? x), m.2.Fits depth := by
  induction h with
  | nil => exact List.forall_mem_nil _
  | absent hwrite _ ih =>
    rw [List.filterMap_cons_none (Field.member?_eq_none hwrite)]
    exact ih
  | present hwrite hfits _ _ ih =>
    rw [List.filterMap_cons_some (Field.member?_eq_some hwrite)]
    exact List.forall_mem_cons.mpr ⟨hfits, ih⟩

/-- Reading what some of the fields are written as goes through them in turn. -/
theorem readObject_members {all : List (Field σ)} (hall : all.Pairwise fun f g ↦ f.name ≠ g.name)
    (hfields : ∀ f ∈ fields, f ∈ all) (h : ReadInTurn depth x fields y y') :
    readObject all y (.object ((fields.filterMap (Field.member? x)).map
      fun m ↦ (m.1, m.2.arranged))) = .ok y' := by
  induction h with
  | nil => rfl
  | absent hwrite _ ih =>
    rw [List.filterMap_cons_none (Field.member?_eq_none hwrite)]
    exact ih (List.forall_mem_cons.mp hfields).2
  | present hwrite _ hread _ ih =>
    obtain ⟨hf, hfields⟩ := List.forall_mem_cons.mp hfields
    rw [List.filterMap_cons_some (Field.member?_eq_some hwrite), List.map_cons,
      readObject_cons (find?_key_eq_some hall hf) hread]
    exact ih hfields

end ReadInTurn

theorem arranged_writeObject (hnames : (fields.map (·.name)).Pairwise fun a b ↦ compare a b = .lt) :
    (writeObject fields x).arranged = .object ((fields.filterMap (Field.member? x)).map
      fun m ↦ (m.1, m.2.arranged)) := by
  refine Json.arranged_object_of_ascending (List.pairwise_map.mpr ?_)
  -- leaving fields out keeps the order of the names
  refine (List.pairwise_map.mp hnames).filterMap _ fun f g hfg m hm m' hm' ↦ ?_
  rw [Field.fst_of_member? hm, Field.fst_of_member? hm']
  exact hfg

/-- **An object whose fields lead to it in turn is restored.** -/
theorem objectCodec_restoresAt {empty : σ}
    (hnames : (fields.map (·.name)).Pairwise fun a b ↦ compare a b = .lt)
    (h : ReadInTurn depth x fields empty x) :
    (objectCodec empty fields).RestoresAt (depth + 1) x where
  fits := h.fits
  read_write := by
    have hdistinct := (List.pairwise_map.mp hnames).imp KeyMap.ne_of_compare_lt
    change readObject fields empty (writeObject fields x).arranged = .ok x
    rw [arranged_writeObject hnames]
    exact h.readObject_members hdistinct fun _ hf ↦ hf

end MeshSurvey.Kubernetes
