import MeshSurvey.Json.Codec

/-!
# Objects of the Kubernetes API

Such an object is written without its absent fields, and read from a JSON object alone. A field that
is `null` is absent, a missing required field has the default of its type, and members of other
names are ignored. A kind of object that names itself does so in `apiVersion` and `kind`; when these
are given they have to be right.
-/

namespace MeshSurvey.Kubernetes

/-- A field of an object. -/
structure Field (σ : Type) where
  /-- The name of the field. -/
  name : String
  /-- Writes the field unless it is absent. -/
  write : σ → Option Json
  /-- Reads the field into an object. -/
  read : Json → σ → Except Mismatch σ

/-- A field that may be absent. -/
def optional {σ α : Type} (name : String) (codec : Json.Codec α) (get : σ → Option α)
    (set : Option α → σ → σ) : Field σ where
  name
  write x := (get x).map codec.write
  read v x := ((Json.Codec.optional codec).read v).map (set · x)

/-- A field that is always written. -/
def required {σ α : Type} [Inhabited α] (name : String) (codec : Json.Codec α) (get : σ → α)
    (set : α → σ → σ) : Field σ where
  name
  write x := some (codec.write (get x))
  read v x := ((Json.Codec.optional codec).read v).map fun a ↦ set (a.getD default) x

/-- A field with a fixed text. -/
def constant {σ : Type} (name value : String) : Field σ where
  name
  write _ := some (.string value)
  read v x := if v.string? = some value then .ok x else .error .form

/-- Writes the fields that are present. -/
def writeObject {σ : Type} (fields : List (Field σ)) (x : σ) : Json :=
  .object (fields.filterMap fun f ↦ (f.write x).map (f.name, ·))

/-- Reads an object over the one in which every field is absent. -/
def readObject {σ : Type} (fields : List (Field σ)) (empty : σ) : Json → Except Mismatch σ
  | .object members =>
    members.foldlM (fun x (name, v) ↦
      match fields.find? (·.name = name) with
      | some f => f.read v x
      | none => .ok x) empty
  | _ => .error .form

/-- The JSON form of an object with the given fields. -/
def objectCodec {σ : Type} (empty : σ) (fields : List (Field σ)) : Json.Codec σ where
  write := writeObject fields
  read := readObject fields empty

/-- A signed number of 64 bits. -/
def integer64 : Json.Codec Int where
  write := .integer
  read
    | .integer n =>
      if Int64.minValue.toInt ≤ n ∧ n ≤ Int64.maxValue.toInt then .ok n else .error .form
    | _ => .error .form

/-- Any value, as it is. -/
def verbatim : Json.Codec Json where
  write v := v
  read := .ok

/-- A map from texts to texts. -/
def texts : Json.Codec (KeyMap String String) := .map .text .text

end MeshSurvey.Kubernetes
