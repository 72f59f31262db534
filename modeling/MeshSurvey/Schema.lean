import MeshSurvey.Json.Codec
import MeshSurvey.Wire.Message

/-!
# Schemas

A configuration reaches the library in two forms, as a binary message and as JSON. A schema states
once, field by field, how a structure is laid out in both: the number and the name of a field, and
how its value is carried on either side.
-/

namespace MeshSurvey

/-- How the values of a field are carried in both forms. -/
structure Shape (α : Type) where
  /-- The binary form. -/
  wire : Wire.Codec α
  /-- The JSON form. -/
  json : Json.Codec α

/-- A field of a structure in both forms. -/
structure Member (σ : Type) where
  /-- The type of the value. -/
  Value : Type
  /-- The number of the field in a binary message. -/
  number : Nat
  /-- The name of the field in JSON. -/
  name : String
  /-- The value in a structure. -/
  get : σ → Value
  /-- Puts a value into a structure. -/
  set : Value → σ → σ
  /-- How the value is carried. -/
  shape : Shape Value

/-- A field with a given number, name and shape. -/
def member {σ α : Type} (number : Nat) (name : String) (shape : Shape α) (get : σ → α)
    (set : α → σ → σ) : Member σ :=
  ⟨α, number, name, get, set, shape⟩

namespace Member

variable {σ : Type}

/-- The field of the binary message. -/
def wire (m : Member σ) : Wire.Field σ := ⟨m.Value, m.number, m.get, m.set, m.shape.wire⟩

/-- The field of the JSON object. -/
def json (m : Member σ) : Json.Field σ where
  name := m.name
  write x := m.shape.json.write (m.get x)
  read v x := (m.shape.json.read v).map (m.set · x)

end Member

/-- A structure in both forms. -/
structure Schema (σ : Type) where
  /-- The structure in which every field has its default. -/
  empty : σ
  /-- The fields, in ascending order of their numbers. -/
  members : List (Member σ)

namespace Schema

variable {σ : Type}

/-- The binary form. -/
def wire (s : Schema σ) : Wire.Message σ := ⟨s.empty, s.members.map (·.wire)⟩

/-- The JSON form. -/
def json (s : Schema σ) : Json.Codec σ where
  write := Json.Field.writeAll (s.members.map (·.json))
  read := Json.Field.readAll (s.members.map (·.json)) s.empty

end Schema

namespace Shape

/-- A text. -/
def text : Shape String := ⟨.text, .text⟩

/-- A truth value. -/
def flag : Shape Bool := ⟨.flag, .flag⟩

/-- An unsigned number of 32 bits. -/
def unsigned : Shape UInt32 := ⟨.unsigned, .unsigned⟩

/-- A signed number of 32 bits. -/
def signed : Shape Int32 := ⟨.signed, .signed⟩

/-- A list of texts. -/
def texts : Shape (List String) := ⟨.texts, .list .text⟩

/-- A structure that may be absent. -/
def optional {μ : Type} (s : Schema μ) : Shape (Option μ) := ⟨.optional s.wire, .optional s.json⟩

/-- A list of structures. -/
def list {μ : Type} (s : Schema μ) : Shape (List μ) := ⟨.messages s.wire, .list s.json⟩

/-- A map from texts to texts. -/
def labels : Shape (KeyMap String String) := ⟨.map .text .text, .map .text .text⟩

/-- A map from unsigned numbers to structures. -/
def numbered {μ : Type} (s : Schema μ) : Shape (KeyMap UInt32 μ) :=
  ⟨.map .unsigned (.plain s.wire), .map .unsigned s.json⟩

end Shape

end MeshSurvey
