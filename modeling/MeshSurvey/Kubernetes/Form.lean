import MeshSurvey.Kubernetes.Object
import MeshSurvey.Time.Timestamp

/-!
# Forms of values

Much of what the Kubernetes API says about an object is of no use to the library. Such a field is
not kept, but an object in which it has the wrong form is still refused.
-/

namespace MeshSurvey.Kubernetes

/-- A form of JSON values, as the test for it. -/
abbrev Form := Json → Bool

namespace Form

/-- The form of whatever can be read. -/
def ofCodec {α : Type} (codec : Json.Codec α) : Form := fun v ↦ (codec.read v).isOk

/-- A text. -/
def text : Form := ofCodec .text

/-- A truth value. -/
def flag : Form := ofCodec .flag

/-- A signed number of 32 bits. -/
def signed : Form := ofCodec .signed

/-- A signed number of 64 bits. -/
def wide : Form := ofCodec integer64

/-- A time. -/
def time : Form := ofCodec Timestamp.codec

/-- A signed number of 32 bits, or a name that stands for one. -/
def numberOrName : Form := fun v ↦ signed v || text v

/-- An amount of a resource: a text, such as `500m`, or a number. -/
def quantity : Form
  | .string _ | .integer _ | .real .. => true
  | _ => false

/-- A list. -/
def list (item : Form) : Form
  | .array vs => vs.all item
  | _ => false

/-- A map from texts. -/
def map (value : Form) : Form
  | .object members => members.all fun (_, v) ↦ value v
  | _ => false

/-- A form, or absence. -/
def absentOr (form : Form) : Form := fun v ↦ v.isNull || form v

/-- An object in which the fields of the given names have the given forms, or are absent. -/
def object (fields : List (String × Form)) : Form
  | .object members => members.all fun (name, v) ↦
    match fields.lookup name with
    | some form => absentOr form v
    | none => true
  | _ => false

end Form

/-- A field that has to have a form and is not kept. -/
def checked {σ : Type} (field : String × Form) : Field σ where
  name := field.1
  write _ := none
  read v x := if Form.absentOr field.2 v then .ok x else .error .form

end MeshSurvey.Kubernetes
