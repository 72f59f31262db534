import MeshSurvey.Json.Reader
import MeshSurvey.KeyMap

/-!
# Structures as JSON

A structure is written as an object with all of its fields, in their order. It is read from an
object whose members may come in any order: members of other names are ignored, a missing field has
its default, and no field may come twice. It is also read from an array that holds its fields in
order, of which the last ones may be missing.
-/

namespace MeshSurvey

/-- Why a JSON value cannot be read as what it should be. -/
inductive Mismatch where
  /-- It has another form. -/
  | form
  /-- A text is no name of an enumeration's values. -/
  | unknownName (enumeration name : String)
  deriving DecidableEq, Repr

namespace Json

/-- How values are written and read. -/
structure Codec (α : Type) where
  /-- Writes a value. -/
  write : α → Json
  /-- Reads a value. -/
  read : Json → Except Mismatch α

/-- A field of a structure. -/
structure Field (σ : Type) where
  /-- The name of the field. -/
  name : String
  /-- Writes the field of a structure. -/
  write : σ → Json
  /-- Reads the field into a structure. -/
  read : Json → σ → Except Mismatch σ

namespace Field

variable {σ : Type}

/-- A structure as an object with all of its fields. -/
def writeAll (fields : List (Field σ)) (x : σ) : Json :=
  .object (fields.map fun f ↦ (f.name, f.write x))

/-- Reads members into a structure, given the names of the fields that have been read. -/
def readMembers (fields : List (Field σ)) : List String → List (String × Json) → σ →
    Except Mismatch σ
  | _, [], x => .ok x
  | seen, (name, v) :: members, x =>
    match fields.find? (·.name = name) with
    | none => readMembers fields seen members x
    | some f =>
      if name ∈ seen then .error .form
      else match f.read v x with
        | .ok x => readMembers fields (name :: seen) members x
        | .error e => .error e

/-- Reads items into the fields of a structure in order. There may be fewer items than fields, but
not more. -/
def readItems : List (Field σ) → List Json → σ → Except Mismatch σ
  | _, [], x => .ok x
  | [], _ :: _, _ => .error .form
  | f :: fields, v :: vs, x =>
    match f.read v x with
    | .ok x => readItems fields vs x
    | .error e => .error e

/-- Reads a structure over the one in which every field has its default. -/
def readAll (fields : List (Field σ)) (empty : σ) : Json → Except Mismatch σ
  | .object members => readMembers fields [] members empty
  | .array items => readItems fields items empty
  | _ => .error .form

end Field

namespace Codec

/-! ## Scalars and texts -/

/-- A text. -/
def text : Codec String where
  write := .string
  read
    | .string s => .ok s
    | _ => .error .form

/-- A truth value. -/
def flag : Codec Bool where
  write := .bool
  read
    | .bool b => .ok b
    | _ => .error .form

/-- An unsigned number of 32 bits. -/
def unsigned : Codec UInt32 where
  write n := .integer n.toNat
  read
    | .integer n => if 0 ≤ n ∧ n.toNat < UInt32.size then .ok (.ofNat n.toNat) else .error .form
    | _ => .error .form

/-- A signed number of 32 bits. -/
def signed : Codec Int32 where
  write n := .integer n.toInt
  read
    | .integer n =>
      if Int32.minValue.toInt ≤ n ∧ n ≤ Int32.maxValue.toInt then .ok (.ofInt n) else .error .form
    | _ => .error .form

/-! ## Options, lists and maps -/

/-- A value that may be absent, which `null` says. -/
def optional {α : Type} (item : Codec α) : Codec (Option α) where
  write
    | some x => item.write x
    | none => .null
  read
    | .null => .ok none
    | v => (item.read v).map some

/-- A list. -/
def list {α : Type} (item : Codec α) : Codec (List α) where
  write xs := .array (xs.map item.write)
  read
    | .array vs => vs.mapM item.read
    | _ => .error .form

/-- How the keys of a map are written and read as names. -/
structure KeyCodec (κ : Type) where
  /-- The name of a key. -/
  name : κ → String
  /-- The key with a name. -/
  read : String → Except Mismatch κ

/-- Keys that are texts. -/
def KeyCodec.text : KeyCodec String where
  name := id
  read := .ok

/-- Keys that are unsigned numbers of 32 bits, in decimal without leading zeros. -/
def KeyCodec.unsigned : KeyCodec UInt32 where
  name n := toString n.toNat
  read s :=
    match Reader.wholeFront s.toList with
    | some (digits, []) =>
      let n := Reader.digitsValue digits
      if n < UInt32.size then .ok (.ofNat n) else .error .form
    | _ => .error .form

/-- A map. -/
def map {κ ν : Type} [Ord κ] [Std.TransOrd κ] [Std.LawfulEqOrd κ] (key : KeyCodec κ)
    (value : Codec ν) : Codec (KeyMap κ ν) where
  write m := .object (m.entries.map fun e ↦ (key.name e.1, value.write e.2))
  read
    | .object members => do
      let entries ← members.mapM fun (name, v) ↦ do
        let k ← key.read name
        let x ← value.read v
        return (k, x)
      return .ofList entries
    | _ => .error .form

end Codec

end Json

end MeshSurvey
