import MeshSurvey.Schema

/-!
# Enumerations with open numbers

A field of an enumeration holds a number. Numbers without a name are kept, so that a newer peer's
values survive, but they read as the enumeration's first value. In JSON a number that has a name is
written as that name, and a value is read from a name or from a number.
-/

namespace MeshSurvey

/-- A type of named values with numbers. -/
class Enumeration (ε : Type) where
  /-- The name of the enumeration. -/
  title : String
  /-- The values, of which the first is the default. -/
  values : List ε
  /-- The default value. -/
  first : ε
  /-- The name of a value. -/
  name : ε → String
  /-- The number of a value. -/
  number : ε → Int32

namespace Enumeration

variable {ε : Type} [Enumeration ε]

/-- The value with a name. -/
def ofName? (s : String) : Option ε := (values (ε := ε)).find? (name · = s)

/-- The value with a number. -/
def ofNumber? (n : Int32) : Option ε := (values (ε := ε)).find? (number · = n)

end Enumeration

/-- A number in a field of the enumeration `ε`. -/
structure Coded (ε : Type) where
  number : Int32
  deriving DecidableEq, Repr, Inhabited

namespace Coded

variable {ε : Type} [Enumeration ε]

/-- The number of a value. -/
def of (v : ε) : Coded ε := ⟨Enumeration.number v⟩

/-- The value with the number, or the first value if the number has no name. -/
def value (c : Coded ε) : ε := (Enumeration.ofNumber? c.number).getD Enumeration.first

/-- How the number is carried in JSON. -/
def jsonCodec : Json.Codec (Coded ε) where
  write c :=
    match Enumeration.ofNumber? (ε := ε) c.number with
    | some v => .string (Enumeration.name v)
    | none => .integer c.number.toInt
  read
    | .string s =>
      match Enumeration.ofName? (ε := ε) s with
      | some v => .ok (of v)
      | none => .error (.unknownName (Enumeration.title ε) s)
    | v => (Json.Codec.signed.read v).map Coded.mk

/-- How the number is carried in binary messages. -/
def wireCodec : Wire.Codec (Coded ε) where
  default := ⟨0⟩
  write c := Wire.Codec.signed.write c.number
  merge depth c p := (Wire.Codec.signed.merge depth c.number p).map Coded.mk

/-- A field of the enumeration. -/
def shape : Shape (Coded ε) := ⟨wireCodec, jsonCodec⟩

end Coded

end MeshSurvey
