/-!
# JSON values

A number is an integer when it is written without a fraction and an exponent and fits a 64-bit word,
signed or unsigned; any other number is kept by the digits and the exponent it was written with. An
object keeps its members in a list.
-/

namespace MeshSurvey

/-- A JSON value. -/
inductive Json where
  /-- The value `null`. -/
  | null
  /-- A truth value. -/
  | bool (value : Bool)
  /-- A number that is a 64-bit integer. -/
  | integer (value : Int)
  /-- Any other number: `digits * 10 ^ exponent`. -/
  | real (digits exponent : Int)
  /-- A text. -/
  | string (value : String)
  /-- A list of values. -/
  | array (items : List Json)
  /-- A list of named values. -/
  | object (members : List (String × Json))
  deriving Inhabited, Repr, BEq

namespace Json

/-- The least integer that a value holds as an integer. -/
def minInteger : Int := Int64.minValue.toInt

/-- The greatest integer that a value holds as an integer. -/
def maxInteger : Int := Int.ofNat (UInt64.size - 1)

/-- The member of an object under a name. -/
def member? (v : Json) (name : String) : Option Json :=
  match v with
  | .object members => (members.find? (·.1 = name)).map (·.2)
  | _ => none

/-- The text that a value holds. -/
def string? : Json → Option String
  | .string s => some s
  | _ => none

theorem string?_eq_some_iff {v : Json} {text : String} :
    v.string? = some text ↔ v = .string text := by
  cases v <;> simp [string?]

/-- The items of an array. -/
def items? : Json → Option (List Json)
  | .array items => some items
  | _ => none

theorem items?_eq_some_iff {v : Json} {items : List Json} :
    v.items? = some items ↔ v = .array items := by
  cases v <;> simp [items?]

/-- Whether a value is `null`. -/
def isNull : Json → Bool
  | .null => true
  | _ => false

/-- A text, or `null` when there is none. -/
def ofString? : Option String → Json
  | some s => .string s
  | none => .null

end Json

end MeshSurvey
