import MeshSurvey.Json.Value

/-!
# Writing JSON text

Values are written without blanks. In texts, quotes, backslashes and controls are escaped.
-/

namespace MeshSurvey.Json.Writer

/-- The form of one character in a text. -/
def escapeChar (c : Char) : List Char :=
  if c = '"' then ['\\', '"']
  else if c = '\\' then ['\\', '\\']
  else if c = '\n' then ['\\', 'n']
  else if c = '\r' then ['\\', 'r']
  else if c = '\t' then ['\\', 't']
  else if c = '\x08' then ['\\', 'b']
  else if c = '\x0c' then ['\\', 'f']
  else if c.toNat < 0x20 then
    ['\\', 'u', '0', '0', Nat.digitChar (c.toNat / 16), Nat.digitChar (c.toNat % 16)]
  else [c]

/-- A text between quotes. -/
def text (s : String) : String :=
  "\"" ++ String.ofList (s.toList.flatMap escapeChar) ++ "\""

mutual

/-- A value without blanks. -/
def value : Json → String
  | .null => "null"
  | .bool b => if b then "true" else "false"
  | .integer n => toString n
  | .real digits exponent => toString digits ++ "e" ++ toString exponent
  | .string s => text s
  | .array items => "[" ++ values items ++ "]"
  | .object ms => "\x7b" ++ members ms ++ "\x7d"

/-- Values with commas between them. -/
def values : List Json → String
  | [] => ""
  | [v] => value v
  | v :: w :: vs => value v ++ "," ++ values (w :: vs)

/-- Members with commas between them. -/
def members : List (String × Json) → String
  | [] => ""
  | [(name, v)] => text name ++ ":" ++ value v
  | (name, v) :: m :: ms => text name ++ ":" ++ value v ++ "," ++ members (m :: ms)

end

end Writer

/-- The text of a value, without blanks. -/
def text (v : Json) : String := Writer.value v

end MeshSurvey.Json
