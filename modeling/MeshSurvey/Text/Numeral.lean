/-!
# Numerals

Reading of unsigned numerals in a given base and below a given bound. A numeral is a non-empty list
of digits, possibly after a plus sign; leading zeros are allowed.
-/

namespace MeshSurvey.Text

/-- The value of a digit, letters of either case standing for ten and more. -/
def digitValue (c : Char) : Option Nat :=
  if '0' ≤ c ∧ c ≤ '9' then some (c.toNat - '0'.toNat)
  else if 'a' ≤ c ∧ c ≤ 'z' then some (c.toNat - 'a'.toNat + 10)
  else if 'A' ≤ c ∧ c ≤ 'Z' then some (c.toNat - 'A'.toNat + 10)
  else none

/-- The value of a character as a digit of the base. -/
def digitIn (base : Nat) (c : Char) : Option Nat :=
  (digitValue c).filter (· < base)

/-- Reads digits after a value that was already read; the empty list leaves it as it is. -/
def continueNumeral (base : Nat) (acc : Nat) : List Char → Option Nat
  | [] => some acc
  | c :: cs =>
    match digitIn base c with
    | some d => continueNumeral base (acc * base + d) cs
    | none => none

/-- The value of a non-empty list of digits. -/
def readDigits (base : Nat) : List Char → Option Nat
  | [] => none
  | cs => continueNumeral base 0 cs

/-- The value of a numeral below `bound`: digits, possibly after a plus sign. -/
def readBelow (base bound : Nat) (cs : List Char) : Option Nat :=
  let digits := match cs with
    | '+' :: rest => rest
    | _ => cs
  (readDigits base digits).filter (· < bound)

end MeshSurvey.Text
