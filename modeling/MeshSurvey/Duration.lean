/-!
# Spans of time

A span of time counts nanoseconds. It is written in the largest unit of which it holds at least one,
with the rest as an exact decimal fraction.
-/

namespace MeshSurvey

/-- A span of time. -/
structure Duration where
  /-- Its length in nanoseconds. -/
  nanoseconds : Nat
  deriving DecidableEq, Repr, Inhabited

namespace Duration

/-- A whole number of milliseconds. -/
def milliseconds (n : Nat) : Duration := ⟨n * 1000000⟩

/-- A whole number of seconds. -/
def seconds (n : Nat) : Duration := ⟨n * 1000000000⟩

/-- Whether nothing passes. -/
def isZero (d : Duration) : Bool := d.nanoseconds = 0

/-- Exactly `width` decimal digits of `n`, most significant first. -/
def paddedDigits : Nat → Nat → List Char
  | 0, _ => []
  | width + 1, n => paddedDigits width (n / 10) ++ [Nat.digitChar (n % 10)]

/-- Digits without the zeros that end them. -/
def trimZeros (digits : List Char) : List Char :=
  (digits.reverse.dropWhile (· = '0')).reverse

/-- `n` in units of `10 ^ places`: the whole part, then the fraction without trailing zeros. -/
def inUnits (places n : Nat) : String :=
  let fraction := trimZeros (paddedDigits places (n % Nat.pow 10 places))
  let whole := toString (n / Nat.pow 10 places)
  if fraction.isEmpty then whole else whole ++ "." ++ String.ofList fraction

/-- The text of a span, in the largest unit of which it holds at least one. -/
def text (d : Duration) : String :=
  let n := d.nanoseconds
  if Nat.pow 10 9 ≤ n then inUnits 9 n ++ "s"
  else if Nat.pow 10 6 ≤ n then inUnits 6 n ++ "ms"
  else if Nat.pow 10 3 ≤ n then inUnits 3 n ++ "µs"
  else inUnits 0 n ++ "ns"

end Duration

end MeshSurvey
