import MeshSurvey.Text.Numeral

/-!
# Hours, minutes and seconds

A reading of a clock is written as two digits for the hour, two for the minute and two for the
second, of which the seconds, or the minutes and the seconds, may be left out. Either every two
parts have a colon between them or none have. Seconds may have a decimal fraction of up to nine
digits after a point or a comma.
-/

namespace MeshSurvey

/-- A reading of a clock. -/
structure Clock where
  hour : Nat
  minute : Nat := 0
  second : Nat := 0
  /-- The digits of the fraction of a second. -/
  fraction : List Char := []
  deriving DecidableEq, Repr

namespace Clock

/-- The whole seconds of a reading. -/
def seconds (c : Clock) : Nat := c.hour * 3600 + c.minute * 60 + c.second

/-- Whether the fraction of a second is a half or more. -/
def isHalfOver (c : Clock) : Bool := c.fraction.head?.any ('5' ≤ ·)

/-! ## Reading -/

/-- Reads the number that the first `count` characters of a text are as digits. -/
def digitsFront (count : Nat) (cs : List Char) : Option (Nat × List Char) :=
  let digits := cs.take count
  if digits.length = count then (Text.readDigits 10 digits).map (·, cs.drop count) else none

/-- Reads a part: two digits, and no more than a bound. -/
def partFront (bound : Nat) (cs : List Char) : Option (Nat × List Char) :=
  (digitsFront 2 cs).filter (·.1 ≤ bound)

/-- Where the next part begins, if there is one: behind a colon when the parts have colons between
them, and else at two digits. -/
def nextPart (colons : Bool) (cs : List Char) : Option (List Char) :=
  match colons, cs with
  | true, ':' :: rest => some rest
  | true, _ => none
  | false, a :: b :: _ => if a.isDigit && b.isDigit then some cs else none
  | false, _ => none

/-- Reads the digits of a fraction, if one comes next. -/
def fractionFront : List Char → Option (List Char × List Char)
  | [] => some ([], [])
  | c :: cs =>
    if c = '.' ∨ c = ',' then
      let digits := (cs.take 9).takeWhile Char.isDigit
      if digits.isEmpty then none else some (digits, cs.drop digits.length)
    else some ([], c :: cs)

/-- Reads a clock whose hours and seconds have the given bounds. -/
def front (lastHour lastSecond : Nat) (cs : List Char) : Option (Clock × List Char) := do
  let (hour, cs) ← partFront lastHour cs
  let colons := cs.head? = some ':'
  match nextPart colons cs with
  | none => return ({ hour }, cs)
  | some cs =>
    let (minute, cs) ← partFront 59 cs
    match nextPart colons cs with
    | none => return ({ hour, minute }, cs)
    | some cs =>
      let (second, cs) ← partFront lastSecond cs
      let (fraction, cs) ← fractionFront cs
      return ({ hour, minute, second, fraction }, cs)

end Clock

end MeshSurvey
