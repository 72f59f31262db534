import MeshSurvey.Time.Clock

/-!
# Offsets from UTC

How far a clock is ahead of UTC is written as `Z`, which is not at all, or as a sign and a reading
of a clock. It is a whole number of seconds, to which a fraction is rounded, and less than 26 hours.
-/

namespace MeshSurvey.Offset

/-- The hours of the greatest offset. -/
def lastHour : Nat := 25

/-- The seconds of the greatest offset. -/
def lastSecond : Nat := lastHour * 3600 + 59 * 60 + 59

/-- The seconds of an offset to the east. -/
def seconds (clock : Clock) : Nat := clock.seconds + if clock.isHalfOver then 1 else 0

/-- What a sign does to an offset to the east. -/
def signed (sign : Char) (offset : Nat) : Option Int :=
  if sign = '+' then some offset else if sign = '-' then some (-offset) else none

/-- Reads an offset. -/
def front : List Char → Option (Int × List Char)
  | [] => none
  | sign :: cs =>
    if sign = 'Z' ∨ sign = 'z' then some (0, cs)
    else do
      let (clock, cs) ← Clock.front lastHour 59 cs
      let offset ← signed sign (seconds clock)
      if offset.natAbs ≤ lastSecond then return (offset, cs) else none

/-- Whether a text is the offset of a zone: a sign, hours and perhaps minutes. -/
def isZone : List Char → Bool
  | [] => false
  | sign :: cs =>
    match Clock.partFront lastHour cs with
    | none => false
    | some (_, cs) =>
      (sign = '+' || sign = '-') &&
        match Clock.nextPart (cs.head? = some ':') cs with
        | none => cs.isEmpty
        | some cs => (Clock.partFront 59 cs).any (·.2.isEmpty)

end MeshSurvey.Offset
