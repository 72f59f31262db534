import MeshSurvey.Json.Codec
import MeshSurvey.Time.Calendar
import MeshSurvey.Time.SuffixTag

/-!
# Times

A time is written as a date, a `T` and a reading of a clock with its offset from UTC, and perhaps
with tags. The parts of the date have hyphens between them, or none have. A year has four digits, or
a sign and six digits. A time is kept as a whole number of seconds and written back in UTC; a
fraction of a second is dropped, and a leap second is the second before it.

A time has to lie so far from the ends of the years -9999 and 9999 that it is within them at every
offset.
-/

namespace MeshSurvey

/-- A time, in seconds since the beginning of 1970 in UTC. -/
structure Timestamp where
  /-- The seconds. -/
  seconds : Int
  deriving DecidableEq, Repr, Inhabited

namespace Timestamp

/-! ## Range -/

/-- The earliest time: the beginning of the year -9999 at the westernmost offset. -/
def earliest : Timestamp := ⟨Calendar.daysOfDate (-9999) 1 1 * 86400 + Offset.lastSecond⟩

/-- The latest time: the end of the year 9999 at the easternmost offset. -/
def latest : Timestamp := ⟨Calendar.daysOfDate 10000 1 1 * 86400 - 1 - Offset.lastSecond⟩

/-! ## Reading -/

/-- Reads a year from -9999 to 9999. There is no negative zero. -/
def yearFront : List Char → Option (Int × List Char)
  | '+' :: cs => do
    let (year, cs) ← Clock.digitsFront 6 cs
    if year ≤ 9999 then return (year, cs) else none
  | '-' :: cs => do
    let (year, cs) ← Clock.digitsFront 6 cs
    if 1 ≤ year ∧ year ≤ 9999 then return (-year, cs) else none
  | cs => (Clock.digitsFront 4 cs).map fun (year, cs) ↦ (year, cs)

/-- Drops the hyphen between two parts of a date, when there are hyphens. -/
def nextPart (hyphens : Bool) (cs : List Char) : Option (List Char) :=
  match hyphens, cs with
  | true, '-' :: rest => some rest
  | true, _ => none
  | false, _ => some cs

/-- Reads a date, as the number of days from the beginning of 1970 to it. -/
def dateFront (cs : List Char) : Option (Int × List Char) := do
  let (year, cs) ← yearFront cs
  let hyphens := cs.head? = some '-'
  let (month, cs) ← Clock.partFront 12 (← nextPart hyphens cs)
  let (day, cs) ← Clock.partFront (Calendar.daysInMonth year month) (← nextPart hyphens cs)
  if 1 ≤ month ∧ 1 ≤ day then return (Calendar.daysOfDate year month day, cs) else none

/-- Whether a character separates the date from the time of day. -/
def isDateEnd (c : Char) : Bool := c = 'T' || c = 't' || c = ' '

/-- Reads a whole text as a time. -/
def read (text : String) : Option Timestamp := do
  let (days, cs) ← dateFront text.toList
  if !cs.head?.any isDateEnd then none
  let (clock, cs) ← Clock.front 23 60 (cs.drop 1)
  let (offset, cs) ← Offset.front cs
  if !SuffixTag.areHeeded cs then none
  let t := days * 86400 + { clock with second := min clock.second 59 }.seconds - offset
  if earliest.seconds ≤ t ∧ t ≤ latest.seconds then return ⟨t⟩ else none

/-! ## Writing -/

/-- A number with at least `width` digits. -/
def padded (width n : Nat) : String :=
  let digits := Nat.toDigits 10 n
  String.ofList (List.replicate (width - digits.length) '0' ++ digits)

/-- A year in at least four characters, of which the sign of a negative one is the first. -/
def yearText (year : Int) : String :=
  if year < 0 then "-" ++ padded 3 year.natAbs else padded 4 year.toNat

/-- The time in UTC. -/
def text (t : Timestamp) : String :=
  let (year, month, day) := Calendar.dateOfDays (t.seconds / 86400)
  let second := (t.seconds % 86400).toNat
  yearText year ++ "-" ++ padded 2 month ++ "-" ++ padded 2 day ++ "T" ++
    padded 2 (second / 3600) ++ ":" ++ padded 2 (second / 60 % 60) ++ ":" ++
    padded 2 (second % 60) ++ "Z"

/-- How times are carried in JSON. -/
def codec : Json.Codec Timestamp where
  write t := .string t.text
  read
    | .string s =>
      match read s with
      | some t => .ok t
      | none => .error .form
    | _ => .error .form

end Timestamp

end MeshSurvey
