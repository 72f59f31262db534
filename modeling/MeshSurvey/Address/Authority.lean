import MeshSurvey.Text.Numeral
import MeshSurvey.Text.Split

/-!
# The authority of a URI

An authority names a host and perhaps a port: `host`, `host:port` or `user@host:port`, where the
host may be a bracketed address. A slash, a question mark or a number sign ends it.

One pass over the characters decides whether an authority is well formed. It counts the colons and
notes brackets and percent signs; a closing bracket or an `@` makes it forget the colons and percent
signs before it, because those belong to an address in brackets or to the user's name.
-/

namespace MeshSurvey.Authority

/-! ## Form -/

/-- Whether a character ends an authority. -/
def isEnd (c : Char) : Bool := c = '/' || c = '?' || c = '#'

/-- Whether a character may stand in an authority without a special meaning. -/
def isPlain (c : Char) : Bool :=
  c.isAlphanum || "-._~!$&'()*+,;=".toList.contains c

/-- What a pass over an authority has seen. -/
structure Seen where
  /-- Colons since the last closing bracket or `@`. -/
  colons : Nat
  /-- An opening bracket. -/
  opened : Bool
  /-- A closing bracket. -/
  closed : Bool
  /-- A percent sign since the last closing bracket or `@`. -/
  percent : Bool
  /-- An `@` as the last character. -/
  endsInAt : Bool
  deriving DecidableEq

/-- Nothing seen yet. -/
def Seen.start : Seen := ⟨0, false, false, false, false⟩

/-- One more character, unless it may not stand there. -/
def Seen.next (s : Seen) (c : Char) : Option Seen :=
  if c = ':' then
    if s.colons < 8 then some { s with colons := s.colons + 1, endsInAt := false } else none
  else if c = '[' then
    if s.percent || s.opened then none else some { s with opened := true, endsInAt := false }
  else if c = ']' then
    if s.opened && !s.closed then
      some { s with closed := true, colons := 0, percent := false, endsInAt := false }
    else none
  else if c = '@' then some { s with colons := 0, percent := false, endsInAt := true }
  else if c = '%' then some { s with percent := true, endsInAt := false }
  else if isPlain c then some { s with endsInAt := false }
  else none

/-- Whether what was seen is a whole authority. -/
def Seen.isComplete (s : Seen) : Bool :=
  s.opened == s.closed && s.colons ≤ 1 && !s.percent && !s.endsInAt

/-- Whether characters without an ending one form an authority, possibly the empty one. -/
def isWellFormed (cs : List Char) : Bool :=
  match cs.foldlM Seen.next .start with
  | some seen => seen.isComplete
  | none => false

/-! ## Parts -/

/-- The host: what follows the last `@`, up to the closing bracket when it begins with a bracket and
up to the first colon otherwise. -/
def host (cs : List Char) : List Char :=
  let hostPort := match Text.cutLast '@' cs with
    | some (_, back) => back
    | none => cs
  match hostPort with
  | '[' :: _ =>
    match Text.cutFirst ']' hostPort with
    | some (front, _) => front ++ [']']
    | none => hostPort
  | _ => hostPort.takeWhile (· ≠ ':')

/-- A port: a number of sixteen bits. -/
def readPort (cs : List Char) : Option UInt16 :=
  (Text.readBelow 10 UInt16.size cs).map .ofNat

/-- The port: what follows the last colon, when that is a port. -/
def port (cs : List Char) : Option UInt16 :=
  (Text.cutLast ':' cs).bind fun (_, back) ↦ readPort back

/-- Reads the whole of a text as an authority, with its host and its port. The empty text is
none. -/
def read (text : String) : Option (List Char × Option UInt16) :=
  let cs := text.toList
  if !cs.isEmpty && !cs.any isEnd && isWellFormed cs then some (host cs, port cs) else none

end MeshSurvey.Authority
