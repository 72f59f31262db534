import MeshSurvey.Text.Split
import MeshSurvey.Time.Offset

/-!
# Tags after a time

A written time may end in tags, each in brackets. The first one may name a time zone, by a path of
names or by an offset; any other consists of a key and of values, as in `[u-ca=iso8601]`. An
exclamation mark makes a tag critical: whoever reads it must heed it or refuse the time. A time zone
adds nothing to a time that has an offset, and so nothing is lost when it is critical; other
critical tags are refused.
-/

namespace MeshSurvey.SuffixTag

/-! ## Time zones -/

/-- Whether the name of a zone may begin with a character. -/
def isNameStart (c : Char) : Bool := c.isAlpha || c = '_' || c = '.'

/-- Whether a character may stand in the name of a zone. -/
def isNameChar (c : Char) : Bool := isNameStart c || c.isDigit || c = '+' || c = '-'

/-- Whether characters are one of the names of a zone's path. -/
def isName (cs : List Char) : Bool := cs.head?.any isNameStart && cs.all isNameChar

/-- Whether characters name a time zone. -/
def isZone (cs : List Char) : Bool := Offset.isZone cs || (Text.pieces '/' cs).all isName

/-! ## Keys and values -/

/-- Whether a key may begin with a character. -/
def isKeyStart (c : Char) : Bool := c.isLower || c = '_'

/-- Whether characters are a key. -/
def isKey (cs : List Char) : Bool :=
  cs.head?.any isKeyStart && cs.all fun c ↦ isKeyStart c || c.isDigit || c = '-'

/-- Whether characters are one of the values of a key. -/
def isValue (cs : List Char) : Bool := !cs.isEmpty && cs.all Char.isAlphanum

/-- Whether characters are a key and its values. -/
def isProperty (cs : List Char) : Bool :=
  match Text.cutFirst '=' cs with
  | some (key, values) => isKey key && (Text.pieces '-' values).all isValue
  | none => false

/-! ## All tags -/

/-- What stands in brackets, if a text is nothing but brackets. -/
def bodies (cs : List Char) : Option (List (List Char)) :=
  let parts := Text.pieces ']' cs
  if parts.getLast?.any List.isEmpty then
    parts.dropLast.mapM fun
      | '[' :: body => some body
      | _ => none
  else none

/-- Whether a text consists of tags that can be heeded. -/
def areHeeded (cs : List Char) : Bool :=
  match bodies cs with
  | none => false
  | some [] => true
  | some (first :: others) =>
    let zone := match first with
      | '!' :: name => name
      | _ => first
    (isZone zone || isProperty first) && others.all isProperty

end MeshSurvey.SuffixTag
