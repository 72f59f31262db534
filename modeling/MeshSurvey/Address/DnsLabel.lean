/-!
# Labels of domain names

An RFC 1123 label has one to 63 characters, each a lower-case letter, a digit or a hyphen, and no
hyphen at either end.
-/

namespace MeshSurvey

/-- Whether a character may stand in a label. -/
def isLabelChar (c : Char) : Bool := c.isLower || c.isDigit || c = '-'

/-- Whether a name is an RFC 1123 label. -/
def isDnsLabel (name : String) : Bool :=
  let cs := name.toList
  1 ≤ cs.length && cs.length ≤ 63 && cs.all isLabelChar &&
    cs.head? ≠ some '-' && cs.getLast? ≠ some '-'

end MeshSurvey
