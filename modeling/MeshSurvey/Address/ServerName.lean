import MeshSurvey.Address.IP
import MeshSurvey.Text.Split

/-!
# Names of servers

Over TLS a client says by which name it knows the server, so that the server can prove that it bears
it. The name is a domain name or an address; a host of any other form cannot be reached over TLS.

A domain name consists of labels with dots between them, and may end in a dot. It has at most 253
characters and a label at most 63: letters, digits, underscores and hyphens, with no hyphen at
either end. The last label is not a number, or the name could be taken for an address.
-/

namespace MeshSurvey.ServerName

/-- Whether a character may stand in a label. -/
def isLabelChar (c : Char) : Bool := c.isAlphanum || c = '_' || c = '-'

/-- Whether characters are a label. -/
def isLabel (cs : List Char) : Bool :=
  1 ≤ cs.length && cs.length ≤ 63 && cs.all isLabelChar &&
    cs.head? ≠ some '-' && cs.getLast? ≠ some '-'

/-- Whether characters are a domain name. -/
def isDomainName (cs : List Char) : Bool :=
  let parts := Text.pieces '.' cs
  let labels := if 1 < parts.length && parts.getLast? = some [] then parts.dropLast else parts
  cs.length ≤ 253 && labels.all isLabel && !labels.getLast?.any (·.all Char.isDigit)

/-- A host without the brackets around it. -/
def unbracketed (host : List Char) : List Char :=
  match host with
  | '[' :: rest => if rest.getLast? = some ']' then rest.dropLast else host
  | _ => host

/-- Whether a host can be the name of a server. -/
def isValid (host : List Char) : Bool :=
  let name := unbracketed host
  isDomainName name || (IP.read name).isSome

end MeshSurvey.ServerName
