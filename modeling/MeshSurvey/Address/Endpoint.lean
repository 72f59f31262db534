import MeshSurvey.Address.Authority

/-!
# Endpoints of connections

An address is dialled as the authority of the URI `http://address`, or `https://address` when the
connection is to use TLS. The URI may go on after its authority; a connection goes to the host and
port alone. Without a usable port it goes to the scheme's own, 80 or 443.
-/

namespace MeshSurvey

/-- Where a connection goes, and whether it is to use TLS. -/
structure Endpoint where
  /-- The host, with brackets if it is an address in brackets. -/
  host : List Char
  port : UInt16
  /-- Whether the connection uses TLS. -/
  tls : Bool
  deriving DecidableEq

namespace Endpoint

/-- The scheme of a connection. -/
def scheme (tls : Bool) : String := if tls then "https" else "http"

/-- The port that a scheme stands for. -/
def schemePort (tls : Bool) : UInt16 := if tls then 443 else 80

/-- A URI has at most this many bytes. -/
def maxUriLength : Nat := 65534

/-- Whether a character may stand in the path of a URI. -/
def isPathChar (c : Char) : Bool :=
  let n := c.toNat
  n = 0x21 || n = 0x22 || 0x24 ≤ n && n ≤ 0x3B || n = 0x3D || 0x40 ≤ n && n ≤ 0x5F ||
    0x61 ≤ n && n ≠ 0x7F

/-- Whether a character may stand in the query of a URI. -/
def isQueryChar (c : Char) : Bool :=
  let n := c.toNat
  n = 0x21 || 0x24 ≤ n && n ≤ 0x3B || n = 0x3D || 0x3F ≤ n && n ≠ 0x7F

/-- Whether the characters up to a number sign, if there is one, are a query. -/
def isQuery (cs : List Char) : Bool := (cs.takeWhile (· ≠ '#')).all isQueryChar

/-- Whether characters are a path and perhaps a query and a fragment. -/
def isPathAndQuery (cs : List Char) : Bool :=
  (cs.takeWhile fun c ↦ c ≠ '?' && c ≠ '#').all isPathChar &&
    match cs.dropWhile fun c ↦ c ≠ '?' && c ≠ '#' with
    | '?' :: query => isQuery query
    | _ => true

/-- The endpoint of an address, if the address makes a URI. -/
def ofAddress (tls : Bool) (address : String) : Option Endpoint :=
  let cs := address.toList
  let authority := cs.takeWhile (!Authority.isEnd ·)
  let length := (scheme tls).utf8ByteSize + 3 + address.utf8ByteSize
  if !authority.isEmpty && Authority.isWellFormed authority &&
      isPathAndQuery (cs.dropWhile (!Authority.isEnd ·)) && length ≤ maxUriLength then
    some ⟨Authority.host authority, (Authority.port authority).getD (schemePort tls), tls⟩
  else none

end Endpoint

end MeshSurvey
