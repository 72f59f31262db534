import MeshSurvey.Address.Authority

/-!
# Addresses of services

A service is reached at a host and a port, written `host:port`. A host that contains colons goes
into brackets.
-/

namespace MeshSurvey.HostPort

/-- A host and a port in one text, with brackets around a host that contains a colon and does not
have them yet. -/
def join (host : String) (port : UInt16) : String :=
  let shown := toString port.toNat
  if host.toList.contains ':' && host.toList.head? ≠ some '[' then "[" ++ host ++ "]:" ++ shown
  else host ++ ":" ++ shown

/-- The host and the port that a text names, when it names both. -/
def read (address : String) : Option (List Char × UInt16) :=
  match Authority.read address with
  | some (host, some port) => if host.isEmpty then none else some (host, port)
  | _ => none

end MeshSurvey.HostPort
