import MeshSurvey.Address.IPv6

/-!
# Addresses of either family

An address is an IPv4 or an IPv6 address. Together with a port it is written with the address in
brackets when it is an IPv6 address, so that the colon before the port stands alone.
-/

namespace MeshSurvey

/-- An address of a host. -/
inductive IP where
  /-- An IPv4 address. -/
  | v4 (ip : IPv4)
  /-- An IPv6 address. -/
  | v6 (ip : IPv6)
  deriving DecidableEq

namespace IP

/-- The canonical text of an address. -/
def text : IP → String
  | .v4 ip => ip.text
  | .v6 ip => ip.text

/-- Reads the whole of a text as an address. -/
def read (cs : List Char) : Option IP :=
  match IPv4.read cs with
  | some ip => some (.v4 ip)
  | none => (IPv6.read cs).map .v6

/-- The address with a port. -/
def withPort (ip : IP) (port : UInt16) : String :=
  match ip with
  | .v4 ip => ip.text ++ ":" ++ toString port.toNat
  | .v6 ip => "[" ++ ip.text ++ "]:" ++ toString port.toNat

end IP

end MeshSurvey
