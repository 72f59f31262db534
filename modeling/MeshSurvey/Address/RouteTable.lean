import MeshSurvey.Address.IPv4
import MeshSurvey.Text.Split

/-!
# The kernel's routing table

The table is a text with a header line and then one line per route. A route's second and third
fields are its destination and its gateway, each as a hexadecimal number whose least significant
byte is the first octet of the address.
-/

namespace MeshSurvey.RouteTable

/-- The gateway of a line whose destination is all zeros. A line with fewer than three fields, or
with a gateway that is no number of four bytes, has none. -/
def gatewayOfLine (line : List Char) : Option IPv4 :=
  match Text.words line with
  | _ :: destination :: gateway :: _ =>
    if destination = "00000000".toList then
      (Text.readBelow 16 UInt32.size gateway).map .ofLittleEndian
    else none
  | _ => none

/-- The first gateway that the lines after the header give. -/
def defaultGateway (table : String) : Option IPv4 :=
  ((Text.lines table.toList).drop 1).findSome? gatewayOfLine

end MeshSurvey.RouteTable
