import MeshSurvey.Json.Value
import MeshSurvey.Text.Numeral
import MeshSurvey.Text.Split

/-!
# The discovery address in a sidecar's configuration

A sidecar can dump its configuration as JSON, a list of entries of different forms. The address that
it was started with stands in one of them. Failing that, the names of the clusters and of the
virtual hosts that it was given tell the address of the discovery service, as the first one on the
port for TLS. Values of an unexpected type are passed over.
-/

namespace MeshSurvey.ConfigDump

/-- The port by which the discovery service is recognized. -/
def discoveryPort : UInt16 := 15012

/-! ## Looking into JSON values -/

/-- The value at the end of a path of member names. -/
def valueAt? (path : List String) (v : Json) : Option Json :=
  path.foldlM (fun v name ↦ v.member? name) v

/-- The text at the end of a path of member names. -/
def textAt? (path : List String) (v : Json) : Option String := (valueAt? path v).bind Json.string?

/-- The items of the array at the end of a path of member names; none if there is no array. -/
def itemsAt (path : List String) (v : Json) : List Json :=
  ((valueAt? path v).bind Json.items?).getD []

/-! ## Names that tell an address -/

/-- Whether characters are the number of the discovery port. -/
def isDiscoveryPort (cs : List Char) : Bool :=
  Text.readBelow 10 UInt16.size cs = some discoveryPort.toNat

/-- The address of a cluster, whose name has the port as its second field and the host as its
fourth, with bars between fields. -/
def addressOfCluster (name : String) : Option String :=
  match Text.pieces '|' name.toList with
  | _ :: port :: _ :: host :: _ =>
    if isDiscoveryPort port && !host.isEmpty then some (String.ofList (host ++ ':' :: port))
    else none
  | _ => none

/-- The address of a virtual host, which is its name: a host, a colon and the port. -/
def addressOfVirtualHost (name : String) : Option String :=
  match Text.cutLast ':' name.toList with
  | some (host, port) => if isDiscoveryPort port && !host.isEmpty then some name else none
  | none => none

/-! ## The entries of a dump -/

/-- The address that the sidecar was started with, if the entry tells it. -/
def bootstrapAddress (entry : Json) : Option String :=
  (textAt? ["bootstrap", "node", "metadata", "PROXY_CONFIG", "discoveryAddress"] entry).filter
    (· ≠ "")

/-- The names of the clusters in an entry: fixed ones, those in use, those being prepared. -/
def clusterNames (entry : Json) : List String :=
  (["static_clusters", "dynamic_active_clusters", "dynamic_warming_clusters"].flatMap
    fun list ↦ itemsAt [list] entry).filterMap (textAt? ["cluster", "name"])

/-- The names of the virtual hosts in an entry: those of fixed routes, then those of others. -/
def virtualHostNames (entry : Json) : List String :=
  ((["static_route_configs", "dynamic_route_configs"].flatMap
    fun list ↦ itemsAt [list] entry).flatMap (itemsAt ["route_config", "virtual_hosts"])).filterMap
      (textAt? ["name"])

/-- The address that the names in an entry tell: those of clusters before those of virtual hosts. -/
def namedAddress (entry : Json) : Option String :=
  ((clusterNames entry).findSome? addressOfCluster).or
    ((virtualHostNames entry).findSome? addressOfVirtualHost)

/-- The discovery address in a dump: the one that the sidecar was started with, in whichever entry
it stands, or else the first one that names tell. -/
def discoveryAddress (dump : Json) : Option String :=
  let entries := itemsAt ["configs"] dump
  (entries.findSome? bootstrapAddress).or (entries.findSome? namedAddress)

end MeshSurvey.ConfigDump
