import MeshSurvey.Schema

/-!
# Virtual services

A virtual service routes the traffic of hosts: each of its routes has weighted destinations.
-/

namespace MeshSurvey

/-- The port of a destination. -/
structure PortSelector where
  number : UInt32 := 0
  deriving DecidableEq, Repr, Inhabited

/-- The two forms of the port. -/
def PortSelector.schema : Schema PortSelector where
  empty := {}
  members := [member 1 "number" .unsigned (·.number) fun v s ↦ { s with number := v }]

/-- The service that a route leads to. -/
structure Destination where
  /-- The host of the service. -/
  host : String := ""
  /-- The name of a subset. -/
  subset : String := ""
  port : Option PortSelector := none
  deriving DecidableEq, Repr, Inhabited

/-- The two forms of a destination. -/
def Destination.schema : Schema Destination where
  empty := {}
  members := [
    member 1 "host" .text (·.host) fun v s ↦ { s with host := v },
    member 2 "subset" .text (·.subset) fun v s ↦ { s with subset := v },
    member 3 "port" (.optional PortSelector.schema) (·.port) fun v s ↦ { s with port := v }]

/-- A destination and its share of the traffic. -/
structure HttpRouteDestination where
  destination : Option Destination := none
  /-- Its share. -/
  weight : Int32 := 0
  deriving DecidableEq, Repr, Inhabited

/-- The two forms of a weighted destination. -/
def HttpRouteDestination.schema : Schema HttpRouteDestination where
  empty := {}
  members := [
    member 1 "destination" (.optional Destination.schema) (·.destination)
      fun v s ↦ { s with destination := v },
    member 2 "weight" .signed (·.weight) fun v s ↦ { s with weight := v }]

/-- A route for HTTP requests. -/
structure HttpRoute where
  route : List HttpRouteDestination := []
  name : String := ""
  deriving DecidableEq, Repr, Inhabited

/-- The two forms of a route. -/
def HttpRoute.schema : Schema HttpRoute where
  empty := {}
  members := [
    member 2 "route" (.list HttpRouteDestination.schema) (·.route) fun v s ↦ { s with route := v },
    member 17 "name" .text (·.name) fun v s ↦ { s with name := v }]

/-- What a virtual service says. -/
structure VirtualServiceSpec where
  /-- The hosts concerned. -/
  hosts : List String := []
  /-- The gateways at which it applies. -/
  gateways : List String := []
  /-- The routes for HTTP requests. -/
  http : List HttpRoute := []
  /-- The namespaces in which it is visible. -/
  exportTo : List String := []
  deriving DecidableEq, Repr, Inhabited

/-- The two forms of a virtual service. -/
def VirtualServiceSpec.schema : Schema VirtualServiceSpec where
  empty := {}
  members := [
    member 1 "hosts" .texts (·.hosts) fun v s ↦ { s with hosts := v },
    member 2 "gateways" .texts (·.gateways) fun v s ↦ { s with gateways := v },
    member 3 "http" (.list HttpRoute.schema) (·.http) fun v s ↦ { s with http := v },
    member 6 "exportTo" .texts (·.exportTo) fun v s ↦ { s with exportTo := v }]

end MeshSurvey
