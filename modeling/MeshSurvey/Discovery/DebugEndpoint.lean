import MeshSurvey.Json.Bytes
import MeshSurvey.Mesh.Catalog
import MeshSurvey.Network.Basic

/-!
# The debug endpoint

The debug endpoint of a control plane serves every configuration object that it holds, as one JSON
array over HTTP. The objects come in any order, and each says itself of which kind it is.
-/

namespace MeshSurvey

/-- A debug endpoint that has answered. -/
structure DebugEndpoint where
  /-- The URL that serves the objects. -/
  url : String
  /-- The time allowed for a request. -/
  timeout : Duration
  deriving DecidableEq, Repr

namespace DebugEndpoint

variable {σ κ : Type}

/-- The path of the objects. -/
def path : String := "/debug/configz"

/-- The endpoint at an address, if it answers. -/
def connect (net : Network σ κ) (address : String) (timeout : Duration) :
    Action σ DebugEndpoint := do
  let url := "http://" ++ address ++ path
  let _ ← net.request .head url timeout
  return ⟨url, timeout⟩

/-- The objects in the body of a response: one for each item, if every item is an object. -/
def objectsOfBody (catalog : Catalog) (body : Wire.Bytes) : Except Failure (List MeshObject) :=
  match (Json.ofBytes? body).bind Json.items? with
  | some items => items.mapM catalog.decodeJson
  | none => .error (.json path .form)

/-- The objects that the endpoint serves. -/
def objects (net : Network σ κ) (endpoint : DebugEndpoint) (catalog : Catalog) :
    Action σ (List MeshObject) := do
  Action.ofExcept (objectsOfBody catalog (← net.request .get endpoint.url endpoint.timeout))

end DebugEndpoint

end MeshSurvey
