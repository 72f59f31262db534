import MeshSurvey.Json.Bytes
import MeshSurvey.Network.Basic

/-!
# Sidecars

A sidecar serves its configuration as JSON over HTTP, to local clients that know the URL of its
administration.
-/

namespace MeshSurvey.Sidecar

variable {σ κ : Type}

/-- A URL without the slashes that end it. -/
def trimSlashes (url : String) : String :=
  String.ofList (url.toList.reverse.dropWhile (· = '/')).reverse

/-- The configuration of the sidecar. Anything but JSON counts as no answer. -/
def configDump (net : Network σ κ) (adminUrl : String) (timeout : Duration) : Action σ Json := do
  let url := trimSlashes adminUrl ++ "/config_dump"
  match Json.ofBytes? (← net.request .get url timeout) with
  | some v => return v
  | none => throw (.http url none)

end MeshSurvey.Sidecar
