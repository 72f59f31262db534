import MeshSurvey.Network.Basic

/-!
# Scripted servers

A survey can be rehearsed against servers that follow a script. A discovery server answers each
request with the next entry of its script, and once the script is used up by the type of the
request. A web server answers by method and path.
-/

namespace MeshSurvey

/-- What a discovery server does about a request. -/
inductive ScriptedReply where
  /-- It does not answer. -/
  | silence
  /-- It ends the stream with a status. A status of zero is a plain end. -/
  | status (code : Nat) (text : String)
  /-- It answers with bytes. -/
  | bytes (message : Wire.Bytes)
  /-- It answers with a response, of the type requested unless another is given. -/
  | response (typeUrl : Option String) (message : DiscoveryResponse)
  deriving Inhabited

namespace ScriptedReply

/-- What comes over the stream of a client that has requested a type, if anything does. -/
def answer? (typeUrl : String) : ScriptedReply → Option (Reply DiscoveryResponse)
  | .silence => none
  | .status code text => some (if code = 0 then .ended else .status code text)
  | .bytes b =>
    match DiscoveryResponse.wire.decode b with
    | some message => some (.value message)
    | none => some (.status 13 "")
  | .response type message => some (.value { message with typeUrl := type.getD typeUrl })

end ScriptedReply

/-- What a web server does about a request. -/
structure ScriptedRoute where
  response : HttpResponse
  /-- Whether the server keeps the response to itself. -/
  isSilent : Bool

/-- A server that follows a script. -/
inductive ScriptedServer where
  /-- It accepts connections and closes them. -/
  | closing
  /-- It accepts connections and does nothing with them. -/
  | silent
  /-- A web server with responses by method and path. -/
  | web (routes : List (String × ScriptedRoute))
  /-- A discovery server with a script, and replies by type for what comes after it. -/
  | discovery (script : List ScriptedReply) (byType : List (String × ScriptedReply))

namespace ScriptedServer

/-- What a discovery server does about a request for a type, and what is left of its script. A
request for which nothing is scripted gets a response without resources. -/
def replyTo (typeUrl : String) (byType : List (String × ScriptedReply)) :
    List ScriptedReply → ScriptedReply × List ScriptedReply
  | reply :: script => (reply, script)
  | [] => (((byType.find? (·.1 = typeUrl)).map (·.2)).getD (.response none {}), [])

/-- The name of a method. -/
def methodName : HttpMethod → String
  | .get => "GET"
  | .head => "HEAD"

/-- What a web server answers. A response to a mere question for existence has no body. -/
def respond (routes : List (String × ScriptedRoute)) (method : HttpMethod) (path : String) :
    Option HttpResponse :=
  match routes.find? (·.1 = methodName method ++ " " ++ path) with
  | some (_, route) =>
    if route.isSilent then none
    else if method = .head then some { route.response with body := [] }
    else some route.response
  | none => some ⟨404, []⟩

end ScriptedServer

end MeshSurvey
