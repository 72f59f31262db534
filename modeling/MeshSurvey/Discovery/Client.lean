import MeshSurvey.Discovery.Config
import MeshSurvey.Mesh.Catalog
import MeshSurvey.Mesh.EnvelopedResource
import MeshSurvey.Network.Basic

/-!
# Clients of the discovery service

A client holds one connection and one stream on it, and pairs requests with responses by their order
alone: it sends a request for one type and takes the next response as the answer. The stream is
opened with the first request. After any exchange that fails the client is closed for good, since a
late response could otherwise be taken for the answer to a later request. What is wrong with a
response that answers its request does not close the client.
-/

namespace MeshSurvey

/-- What a client can do with its connection. -/
inductive ClientStream (κ : Type) where
  /-- There is a connection without a stream. -/
  | idle (connection : κ)
  /-- There is a stream. -/
  | streaming (connection : κ)
  /-- Nothing any more. -/
  | closed

/-- A client of the discovery service of one control plane. -/
structure Client (κ : Type) where
  /-- The address of the service. -/
  address : String
  /-- How the client talks to it. -/
  config : ClientConfig
  /-- The kinds that are fetched. -/
  catalog : Catalog
  /-- The stream. -/
  stream : ClientStream κ

/-- An action of a client. It changes the client even when it fails. -/
abbrev Session (κ σ : Type) := ExceptT Failure (StateT (Client κ) (StateM σ))

namespace Client

variable {κ σ : Type}

/-- The type that is requested to learn the version of the control plane. -/
def versionTypeUrl : String := "istio.io/debug/syncz"

/-- Whether the client can still send requests. -/
def isOpen (c : Client κ) : Bool :=
  match c.stream with
  | .closed => false
  | .idle _ | .streaming _ => true

/-- The client without its stream. -/
def close (c : Client κ) : Client κ := { c with stream := .closed }

/-- The client with its stream open. -/
def opened (c : Client κ) : Client κ :=
  match c.stream with
  | .idle connection => { c with stream := .streaming connection }
  | .streaming _ | .closed => c

@[simp] theorem isOpen_close (c : Client κ) : c.close.isOpen = false := rfl

@[simp] theorem isOpen_opened (c : Client κ) : c.opened.isOpen = c.isOpen := by
  rcases c with ⟨_, _, _, _ | _ | _⟩ <;> rfl

/-- A client in one line, without its details. -/
def text (c : Client κ) : String :=
  "AdsClient \x7b address: " ++ Text.quoted c.address ++ ", open: " ++
    (if c.isOpen then "true" else "false") ++ ", .. \x7d"

/-- Connects to a discovery service. -/
def connect (net : Network σ κ) (address : String) (config : ClientConfig) :
    Action σ (Client κ) := do
  let connection ← net.connect address config.tls config.dialTimeout
  return ⟨address, config, .mesh, .idle connection⟩

/-! ## Exchanges -/

/-- What was expected of a peer, or the failure that its reply is. -/
def awaitReply {α : Type} (typeUrl : String) (timeout : Duration) : Reply α → Except Failure α
  | .value v => .ok v
  | .status code text => .error (.status code text)
  | .ended => .error .streamClosed
  | .silence => .error (.requestTimeout typeUrl timeout)

/-- Sends a request and takes the next response, which has to be of the type requested. -/
def converse (net : Network σ κ) (c : Client κ) (typeUrl : String) :
    Action σ DiscoveryResponse := do
  let timeout := c.config.requestTimeout
  let request := DiscoveryRequest.forType typeUrl c.config.nodeId
  let connection ← match c.stream with
    | .closed => throw .streamClosed
    | .idle connection =>
      Action.ofExcept (awaitReply typeUrl timeout (← net.send connection request timeout))
      Action.ofExcept (awaitReply typeUrl timeout (← net.openStream connection timeout))
      pure connection
    | .streaming connection =>
      Action.ofExcept (awaitReply typeUrl timeout (← net.send connection request timeout))
      pure connection
  let response ← Action.ofExcept
    (awaitReply typeUrl timeout (← net.receive connection timeout))
  if response.typeUrl ≠ typeUrl then throw (.typeUrlMismatch typeUrl response.typeUrl)
  return response

/-- A closed client fails without touching the network. -/
theorem run_converse_of_isOpen_eq_false (net : Network σ κ) {c : Client κ} (typeUrl : String)
    (n : σ) (h : c.isOpen = false) :
    (c.converse net typeUrl).run.run n = (.error .streamClosed, n) := by
  rcases c with ⟨_, _, _, _ | _ | _⟩ <;> first | rfl | simp [isOpen] at h

/-- Exchanges a request for a response. Any failure closes the client. -/
def exchange (net : Network σ κ) (typeUrl : String) : Session κ σ DiscoveryResponse :=
  ExceptT.mk fun c ↦ do
    match ← (c.converse net typeUrl).run with
    | .ok response => return (.ok response, c.opened)
    | .error e => return (.error e, c.close)

/-- An exchange leaves the network as the conversation does, and the client open or closed. -/
theorem run_exchange (net : Network σ κ) (typeUrl : String) (c : Client κ) (n : σ) :
    ((exchange net typeUrl).run.run c).run n =
      match (c.converse net typeUrl).run.run n with
      | (.ok response, n') => ((.ok response, c.opened), n')
      | (.error e, n') => ((.error e, c.close), n') := by
  simp only [exchange, ExceptT.run_mk, StateT.run, bind, StateT.bind]
  rcases (c.converse net typeUrl).run n with ⟨_ | _, n'⟩ <;> rfl

/-- An action that neither changes the client nor touches the network. -/
def result {α : Type} (r : Except Failure α) : Session κ σ α := ExceptT.mk (pure r)

/-! ## What a client can be asked -/

/-- The value of the only field that counts of a structure. It has to be there once. -/
def soleField? (name : String) : Json → Option Json
  | .object members =>
    match members.filter (·.1 = name) with
    | [(_, v)] => some v
    | _ => none
  | .array [v] => some v
  | _ => none

/-- The version in what a control plane says of itself. -/
def versionOfIdentifier (identifier : String) : Except Failure String :=
  match (Json.ofTextAsWritten? identifier).bind fun v ↦
      ((soleField? "Info" v).bind (soleField? "version")).bind Json.string? with
  | some version => .ok version
  | none => .error (.json "control-plane identifier" .form)

/-- The version in a response. -/
def versionOfResponse (response : DiscoveryResponse) : Except Failure String :=
  match (response.controlPlane.map (·.identifier)).filter (· ≠ "") with
  | some identifier => versionOfIdentifier identifier
  | none => .error (.protocol "response has no control-plane identifier")

/-- The version of the control plane. -/
def version (net : Network σ κ) : Session κ σ String := do
  result (versionOfResponse (← exchange net versionTypeUrl))

/-- The objects of a kind. -/
def fetch (net : Network σ κ) (k : Kind) : Session κ σ (List MeshObject) := do
  result (k.ofResponse (← exchange net k.typeUrl))

/-- The objects of the kind with a type URL. The kind has to be in the client's catalog. -/
def fetchTypeUrl (net : Network σ κ) (typeUrl : String) : Session κ σ (List MeshObject) := do
  match (← get).catalog.byTypeUrl typeUrl with
  | some k => fetch net k
  | none => throw (.unregisteredKind typeUrl)

/-- The objects of several kinds, one kind after another, up to the first that fails. -/
def fetchAll (net : Network σ κ) : List Kind → Session κ σ (List MeshObject)
  | [] => pure []
  | k :: kinds => do
    let objects ← (fetch net k).adapt (.fetch k.typeUrl)
    let others ← fetchAll net kinds
    return objects ++ others

/-- The objects of every kind in the client's catalog. -/
def resources (net : Network σ κ) : Session κ σ (List MeshObject) := do
  fetchAll net (← get).catalog.kinds

/-- Connects, asks for the version, and closes the client again. -/
def confirm (net : Network σ κ) (address : String) (config : ClientConfig) : Action σ String :=
  do
  let c ← connect net address config
  let (version, _) ← (version net).run c
  Action.ofExcept version

end Client

end MeshSurvey
