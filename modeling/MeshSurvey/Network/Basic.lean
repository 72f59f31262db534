import MeshSurvey.Address.Endpoint
import MeshSurvey.Address.ServerName
import MeshSurvey.Network.DialRace
import MeshSurvey.Protocol.Message
import MeshSurvey.Scan.Protocol

/-!
# Networks

A network is everything outside of the library that can answer it: what happens when a connection is
set up, what comes over a discovery stream, how an HTTP request or a probe is answered, and in which
order concurrent work proceeds. It has states of a type `σ` and connections of a type `κ`, of which
nothing is assumed. An action runs in a network and may fail; either way the network is left in some
state.
-/

namespace MeshSurvey

/-- An action in a network with states `σ`. -/
abbrev Action (σ : Type) := ExceptT Failure (StateM σ)

namespace Action

variable {σ α : Type}

/-- An action without effect on the network. -/
def ofExcept (r : Except Failure α) : Action σ α := ExceptT.mk (pure r)

/-- An action whose failure is seen as a result. -/
def attempt (a : Action σ α) : Action σ (Except Failure α) := ExceptT.mk (.ok <$> a.run)

end Action

/-- What a peer does when something is expected of it within a time. -/
inductive Reply (α : Type) where
  /-- It does what is expected. -/
  | value (value : α)
  /-- It ends the stream with a status. -/
  | status (code : Nat) (text : String)
  /-- It ends the stream. -/
  | ended
  /-- It does nothing in time. -/
  | silence

/-- The method of an HTTP request. -/
inductive HttpMethod where
  /-- Asks for a resource. -/
  | get
  /-- Asks whether there is a resource. -/
  | head
  deriving DecidableEq, Repr

/-- A response to an HTTP request. -/
structure HttpResponse where
  status : Nat
  body : Wire.Bytes
  deriving DecidableEq, Repr

/-- A network with states `σ` and connections `κ`. -/
structure Network (σ κ : Type) where
  /-- What happens, in this order, while a connection is set up. -/
  dial : Endpoint → Duration → StateM σ (List (DialEvent κ))
  /-- Puts a request on the stream of a connection. -/
  send : κ → DiscoveryRequest → Duration → StateM σ (Reply Unit)
  /-- Opens the stream of a connection. -/
  openStream : κ → Duration → StateM σ (Reply Unit)
  /-- Takes the next response from the stream of a connection. -/
  receive : κ → Duration → StateM σ (Reply DiscoveryResponse)
  /-- Sends an HTTP request to a URL. There may be no response. -/
  http : HttpMethod → String → Duration → StateM σ (Option HttpResponse)
  /-- Whether a probe of an address succeeds. -/
  probe : ScanProtocol → String → Duration → StateM σ Bool
  /-- Which of a number of possible turns concurrent work takes next. -/
  choose : Nat → StateM σ Nat

namespace Network

variable {σ κ : Type}

/-- The endpoint of an address. Over TLS its host has to be the name of a server, since `tls` stands
for settings without a domain name of their own that could be checked in its place. -/
def endpoint (address : String) (tls : Bool) : Except Failure Endpoint :=
  match Endpoint.ofAddress tls address with
  | none => .error (.invalidAddress address)
  | some endpoint =>
    if tls && !ServerName.isValid endpoint.host then .error (.transport address)
    else .ok endpoint

/-- Connects to an address within a time. No time at all is not enough even to read the address. -/
def connect (net : Network σ κ) (address : String) (tls : Bool) (timeout : Duration) :
    Action σ κ :=
  if timeout.isZero then throw (.deadlineExceeded address timeout)
  else match endpoint address tls with
    | .error failure => throw failure
    | .ok endpoint => ExceptT.mk do
      let events ← net.dial endpoint timeout
      return DialRace.outcome address timeout {} events

/-- Whether an HTTP status says that a request failed. -/
def isErrorStatus (status : Nat) : Bool := 400 ≤ status && status < 600

/-- The body of the response to an HTTP request. -/
def request (net : Network σ κ) (method : HttpMethod) (url : String) (timeout : Duration) :
    Action σ Wire.Bytes := do
  match ← net.http method url timeout with
  | none => throw (.http url none)
  | some response =>
    if isErrorStatus response.status then throw (.http url (some response.status))
    else return response.body

end Network

end MeshSurvey
