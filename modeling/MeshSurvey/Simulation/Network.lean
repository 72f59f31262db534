import MeshSurvey.Address.IP
import MeshSurvey.Address.HostPort
import MeshSurvey.Simulation.Server

/-!
# Simulated networks

A simulated network has scripted servers at IPv4 addresses and ports, and refuses connections to all
others. A discovery server sends its answer as soon as it has a request, so a client that finds
nothing on its stream waits in vain. A network may also have no route at all; then its servers
cannot be reached either.

The simulated host lets nobody serve on a port that is reserved for the system.
-/

namespace MeshSurvey

/-- A connection of a simulated network, and what is on its stream. -/
structure SimulatedConnection where
  /-- The address of the server. -/
  address : String
  /-- What the server has sent and the client not yet taken. -/
  pending : List (Reply DiscoveryResponse) := []

/-- The state of a simulated network. -/
structure Simulation where
  /-- Whether there is a route to the servers. -/
  hasRoute : Bool
  /-- The servers, by address and port. -/
  servers : List (String × ScriptedServer)
  /-- The connections, in the order in which they were made. -/
  connections : List SimulatedConnection := []
  /-- The discovery requests that were answered, in order. -/
  answered : List DiscoveryRequest := []

namespace Simulation

/-! ## Setting up -/

/-- The first port that is not reserved. -/
def firstFreePort : Nat := 1024

/-- Whether a server may not listen on an address, because of its port. -/
def isReserved (address : String) : Bool :=
  match HostPort.read address with
  | some (_, port) => port.toNat < firstFreePort
  | none => false

/-- A network with the given servers, or the reason why one of them cannot listen. -/
def start (hasRoute : Bool) (servers : List (String × ScriptedServer)) :
    Except String Simulation :=
  match servers.find? (isReserved ·.1) with
  | some (address, _) =>
    .error ("cannot bind " ++ address ++ ": Permission denied (os error 13)")
  | none => .ok { hasRoute, servers }

/-! ## Addresses -/

/-- The address that a host is. Names of hosts are not known. -/
def addressOfHost? (host : List Char) : Option IP :=
  match host with
  | '[' :: rest => (IPv6.readZoned rest.dropLast).map .v6
  | _ => (IPv4.resolve host).map .v4

/-- The IPv4 address that a host is. An IPv4 address within an IPv6 address counts. -/
def ipv4OfHost? (host : List Char) : Option IPv4 :=
  match addressOfHost? host with
  | some (.v4 ip) => some ip
  | some (.v6 ip) => ip.embedded
  | none => none

/-- The server on a port of a host. -/
def server? (s : Simulation) (host : List Char) (port : UInt16) :
    Option (String × ScriptedServer) :=
  (ipv4OfHost? host).bind fun ip ↦
    s.servers.find? (·.1 = HostPort.join ip.text port)

/-- Why a socket cannot be connected to a host without a listening server. -/
def socketFailure (s : Simulation) (host : List Char) : String :=
  match addressOfHost? host, s.hasRoute with
  | some _, true => "Connection refused (os error 111)"
  | some _, false => "Network is unreachable (os error 101)"
  | none, _ => "failed to lookup address information: Name or service not known"

/-! ## Connections -/

/-- The network with one more connection to a server. -/
def accept (s : Simulation) (address : String) : Simulation :=
  { s with connections := s.connections ++ [{ address }] }

/-- Sets up a connection. Every server but a silent one breaks a handshake, since none speaks TLS.
-/
def dial (endpoint : Endpoint) (_timeout : Duration) : StateM Simulation (List (DialEvent Nat)) :=
  do
  let s ← get
  match if s.hasRoute then s.server? endpoint.host endpoint.port else none with
  | none => return [.socketFailed (s.socketFailure endpoint.host), .checked]
  | some (address, server) =>
    if endpoint.tls then
      match server with
      | .silent => return [.checked]
      | _ => return [.finished .handshakeFailed, .checked]
    else
      set (s.accept address)
      return [.finished (.connected s.connections.length), .checked]

/-- Changes the connection with a number. -/
def modifyConnection (s : Simulation) (connection : Nat)
    (f : SimulatedConnection → SimulatedConnection) : Simulation :=
  { s with connections := s.connections.modify connection f }

/-- Replaces the script of the discovery server at an address. -/
def setScript (s : Simulation) (address : String) (script : List ScriptedReply) : Simulation :=
  { s with servers := s.servers.map fun
      | (other, .discovery old byType) =>
        (other, .discovery (if other = address then script else old) byType)
      | entry => entry }

/-- The server at the other end of a connection. -/
def serverOf? (s : Simulation) (connection : Nat) : Option ScriptedServer :=
  s.connections[connection]?.bind fun c ↦ (s.servers.find? (·.1 = c.address)).map (·.2)

/-- What a server other than a discovery server makes of a stream. -/
def refuseStream : Reply Unit := .status 2 "transport error"

/-- The network with the answer to a request on the stream of a connection. -/
def deliver (s : Simulation) (connection : Nat) (request : DiscoveryRequest)
    (answer : Reply DiscoveryResponse) : Simulation :=
  { s.modifyConnection connection fun c ↦ { c with pending := c.pending ++ [answer] } with
    answered := s.answered ++ [request] }

/-- Sends a request. A discovery server answers at once, unless its script says otherwise. -/
def send (connection : Nat) (request : DiscoveryRequest) (timeout : Duration) :
    StateM Simulation (Reply Unit) := do
  if timeout.isZero then return .silence
  let s ← get
  match s.connections[connection]?, s.serverOf? connection with
  | some c, some (.discovery script byType) =>
    let (reply, script) := ScriptedServer.replyTo request.typeUrl byType script
    let s := s.setScript c.address script
    match reply.answer? request.typeUrl with
    | none => set s
    | some answer => set (s.deliver connection request answer)
    return .value ()
  | _, _ => return .value ()

/-- Opens a stream. It is open when the server has something to say. -/
def openStream (connection : Nat) (_timeout : Duration) : StateM Simulation (Reply Unit) := do
  let s ← get
  match s.serverOf? connection with
  | some (.discovery ..) => return .value ()
  | some .silent => return .silence
  | some .closing | some (.web _) | none => return refuseStream

/-- Takes what comes next on a stream. -/
def receive (connection : Nat) (_timeout : Duration) :
    StateM Simulation (Reply DiscoveryResponse) := do
  let s ← get
  match (s.connections[connection]?.map (·.pending)).getD [] with
  | [] => return .silence
  | answer :: pending =>
    set (s.modifyConnection connection fun c ↦ { c with pending })
    return answer

/-! ## HTTP requests and probes -/

/-- The host, the port and the path of an HTTP URL. The host has to be an address without a zone,
and nothing may stand between it and the port. -/
def readUrl (url : String) : Option (List Char × UInt16 × String) := do
  let scheme := "http://".toList
  let cs := url.toList
  if !scheme.isPrefixOf cs then none
  let cs := cs.drop scheme.length
  let authority := cs.takeWhile (!Authority.isEnd ·)
  let host := Authority.host authority
  if host.contains '%' then none
  let _ ← ipv4OfHost? host
  let path := (cs.dropWhile (!Authority.isEnd ·)).takeWhile fun c ↦ c ≠ '?' && c ≠ '#'
  let path := if path.isEmpty then ['/'] else path
  let hostPort := match Text.cutLast '@' authority with
    | some (_, back) => back
    | none => authority
  match hostPort.drop host.length with
  | [] | [':'] => return (host, 80, String.ofList path)
  | ':' :: digits =>
    let port ← (Text.readDigits 10 digits).filter (· < UInt16.size)
    return (host, .ofNat port, String.ofList path)
  | _ => none

/-- Answers an HTTP request. -/
def http (method : HttpMethod) (url : String) (timeout : Duration) :
    StateM Simulation (Option HttpResponse) := do
  let s ← get
  if !s.hasRoute || timeout.isZero then return none
  match readUrl url with
  | none => return none
  | some (host, port, path) =>
    match s.server? host port with
    | some (_, .web routes) => return ScriptedServer.respond routes method path
    | _ => return none

/-- Answers a probe. Any server accepts a connection; only a web server answers a request. -/
def probe (protocol : ScanProtocol) (address : String) (timeout : Duration) :
    StateM Simulation Bool := do
  let s ← get
  match protocol with
  | .tcp =>
    match HostPort.read address with
    | some (host, port) => return s.hasRoute && !timeout.isZero && (s.server? host port).isSome
    | none => return false
  | .http => return (← http .head ("http://" ++ address) timeout).isSome
  | .https => return false

/-- The simulated network. Of several turns the first is always taken. -/
def network : Network Simulation Nat where
  dial
  send
  openStream
  receive
  http
  probe
  choose _ := pure 0

end Simulation

end MeshSurvey
