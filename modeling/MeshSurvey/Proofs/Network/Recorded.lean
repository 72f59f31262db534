import MeshSurvey.Network.Basic

/-!
# Recorded networks

What a client puts on a stream and takes from it is not part of its result, and a network says
nothing of what it has been asked. A *recorded* network answers like the original and notes each
request together with its answer. Its state is that of the original beside the record.

Since networks are arbitrary, nothing is lost by speaking of recorded ones: an action runs in the
recorded network as it does in the original. The record is only ever extended, so that the record
of a run can be told apart from what came before it.
-/

namespace MeshSurvey

/-! ## Runs of actions -/

namespace Action

variable {σ α β : Type}

theorem run_bind (a : Action σ α) (f : α → Action σ β) (n : σ) :
    (a >>= f).run.run n =
      match a.run.run n with
      | (.ok x, n') => (f x).run.run n'
      | (.error e, n') => (.error e, n') := by
  rw [ExceptT.run_bind, StateT.run_bind]
  rcases a.run.run n with ⟨_ | _, _⟩ <;> rfl

theorem run_pure (x : α) (n : σ) : (pure x : Action σ α).run.run n = (.ok x, n) := rfl

theorem run_liftM (ask : StateM σ α) (n : σ) :
    (liftM ask : Action σ α).run.run n = (.ok (ask.run n).1, (ask.run n).2) := rfl

theorem run_ofExcept (r : Except Failure α) (n : σ) : (ofExcept r).run.run n = (r, n) := rfl

theorem run_attempt (a : Action σ α) (n : σ) :
    a.attempt.run.run n = (.ok (a.run.run n).1, (a.run.run n).2) := rfl

end Action

/-! ## Records -/

/-- One thing that was asked of a network, and its answer. -/
inductive Traffic (κ : Type) where
  /-- A connection was set up. -/
  | dialled (endpoint : Endpoint) (events : List (DialEvent κ))
  /-- A request was put on a stream. -/
  | sent (connection : κ) (request : DiscoveryRequest) (reply : Reply Unit)
  /-- A stream was opened. -/
  | opened (connection : κ) (reply : Reply Unit)
  /-- The next response was taken from a stream. -/
  | received (connection : κ) (reply : Reply DiscoveryResponse)
  /-- An HTTP request was sent. -/
  | requested (method : HttpMethod) (url : String) (response : Option HttpResponse)
  /-- An address was probed. -/
  | probed (protocol : ScanProtocol) (address : String) (found : Bool)
  /-- One of several turns was chosen. -/
  | chose (turns turn : Nat)

namespace Traffic

variable {κ : Type}

/-- The connection whose stream was used, if one was. -/
def stream? : Traffic κ → Option κ
  | .sent connection _ _ | .opened connection _ | .received connection _ => some connection
  | .dialled .. | .requested .. | .probed .. | .chose .. => none

/-- The request that was put on a stream, if one was. -/
def request? : Traffic κ → Option DiscoveryRequest
  | .sent _ request _ => some request
  | _ => none

/-- The response that was taken from a stream, if one came. -/
def response? : Traffic κ → Option DiscoveryResponse
  | .received _ (.value response) => some response
  | _ => none

/-- The requests on streams in a record, in order. -/
def requests (record : List (Traffic κ)) : List DiscoveryRequest := record.filterMap request?

/-- The responses from streams in a record, in order. -/
def responses (record : List (Traffic κ)) : List DiscoveryResponse := record.filterMap response?

@[simp] theorem requests_sent_cons (connection : κ) (request : DiscoveryRequest)
    (reply : Reply Unit) (record : List (Traffic κ)) :
    requests (.sent connection request reply :: record) = request :: requests record := rfl

@[simp] theorem responses_sent_cons (connection : κ) (request : DiscoveryRequest)
    (reply : Reply Unit) (record : List (Traffic κ)) :
    responses (.sent connection request reply :: record) = responses record := rfl

@[simp] theorem requests_append (r s : List (Traffic κ)) :
    requests (r ++ s) = requests r ++ requests s := List.filterMap_append

@[simp] theorem responses_append (r s : List (Traffic κ)) :
    responses (r ++ s) = responses r ++ responses s := List.filterMap_append

end Traffic

namespace Network

variable {σ κ α : Type}

/-- Asks a network for something and notes the answer. -/
def noting (note : α → Traffic κ) (ask : StateM σ α) : StateM (σ × List (Traffic κ)) α :=
  fun (n, record) ↦
    let (answer, n') := ask.run n
    (answer, (n', record ++ [note answer]))

/-- The network that answers like `net` and notes everything that it is asked. -/
def recorded (net : Network σ κ) : Network (σ × List (Traffic κ)) κ where
  dial endpoint timeout := noting (.dialled endpoint) (net.dial endpoint timeout)
  send connection request timeout :=
    noting (.sent connection request) (net.send connection request timeout)
  openStream connection timeout := noting (.opened connection) (net.openStream connection timeout)
  receive connection timeout := noting (.received connection) (net.receive connection timeout)
  http method url timeout := noting (.requested method url) (net.http method url timeout)
  probe protocol address timeout :=
    noting (.probed protocol address) (net.probe protocol address timeout)
  choose turns := noting (.chose turns) (net.choose turns)

variable (net : Network σ κ) (connection : κ) (timeout : Duration) (n : σ)
  (record : List (Traffic κ))

theorem run_send_recorded (request : DiscoveryRequest) :
    (net.recorded.send connection request timeout).run (n, record) =
      let answer := (net.send connection request timeout).run n
      (answer.1, (answer.2, record ++ [.sent connection request answer.1])) := rfl

theorem run_openStream_recorded :
    (net.recorded.openStream connection timeout).run (n, record) =
      let answer := (net.openStream connection timeout).run n
      (answer.1, (answer.2, record ++ [.opened connection answer.1])) := rfl

theorem run_receive_recorded :
    (net.recorded.receive connection timeout).run (n, record) =
      let answer := (net.receive connection timeout).run n
      (answer.1, (answer.2, record ++ [.received connection answer.1])) := rfl

/-- A network with one peer that does not listen: it accepts everything, says on its streams one
thing after another whatever it is sent, and gives the same body in response to all HTTP requests.
-/
def monologue (body : Wire.Bytes) : Network (List (Reply DiscoveryResponse)) Unit where
  dial _ _ := pure [.finished (.connected ()), .checked]
  send _ _ _ := pure (.value ())
  openStream _ _ := pure (.value ())
  receive _ _ := fun
    | [] => (.silence, [])
    | reply :: replies => (reply, replies)
  http _ _ _ := pure (some ⟨200, body⟩)
  probe _ _ _ := pure false
  choose _ := pure 0

end Network

end MeshSurvey
