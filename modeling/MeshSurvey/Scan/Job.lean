import MeshSurvey.Address.HostPort
import MeshSurvey.Network.Basic
import MeshSurvey.Scan.Pool

/-!
# Scans

A scan probes every port of every host and yields the addresses that are open, in the order in which
they turn out to be. At most so many probes are in flight at a time, and at least one.
-/

namespace MeshSurvey

/-- What is to be scanned, and how. -/
structure ScanJob where
  hosts : List String
  /-- The ports of each host. -/
  ports : List UInt16
  /-- How an address is probed. -/
  protocol : ScanProtocol
  /-- How many probes are wanted at a time. A semaphore counts them: a scan that wants more
  than its limit is refused before it starts, and so no such scan is described here. -/
  concurrency : Nat := 256
  /-- The time allowed for a probe. -/
  timeout : Duration := .seconds 1
  deriving DecidableEq, Repr

namespace ScanJob

/-- The addresses to probe: host by host, and port by port of each. -/
def addresses (job : ScanJob) : List String :=
  job.hosts.flatMap fun host ↦ job.ports.map (HostPort.join host)

/-- How many probes may be in flight. -/
def limit (job : ScanJob) : Nat := max job.concurrency 1

theorem limit_pos (job : ScanJob) : 0 < job.limit :=
  Nat.lt_of_lt_of_le Nat.one_pos (Nat.le_max_right ..)

variable {σ κ : Type}

/-- How a turn comes out, for which a settling probe asks the network. -/
def play (net : Network σ κ) (job : ScanJob) : Pool.Turn String → StateM σ PoolMove
  | .move move => pure move
  | .settle position address => do
    return .settle position (← net.probe job.protocol address job.timeout)

/-- Plays a number of turns, of which the network chooses each among those that are possible. -/
def playTurns (net : Network σ κ) (job : ScanJob) : Nat → Pool String → StateM σ (Pool String)
  | 0, pool => pure pool
  | bound + 1, pool =>
    match pool.turns job.limit with
    | [] => pure pool
    | first :: others => do
      let choice ← net.choose (others.length + 1)
      let move ← job.play net ((first :: others).getD choice first)
      playTurns net job bound ((pool.step? job.limit move).getD pool)

/-- The addresses that turn out to be open. -/
def run (net : Network σ κ) (job : ScanJob) : StateM σ (List String) := do
  let pool := Pool.start job.addresses
  return (← job.playTurns net pool.work pool).delivered

end ScanJob

end MeshSurvey
