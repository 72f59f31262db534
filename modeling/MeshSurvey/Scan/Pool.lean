/-!
# Pools of probes

A pool works off a list of targets. A dispatcher takes one target after another and starts a probe
of it, as long as fewer probes than a limit are in flight. A probe settles on whether its target is
open; one that is puts the target into a channel, where it waits while the channel is full. A reader
takes targets out of the channel. A probe is in flight until it is done with the channel.

The reader may leave at any time. From then on nothing waits for the channel any more, the
dispatcher may stop, and probes may stop without settling.

Who takes the next turn is left open: a pool only says which turns are possible.
-/

namespace MeshSurvey

/-- A probe in flight. -/
inductive Probe (α : Type) where
  /-- It has not settled yet. -/
  | unsettled (target : α)
  /-- Its target is open and goes into the channel next. -/
  | reporting (target : α)
  deriving DecidableEq, Repr

/-- The state of a pool. -/
structure Pool (α : Type) where
  /-- The targets that are not probed yet. -/
  waiting : List α
  /-- The probes in flight. -/
  inFlight : List (Probe α) := []
  /-- The open targets that nobody has read yet. -/
  channel : List α := []
  /-- The targets that the reader has got. -/
  delivered : List α := []
  /-- Whether the reader has left. -/
  abandoned : Bool := false
  deriving DecidableEq, Repr

/-- A turn in a pool. -/
inductive PoolMove where
  /-- The dispatcher starts the next probe. -/
  | dispatch
  /-- The dispatcher stops. -/
  | stopDispatch
  /-- The probe at a position settles on whether its target is open. -/
  | settle (position : Nat) (isOpen : Bool)
  /-- The probe at a position is done with the channel. -/
  | report (position : Nat)
  /-- The probe at a position stops without settling. -/
  | stop (position : Nat)
  /-- The reader takes a target. -/
  | read
  /-- The reader leaves. -/
  | leave
  deriving DecidableEq, Repr

namespace Pool

variable {α : Type}

/-- A pool before its first turn. -/
def start (targets : List α) : Pool α := { waiting := targets }

/-- The pool without the probe at a position. -/
def drop (p : Pool α) (position : Nat) : Pool α :=
  { p with inFlight := p.inFlight.eraseIdx position }

/-- The pool after a turn, if the turn is possible with a given limit. The limit bounds both the
probes in flight and the channel. -/
def step? (limit : Nat) (p : Pool α) : PoolMove → Option (Pool α)
  | .dispatch =>
    match p.waiting with
    | target :: targets =>
      if p.inFlight.length < limit then
        some { p with waiting := targets, inFlight := p.inFlight ++ [.unsettled target] }
      else none
    | [] => none
  | .stopDispatch => if p.abandoned then some { p with waiting := [] } else none
  | .settle position isOpen =>
    match p.inFlight[position]? with
    | some (.unsettled target) =>
      if isOpen then some { p with inFlight := p.inFlight.set position (.reporting target) }
      else some (p.drop position)
    | _ => none
  | .report position =>
    match p.inFlight[position]? with
    | some (.reporting target) =>
      if p.abandoned then some (p.drop position)
      else if p.channel.length < limit then
        some { p.drop position with channel := p.channel ++ [target] }
      else none
    | _ => none
  | .stop position =>
    match p.inFlight[position]? with
    | some (.unsettled _) => if p.abandoned then some (p.drop position) else none
    | _ => none
  | .read =>
    match p.channel with
    | target :: targets =>
      if p.abandoned then none
      else some { p with channel := targets, delivered := p.delivered ++ [target] }
    | [] => none
  | .leave => if p.abandoned then none else some { p with channel := [], abandoned := true }

/-- Whether every target has been probed. -/
def isIdle (p : Pool α) : Bool := p.waiting.isEmpty && p.inFlight.isEmpty

/-- Whether there is nothing left to read and never will be. -/
def isFinished (p : Pool α) : Bool := p.isIdle && p.channel.isEmpty

/-- How many turns a probe has left at most. -/
def probeWork : Probe α → Nat
  | .unsettled _ => 3
  | .reporting _ => 2

/-- How many turns the probes in flight have left at most. -/
def probesWork : List (Probe α) → Nat
  | [] => 0
  | probe :: probes => probeWork probe + probesWork probes

/-- How many turns a pool with a reader has left at most. -/
def work (p : Pool α) : Nat :=
  4 * p.waiting.length + probesWork p.inFlight + p.channel.length

/-! ## The turns that are possible -/

/-- A turn of a pool with a reader, before it is known how a probe settles. -/
inductive Turn (α : Type) where
  /-- A turn whose effect is known. -/
  | move (move : PoolMove)
  /-- The probe at a position settles. -/
  | settle (position : Nat) (target : α)

/-- The turn of the probe at a position, unless it waits for the channel. -/
def probeTurn? (channelIsFull : Bool) (position : Nat) : Probe α → Option (Turn α)
  | .unsettled target => some (.settle position target)
  | .reporting _ => if channelIsFull then none else some (.move (.report position))

/-- The turns that are possible while the reader is there. -/
def turns (limit : Nat) (p : Pool α) : List (Turn α) :=
  (if !p.waiting.isEmpty && p.inFlight.length < limit then [.move .dispatch] else []) ++
    ((p.inFlight.zipIdx).filterMap fun (probe, position) ↦
      probeTurn? (limit ≤ p.channel.length) position probe) ++
    if p.channel.isEmpty then [] else [.move .read]

end Pool

end MeshSurvey
