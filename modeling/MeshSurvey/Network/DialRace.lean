import MeshSurvey.Failure

/-!
# The race of a dial

While a connection is being set up, three things may happen in any order: the timer of the deadline
fires, sockets fail, and the attempt as a whole finishes. The caller looks at the three from time to
time, always in this order of precedence. Of the failed sockets only the first is remembered; the
attempt leaves a socket's failure behind before it goes on or finishes.

Should nothing else decide the race, the timer does in the end. So a dial always has an outcome.
-/

namespace MeshSurvey

/-- How an attempt to connect finishes. -/
inductive DialResult (κ : Type) where
  /-- There is a connection. -/
  | connected (connection : κ)
  /-- A handshake failed. -/
  | handshakeFailed
  /-- The attempt broke down. -/
  | crashed (reason : String)

/-- Something that happens during a dial. -/
inductive DialEvent (κ : Type) where
  /-- The timer fires. -/
  | timerFired
  /-- The clock passes the deadline. The timer may be late. -/
  | deadlinePassed
  /-- A socket cannot be connected. -/
  | socketFailed (reason : String)
  /-- The attempt finishes. -/
  | finished (result : DialResult κ)
  /-- The caller looks at what has happened. -/
  | checked

/-- What has happened in a dial so far. -/
structure DialRace (κ : Type) where
  /-- Whether the timer has fired. -/
  timerFired : Bool := false
  /-- Whether the clock has passed the deadline. -/
  deadlinePassed : Bool := false
  /-- Why the first failed socket failed. -/
  socketFailure : Option String := none
  /-- How the attempt finished. -/
  result : Option (DialResult κ) := none

namespace DialRace

variable {κ : Type}

/-- What has happened after one more event. Looking changes nothing. -/
def record (race : DialRace κ) : DialEvent κ → DialRace κ
  | .timerFired => { race with timerFired := true }
  | .deadlinePassed => { race with deadlinePassed := true }
  | .socketFailed reason => { race with socketFailure := race.socketFailure.or (some reason) }
  | .finished result => { race with result := race.result.or (some result) }
  | .checked => race

/-- What the caller sees when it looks, if the race is decided. A connection that comes after the
deadline is too late. -/
def check (address : String) (timeout : Duration) (race : DialRace κ) :
    Option (Except Failure κ) :=
  if race.timerFired then some (.error (.deadlineExceeded address timeout))
  else match race.socketFailure, race.result with
    | some reason, _ => some (.error (.dial address reason))
    | none, some (.connected connection) =>
      if race.deadlinePassed then some (.error (.deadlineExceeded address timeout))
      else some (.ok connection)
    | none, some .handshakeFailed => some (.error (.transport address))
    | none, some (.crashed reason) => some (.error (.io reason))
    | none, none => none

/-- The outcome of a race in which the given events are still to come. -/
def outcome (address : String) (timeout : Duration) : DialRace κ → List (DialEvent κ) →
    Except Failure κ
  | _, [] => .error (.deadlineExceeded address timeout)
  | race, .checked :: events =>
    match race.check address timeout with
    | some result => result
    | none => outcome address timeout race events
  | race, event :: events => outcome address timeout (race.record event) events

end DialRace

end MeshSurvey
