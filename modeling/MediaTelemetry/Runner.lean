import MediaTelemetry.Meter

/-!
# Running a meter beside its fetches

A runner owns a meter while others work beside it: a handle that sends commands, fetches that bring
samples when they are done, and a receiver of notices. Commands and samples wait in queues in the
order in which they arrived. When the runner gets its turn it first looks at the clock, then takes
what waits: all commands before any sample, and all samples before it waits again. After each of
them it hands out requests and passes on notices. It ends when its meter stops or its handle is
dropped. A turn is over after as many things as its limit allows, so that a long queue does not keep
others from theirs.

The order of everything that happens around the runner is a list of `Runner.Move`.
-/

namespace MediaTelemetry

/-- How far a runner has come. -/
inductive Runner.Stage where
  /-- It has not had a turn. -/
  | fresh
  /-- It waits for commands, samples and the clock. -/
  | waiting
  /-- It took all that one turn allows and is to have another. -/
  | yielded
  | finished
deriving DecidableEq, Inhabited

/-- A meter at work. -/
structure Runner where
  meter : Meter
  stage : Runner.Stage := .fresh
  /-- Commands sent and not yet taken, oldest first. -/
  commands : List Command := []
  /-- No further command can come. -/
  dropped : Bool := false
  /-- Samples fetched and not yet taken, oldest first. -/
  samples : List Sample := []
  /-- Requests whose fetches are still to be begun, oldest first. -/
  launched : List Request := []
  /-- Notices passed on, oldest first. -/
  delivered : List Notice := []
  journal : List Remark := []

namespace Runner

/-- The runner has ended. -/
def isFinished (r : Runner) : Bool := r.stage == .finished

/-- How many commands and samples wait. -/
def waiting (r : Runner) : Nat := r.commands.length + r.samples.length

/-- The runner has something to do at this moment. -/
def isAwaited (r : Runner) : Bool :=
  match r.stage with
  | .fresh | .yielded => true
  | .waiting => 0 < r.waiting || r.dropped
  | .finished => false

/-- Writes into the journal. -/
def write (r : Runner) (remarks : List Remark) : Runner :=
  { r with journal := r.journal ++ remarks }

/-- Performs an operation on the meter. -/
def perform (r : Runner) (op : Meter.Op) : Runner :=
  { r with meter := r.meter.step op, journal := r.journal ++ r.meter.remarks op }

/-- Begins the fetch for a request, unless the connection cannot be sampled. -/
def dispatch (connection : Connection) (r : Runner) (request : Request) : Runner :=
  let r := r.perform .nextRequest
  if connection.canSample then { r with launched := r.launched ++ [request] }
  else r.write [.fetchSkipped request connection]

/-- Passes on all notices. -/
def forward (r : Runner) : Runner :=
  { r with
    delivered := r.delivered ++ r.meter.notices
    meter := { r.meter with notices := [] } }

/-- Ends: the meter is closed, its last notices are passed on and nothing waiting is taken any
more. -/
def finish (r : Runner) : Runner := { (r.perform .close).forward with stage := .finished }

/-- What happens between two things taken: a tick that is due, requests handed out, notices passed
on. A meter that does not run ends the runner. -/
def refresh (connection : Connection) (now : Nat) (r : Runner) : Runner :=
  let r := r.perform (.timeout now)
  let r := (r.meter.schedule.waiting.foldl (dispatch connection) r).forward
  if r.meter.isRunning then { r with stage := .waiting } else r.finish

/-- Takes one thing that waits, unless the runner has ended. -/
def takeOne (connection : Connection) (now : Nat) (r : Runner) (op : Meter.Op) : Runner :=
  if r.isFinished then r else (r.perform op).refresh connection now

/-- Takes the first `limit` commands. -/
def takeCommands (connection : Connection) (now limit : Nat) (r : Runner) : Runner :=
  ((r.commands.take limit).map Meter.Op.command).foldl (takeOne connection now)
    { r with commands := r.commands.drop limit }

/-- Takes the first `limit` samples. -/
def takeSamples (connection : Connection) (now limit : Nat) (r : Runner) : Runner :=
  ((r.samples.take limit).map Meter.Op.read).foldl (takeOne connection now)
    { r with samples := r.samples.drop limit }

/-- Takes the first `limit` things that wait. Commands come first; when none is left and no further
one can come, the runner ends instead of taking samples. -/
def takeWaiting (connection : Connection) (now limit : Nat) (r : Runner) : Runner :=
  let left := limit - r.commands.length
  let r := r.takeCommands connection now limit
  if r.isFinished || left == 0 then r
  else if r.dropped then (r.write [.handleDropped]).finish
  else r.takeSamples connection now left

/-- The runner's turn. A runner that waited takes something before it looks at the clock. After
`limit` commands and samples it yields, even if nothing is left. -/
def turn (connection : Connection) (now limit : Nat) (r : Runner) : Runner :=
  if r.isFinished then r
  else
    let yields := limit ≤ r.waiting
    let r := if r.stage = .fresh then r.refresh connection now else r
    let r := r.takeWaiting connection now limit
    if r.isFinished then r
    else
      let r := r.refresh connection now
      if yields && !r.isFinished then { r with stage := .yielded } else r

/-- Something that happens around a runner. -/
inductive Move where
  /-- The handle sends a command. -/
  | send (c : Command)
  /-- The handle is dropped. -/
  | drop
  /-- A fetch ends. -/
  | fetched (request : Request) (time : Nat) (outcome : Except Fault Snapshot)
  /-- The runner gets its turn, in which it takes at most `limit` things. -/
  | turn (connection : Connection) (now limit : Nat)

/-- A fetch ends: a snapshot waits to be taken if the runner still goes on, a failure is only
remarked. -/
def fetched (r : Runner) (request : Request) (time : Nat) : Except Fault Snapshot → Runner
  | .ok snapshot =>
    if r.isFinished then r.write [.sampleAbandoned request]
    else { r with samples := r.samples ++ [⟨request, time, snapshot⟩] }
  | .error fault => r.write [.fetchFailed request fault]

/-- The runner after a move. -/
def step (r : Runner) : Move → Runner
  | .send c => if r.isFinished then r else { r with commands := r.commands ++ [c] }
  | .drop => { r with dropped := true }
  | .fetched request time outcome => r.fetched request time outcome
  | .turn connection now limit => r.turn connection now limit

end Runner

end MediaTelemetry
