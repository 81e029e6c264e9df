import MediaTelemetry.Fault
import MediaTelemetry.Request
import MediaTelemetry.Settings

/-!
# The schedule of requests

When snapshots are asked for. A running schedule has one due time; when that has come it queues a
request and is due again one interval later. Requests wait only while the schedule runs, so
stopping drops them. Starts are counted and numbers are never used twice.
-/

namespace MediaTelemetry

/-- What a schedule does at present. -/
inductive Phase where
  | idle
  /-- The next tick is due at `due`; `waiting` are the requests not yet handed out. -/
  | running (due : Nat) (waiting : List Request)
deriving DecidableEq, Inhabited

/-- When snapshots are asked for. -/
structure Schedule where
  phase : Phase := .idle
  /-- Starts so far. -/
  generation : Nat := 0
  /-- The number of the next request. -/
  nextNumber : Nat := 0
deriving DecidableEq, Inhabited

namespace Schedule

/-- The schedule runs. -/
def isRunning (s : Schedule) : Bool :=
  match s.phase with
  | .idle => false
  | .running .. => true

/-- When the next tick is due. -/
def due? (s : Schedule) : Option Nat :=
  match s.phase with
  | .idle => none
  | .running due _ => some due

/-- The requests not yet handed out. -/
def waiting (s : Schedule) : List Request :=
  match s.phase with
  | .idle => []
  | .running _ waiting => waiting

/-- Starts a run whose first tick is due at `now`. -/
def start (s : Schedule) (now : Nat) : Except Fault Schedule :=
  if s.isRunning then .error .alreadyStarted
  else .ok { s with phase := .running now [], generation := s.generation + 1 }

/-- Ends the run. -/
def stop (s : Schedule) : Except Fault Schedule :=
  if s.isRunning then .ok { s with phase := .idle } else .error .notStarted

/-- Ends the run, if there is one. -/
def close (s : Schedule) : Schedule := { s with phase := .idle }

/-- Looks at the clock: a tick that is due queues its request. -/
def tick (s : Schedule) (interval now : Nat) : Schedule :=
  match s.phase with
  | .idle => s
  | .running due waiting =>
    if now < due then s
    else
      { s with
        phase := .running (now + interval) (waiting ++ [⟨s.generation, s.nextNumber⟩])
        nextNumber := s.nextNumber + 1 }

/-- The request to hand out next. -/
def next? (s : Schedule) : Option Request := s.waiting.head?

/-- The schedule after handing out a request. -/
def handOut (s : Schedule) : Schedule :=
  match s.phase with
  | .idle => s
  | .running due waiting => { s with phase := .running due waiting.tail }

end Schedule

end MediaTelemetry
