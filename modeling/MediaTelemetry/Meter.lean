import MediaTelemetry.Measurement.Remarks
import MediaTelemetry.Schedule

/-!
# Meters

A meter joins a schedule, which asks for snapshots, and a measurement, which takes them in. The two
halves do not see each other: what links them is only which samples are accepted. A sample counts
if the run that asked for it still goes on and no sample with its number or a later one has been
taken.

`Meter.step`, `Meter.reply` and `Meter.remarks` describe the effect of one operation on the state,
to its caller and on the journal.
-/

namespace MediaTelemetry

/-- A snapshot that answers a request. -/
structure Sample where
  request : Request
  /-- When the snapshot was taken, in milliseconds of the clock. -/
  time : Nat
  snapshot : Snapshot
deriving Inhabited

/-- What the application asks of a meter while it runs. -/
inductive Command where
  | expect (status : Status)
  | stop
deriving DecidableEq, Inhabited

/-- A meter. -/
structure Meter where
  settings : Settings
  host : Host := {}
  schedule : Schedule := {}
  measurement : Measurement := { monitor := .threshold settings.limits }
  /-- The number of the last sample taken. -/
  lastTaken : Option Nat := none
  /-- What is still to be told, oldest first. -/
  notices : List Notice := []

/-- An operation on a meter. -/
inductive Meter.Op where
  | start (now : Nat)
  | stop
  | close
  | command (c : Command)
  | expect (status : Status)
  | timeout (now : Nat)
  | nextRequest
  | read (sample : Sample)
  | nextNotice

/-- What an operation answers. -/
inductive Meter.Reply where
  | done
  | refused (fault : Fault)
  | request (r : Option Request)
  | notice (n : Option Notice)

namespace Meter

/-- A meter with settings that pass the check. Unless told otherwise it knows nothing of its host
and judges by the limits that the settings give. -/
def new (settings : Settings) (host : Host := {})
    (monitor : Monitor := .threshold settings.limits) : Except Fault Meter :=
  settings.check.map fun settings ↦ { settings, host, measurement := { monitor } }

/-- The meter runs. -/
def isRunning (m : Meter) : Bool := m.schedule.isRunning

/-! ### Accepting samples -/

/-- The request belongs to the run going on. -/
def isCurrent (m : Meter) (r : Request) : Bool :=
  m.isRunning && r.generation == m.schedule.generation

/-- No sample with the request's number or a later one has been taken. -/
def isInOrder (m : Meter) (r : Request) : Bool := m.lastTaken.all (· < r.number)

/-- The sample for the request is taken. -/
def accepts (m : Meter) (r : Request) : Bool := m.isCurrent r && m.isInOrder r

/-- Takes in a sample, if it is accepted. -/
def read (m : Meter) (s : Sample) : Meter :=
  if m.accepts s.request then
    { m with
      measurement := m.measurement.take m.settings s.time s.snapshot
      lastTaken := some s.request.number
      notices := m.notices ++ m.measurement.told m.settings m.host s.time s.snapshot }
  else m

/-! ### Operations -/

/-- Changes which media are expected. -/
def expect (m : Meter) (status : Status) : Meter :=
  { m with measurement := { m.measurement with status } }

/-- The outcome of an operation on the schedule that may be refused. -/
def scheduled (m : Meter) : Except Fault Schedule → Meter
  | .ok schedule => { m with schedule }
  | .error _ => m

/-- What such an operation answers. -/
def Reply.ofSchedule : Except Fault Schedule → Reply
  | .ok _ => .done
  | .error fault => .refused fault

/-- The meter after an operation. -/
def step (m : Meter) : Op → Meter
  | .start now => m.scheduled (m.schedule.start now)
  | .stop => m.scheduled m.schedule.stop
  | .close => { m with schedule := m.schedule.close }
  | .command (.expect status) => m.expect status
  | .command .stop => m.scheduled m.schedule.stop
  | .expect status => m.expect status
  | .timeout now => { m with schedule := m.schedule.tick m.settings.interval now }
  | .nextRequest => { m with schedule := m.schedule.handOut }
  | .read s => m.read s
  | .nextNotice => { m with notices := m.notices.tail }

/-- What an operation answers. -/
def reply (m : Meter) : Op → Reply
  | .start now => .ofSchedule (m.schedule.start now)
  | .stop => .ofSchedule m.schedule.stop
  | .command .stop => .ofSchedule m.schedule.stop
  | .nextRequest => .request m.schedule.next?
  | .nextNotice => .notice m.notices.head?
  | _ => .done

/-- What is remarked when a run ends. -/
def stopRemarks (m : Meter) : List Remark := if m.isRunning then [.stopped] else []

/-- What is remarked on a sample. -/
def readRemarks (m : Meter) (s : Sample) : List Remark :=
  if !m.isCurrent s.request then [.staleSample s.request]
  else if !m.isInOrder s.request then [.lateSample s.request]
  else m.measurement.remarks m.settings m.host s.request s.time s.snapshot

/-- What is remarked on an operation. -/
def remarks (m : Meter) : Op → List Remark
  | .start _ => if m.isRunning then [] else [.started m.settings.tick m.settings.window]
  | .stop | .close | .command .stop => m.stopRemarks
  | .command (.expect status) | .expect status => [.statusUpdated status]
  | .read s => m.readRemarks s
  | .timeout _ | .nextRequest | .nextNotice => []

/-- The meter after several operations. -/
def run (m : Meter) (ops : List Op) : Meter := ops.foldl step m

end Meter

end MediaTelemetry
