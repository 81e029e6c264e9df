import MediaTelemetry.Silence
import MediaTelemetry.Sweep.Remarks

/-!
# Measurement

What a meter knows from the samples it has taken. `Measurement.take` takes in one snapshot in
stages: it is swept into the ledger, the path in use is noted, the far end's reports are judged,
rates are set against the previous sample, groups that start or stop are announced, silent lines
are noted, and a quality window that has run its time is reported. `Measurement.Pass` names what
each stage leaves behind.

Nothing here depends on when samples were asked for, only on their times and contents.
-/

namespace MediaTelemetry

/-- Everything known from samples. -/
structure Measurement where
  ledger : Ledger := ∅
  flows : Flows := .initial
  /-- Who judges the far end's reports. -/
  monitor : Monitor
  /-- The mark of the previous sample. -/
  previous : Option Mark := none
  /-- The mark at the end of the last reported quality window. -/
  reported : Option Mark := none
  /-- The time at which the open quality window started. -/
  windowStart : Option Nat := none
  /-- Samples taken. -/
  ticks : Nat := 0
  status : Status := {}
  /-- The local address of the path in use; empty until one is known. -/
  address : String := ""
  transport : Transport := .udp

namespace Measurement

/-- What the stages of taking a sample leave behind. -/
structure Pass where
  tick : Nat
  now : Nat
  /-- The time at which the quality window of the sample started. -/
  windowStart : Nat
  /-- The ledger with the snapshot swept in. -/
  swept : Ledger
  sweep : Sweep
  address : String
  transport : Transport
  monitor : Monitor
  verdicts : List Verdict
  /-- The ledger with rates since the previous sample. -/
  rated : Ledger
  /-- The groups that are live. -/
  live : Group → Bool
  watch : Watch
  /-- The ledger with silent lines noted. -/
  noted : Ledger
  /-- The length of the quality window so far. -/
  window : Span
  /-- The quality window is reported at this sample. -/
  closes : Bool

/-- A window of length `span` closes at the sample nearest to its nominal end: when at most half an
interval is missing. -/
def closesWindow (c : Settings) (span : Span) : Bool :=
  2 * c.qualityInterval ≤ 2 * span.millis + c.interval

/-- The stages of taking a snapshot at `now`. The first sample is taken to cover one interval. -/
def pass (m : Measurement) (c : Settings) (now : Nat) (snapshot : Snapshot) : Pass :=
  let tick := m.ticks + 1
  let windowStart := m.windowStart.getD (now - c.interval)
  let (swept, sweep) := Ledger.sweep m.ledger snapshot tick
  let (monitor, verdicts) := m.monitor.judgeAll swept sweep.remoteReports
  let sincePrevious := elapsedSince (m.previous.map (·.time)) now c.tick
  let rated := Ledger.setTickRates swept sweep.seen m.previous sincePrevious
  let watch : Watch := ⟨m.status, tick, now, c.recency, m.previous⟩
  let window := elapsedSince (some windowStart) now c.tick
  { tick, now, windowStart, swept, sweep
    address := (sweep.path.map (·.address)).getD m.address
    transport := (sweep.path.bind (·.transport)).getD m.transport
    monitor, verdicts, rated
    live := Ledger.isLive rated m.previous fun _ e ↦ e.notes.isActiveAt now c.recency
    watch
    noted := watch.noteAll rated
    window
    closes := closesWindow c window }

/-- The quality window that a sample may close, with what the host shows then. -/
def qualityWindow (m : Measurement) (c : Settings) (d : Host) (p : Pass) : Window where
  start := m.reported
  span := p.window
  transport := p.transport
  address := p.address
  now := p.now
  recency := c.recency
  display := d.display p.tick

/-- The quality report of a sample that closes the window. -/
def report? (m : Measurement) (c : Settings) (d : Host) (p : Pass) : Option QualityReport :=
  if p.closes then some ((m.qualityWindow c d p).report p.noted) else none

/-- What is told about a sample: verdicts, then groups that start or stop, then the quality report.
-/
def notices (m : Measurement) (c : Settings) (d : Host) (p : Pass) : List Notice :=
  p.verdicts.map .uplink ++
    (m.flows.changes p.live).map (fun (g, change) ↦ .flow g change) ++
    (m.report? c d p).toList.map .quality

/-- The ledger after a sample; a reported window takes its samples with it. -/
def closed (p : Pass) : Ledger :=
  if p.closes then p.noted.map fun _ e ↦ { e with notes := e.notes.clearSamples } else p.noted

/-- What is known after a sample. -/
def after (m : Measurement) (p : Pass) : Measurement where
  ledger := closed p
  flows := m.flows.next p.live
  monitor := p.monitor
  previous := some (Ledger.mark (closed p) p.tick p.now)
  reported := if p.closes then some (Ledger.mark p.noted p.tick p.now) else m.reported
  windowStart := some (if p.closes then p.now else p.windowStart)
  ticks := p.tick
  status := m.status
  address := p.address
  transport := p.transport

/-- Takes in a snapshot taken at `now`. -/
def take (m : Measurement) (c : Settings) (now : Nat) (snapshot : Snapshot) : Measurement :=
  m.after (m.pass c now snapshot)

/-- What is told about a snapshot taken at `now`. -/
def told (m : Measurement) (c : Settings) (d : Host) (now : Nat) (snapshot : Snapshot) :
    List Notice :=
  m.notices c d (m.pass c now snapshot)

end Measurement

end MediaTelemetry
