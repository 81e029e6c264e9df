import MediaTelemetry.Ledger
import MediaTelemetry.Settings

/-!
# Uplink quality

Every report of the far end about a send line is put before a monitor, which may give a verdict on
it (`Monitor`). A monitor is a state and what it makes of one more report; any other may take the
place of the usual one, `Monitor.threshold`. That one calls an uplink bad when loss, round trip time
or jitter is above its limit, does not hold a missing indicator against the line, and gives a
verdict only when the score of the line changes.
-/

namespace MediaTelemetry

/-- The score of an uplink. The usual ones are zero and one; a monitor may have others. -/
structure Score where
  value : UInt8
deriving DecidableEq, Inhabited

namespace Score

/-- The score of an uplink that is above a limit. -/
def bad : Score := ⟨0⟩

/-- The score of an uplink within all limits. -/
def good : Score := ⟨1⟩

@[simp] theorem good_ne_bad : good ≠ bad := by decide

/-- The written score. -/
def toNat (s : Score) : Nat := s.value.toNat

end Score

/-- The score that a monitor gives a line. -/
structure Verdict where
  line : Line
  score : Score
deriving DecidableEq, Inhabited

/-- What a monitor writes into the journal. -/
inductive UplinkRemark where
  | judged (line : Line) (score : Score)
  | changed (verdict : Verdict)
deriving Inhabited

/-! ### Monitors -/

/-- A report of the far end with the line that it is about. -/
abbrev FarReport := Line × RemoteInboundRtp

/-- Who judges the reports of the far end. It is shown the ledger that they were taken into. -/
structure Monitor where
  /-- What it keeps from one report to the next. -/
  State : Type
  state : State
  judge : State → Ledger → FarReport → State × Option Verdict
  remarks : State → Ledger → FarReport → List UplinkRemark

namespace Monitor

/-- The monitor after one more report. -/
def next (u : Monitor) (ledger : Ledger) (r : FarReport) : Monitor :=
  { u with state := (u.judge u.state ledger r).1 }

/-- The verdict on a report, if one is given. -/
def verdict? (u : Monitor) (ledger : Ledger) (r : FarReport) : Option Verdict :=
  (u.judge u.state ledger r).2

/-- Judges the reports of a sweep in order, with the ledger they were taken into. -/
def judgeAll (u : Monitor) (ledger : Ledger) : List FarReport → Monitor × List Verdict
  | [] => (u, [])
  | r :: rest =>
    let (after, verdicts) := judgeAll (u.next ledger r) ledger rest
    (after, (u.verdict? ledger r).toList ++ verdicts)

end Monitor

/-! ### Limits -/

/-- What a score is based on. -/
structure Indicators where
  /-- Percent. -/
  loss : Option Float
  /-- Milliseconds. -/
  roundTrip : Option Float
  /-- Milliseconds. -/
  jitter : Option Float
deriving Inhabited

/-- The indicators of a report about a line. The loss known for the line stands before the loss
that the report itself gives, once anything has been counted on the line. -/
def Indicators.of (ledger : Ledger) (line : Line) (r : RemoteInboundRtp) : Indicators where
  loss :=
    let known := (ledger.get? line).bind (·.send) |>.filter fun s ↦ 0 < s.reports || 0 < s.packets
    (known.map fun s ↦ s.loss.current * 100.0).or (r.fractionLost.map (· * 100.0))
  roundTrip := r.roundTripTime.map (· * 1000.0)
  jitter := r.jitter.map (· * 1000.0)

/-- The limits of good uplinks. -/
structure Limits where
  /-- Percent. -/
  loss : Float
  /-- Milliseconds. -/
  roundTrip : Float
  /-- Milliseconds. -/
  jitter : Float

/-- The limits that settings give. -/
def Settings.limits (s : Settings) : Limits where
  loss := s.lossThreshold
  roundTrip := Float.ofNat s.roundTripThreshold
  jitter := Float.ofNat s.jitterThreshold

/-- A value that is there and above the limit. -/
def exceeds (value : Option Float) (limit : Float) : Bool := value.any fun v ↦ v > limit

/-- The score of indicators. -/
def Limits.score (l : Limits) (i : Indicators) : Score :=
  if exceeds i.loss l.loss || exceeds i.roundTrip l.roundTrip || exceeds i.jitter l.jitter then .bad
  else .good

/-- The last score of every line that was judged. -/
abbrev Scores := KeyMap Line Score

namespace Scores

/-- Records a score. -/
def record (s : Scores) (line : Line) (score : Score) : Scores := s.insert line score

/-- The verdict on a new score: none if it is the one before. -/
def verdict? (s : Scores) (line : Line) (score : Score) : Option Verdict :=
  if s.get? line = some score then none else some ⟨line, score⟩

end Scores

/-- The monitor that scores by limits and keeps the last scores. -/
def Monitor.threshold (l : Limits) (scores : Scores := ∅) : Monitor where
  State := Scores
  state := scores
  judge s ledger r :=
    let score := l.score (.of ledger r.1 r.2)
    (s.record r.1 score, s.verdict? r.1 score)
  remarks s ledger r :=
    let score := l.score (.of ledger r.1 r.2)
    .judged r.1 score :: ((s.verdict? r.1 score).map .changed).toList

end MediaTelemetry
