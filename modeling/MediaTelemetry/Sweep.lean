import MediaTelemetry.Report
import MediaTelemetry.Snapshot

/-!
# Sweeping a snapshot into the ledger

`Ledger.sweep` takes in the reports of a snapshot line by line: media in their order, senders
before receivers, by index. Beside the ledger it finds the first resolved path, the far end's
reports about sent streams, and the lines that were seen. A line is listed in the ledger from the
first report on that says something about it.
-/

namespace MediaTelemetry

/-- What sweeping a snapshot found beside the figures of its lines. -/
structure Sweep where
  /-- The first resolved path. -/
  path : Option Path := none
  /-- The far end's reports about send lines, in sweep order. -/
  remoteReports : List (Line × RemoteInboundRtp) := []
  /-- The lines whose reports said something about them, in sweep order. -/
  seen : List Line := []
deriving Inhabited

/-- What a snapshot says about one line. -/
inductive LineReport where
  | sender (r : SenderReport)
  | receiver (r : ReceiverReport)
deriving Inhabited

namespace LineReport

/-- The fragments reported. -/
def report : LineReport → List Fragment
  | .sender r => r.report
  | .receiver r => r.report

/-- Notes what is said about the line as a whole. A sender without a track label keeps the one it
had. -/
def annotate (r : LineReport) (n : Notes) : Notes :=
  match r with
  | .sender r =>
    { n with
      requested := r.requested
      requestedAt := r.requestedAt
      trackLabel := r.trackLabel.or n.trackLabel }
  | .receiver r =>
    { n with
      requested := r.requested
      requestedAt := r.requestedAt
      activeSpeaker := r.activeSpeaker.getD false }

end LineReport

/-- The reports of one medium, each with its line. -/
def MediumReport.lines (r : MediumReport) (m : Medium) : List (Line × LineReport) :=
  (r.senders.mapIdx fun i s ↦ (.send m i, .sender s)) ++
    r.receivers.mapIdx fun i s ↦ (.receive m i, .receiver s)

/-- The reports of a snapshot in sweep order, each with its line. -/
def Snapshot.lines (s : Snapshot) : List (Line × LineReport) :=
  Medium.all.flatMap fun m ↦ (s.medium m).lines m

namespace Ledger

/-- Takes in the report of one line. -/
def takeReport (ledger : Ledger) (line : Line) (report : List Fragment) (tick : Nat) : Ledger :=
  if report.any (·.concerns line) then
    ledger.insert line ((ledger.entry line).takeReport line report tick)
  else ledger

end Ledger

namespace Sweep

/-- What one more report adds. -/
def add (s : Sweep) (line : Line) (report : List Fragment) : Sweep where
  path := s.path.or (Fragment.path? report)
  remoteReports :=
    if line.isSend then s.remoteReports ++ (Fragment.remoteInbounds report).map (line, ·)
    else s.remoteReports
  seen := if report.any (·.concerns line) then s.seen ++ [line] else s.seen

/-- Takes in what a snapshot says about one line. -/
def step (tick : Nat) (state : Ledger × Sweep) (r : Line × LineReport) : Ledger × Sweep :=
  let ledger := state.1.takeReport r.1 r.2.report tick
  (Ledger.modify ledger r.1 fun e ↦ { e with notes := r.2.annotate e.notes },
    state.2.add r.1 r.2.report)

end Sweep

/-- Takes in a snapshot as sample number `tick`. -/
def Ledger.sweep (ledger : Ledger) (snapshot : Snapshot) (tick : Nat) : Ledger × Sweep :=
  snapshot.lines.foldl (Sweep.step tick) (ledger, {})

end MediaTelemetry
