import MediaTelemetry.Measurement

/-!
# Remarks of a sample

What is remarked while a sample is taken, in the order of its stages.
-/

namespace MediaTelemetry

/-- What is remarked while the far end's reports are judged. -/
def Monitor.remarksAll (ledger : Ledger) : Monitor → List FarReport → List Remark :=
  narrate (fun u r ↦ u.next ledger r) fun u r ↦ (u.remarks u.state ledger r).map .uplink

/-- What is remarked on a line that is left out of a quality report. -/
def Window.remarks (w : Window) (line : Line) (e : Entry) : List Remark :=
  if w.misses e then [.notSeen line]
  else if e.notes.isRequestedAt w.now w.recency then []
  else [.notRequested line]

/-- What is remarked while a quality report is made. -/
def Window.remarksOver (w : Window) (ledger : Ledger) : List Remark :=
  ledger.entries.flatMap fun (line, e) ↦ w.remarks line e

namespace Measurement

/-- What is remarked on the quality report of a sample. -/
def qualityRemarks (m : Measurement) (c : Settings) (d : Host) (p : Pass) : List Remark :=
  if p.closes then
    let w := m.qualityWindow c d p
    w.remarksOver p.noted ++
      (if (w.report p.noted).isEmpty then [.emptyWindow p.tick] else []) ++ [.qualityReported]
  else []

/-- What is remarked while the sample for `request` is taken. -/
def remarks (m : Measurement) (c : Settings) (d : Host) (request : Request) (now : Nat)
    (snapshot : Snapshot) : List Remark :=
  let p := m.pass c now snapshot
  [.processing request p.tick] ++
    Ledger.sweepRemarks c.lossThreshold m.ledger snapshot p.tick ++
    (if p.address = m.address then [] else [.addressChanged p.address]) ++
    m.monitor.remarksAll p.swept p.sweep.remoteReports ++
    (m.flows.changes p.live).map (fun (g, change) ↦ .flow g change) ++
    p.watch.remarksAll p.rated ++
    m.qualityRemarks c d p

end Measurement

end MediaTelemetry
