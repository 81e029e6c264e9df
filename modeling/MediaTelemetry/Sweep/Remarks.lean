import MediaTelemetry.Remark
import MediaTelemetry.Sweep

/-!
# Remarks of a sweep

What is remarked while a snapshot is swept into the ledger: fragments that their line has no use
for, candidate pairs that name no candidate, and loss above the threshold. Remarks come in report
order, those about the far end's reports last.
-/

namespace MediaTelemetry

/-- A percentage of lost packets above which a line is remarked on. -/
abbrev LossThreshold := Float

namespace Fragment

/-- What is remarked on a fragment before the far end's reports, for a line that stands at
`state.1` and a sweep whose path so far is `state.2`. -/
def localRemarks (threshold : LossThreshold) (line : Line) (candidates : List LocalCandidate)
    (state : Entry × Option Path) : Fragment → List Remark
  | .outboundRtp s => if line.isSend then [] else [.misplaced line .outbound s.id]
  | .inboundRtp s =>
    if line.isSend then [.misplaced line .inbound s.id]
    else
      let percent := ((state.1.receive.getD {}).take s).lossRatio * 100.0
      if line.medium.isVideo && percent > threshold then [.heavyLoss line percent threshold] else []
  | .candidatePair p =>
    if state.2.isSome then []
    else ((p.dangling? candidates).map (Remark.danglingPair p.id)).toList
  | _ => []

/-- What a fragment before the far end's reports leaves behind. -/
def localStep (line : Line) (candidates : List LocalCandidate) (state : Entry × Option Path) :
    Fragment → Entry × Option Path
  | .inboundRtp s => if line.isSend then state else (state.1.takeInbound s, state.2)
  | .candidatePair p => (state.1, state.2.or (p.path? candidates))
  | _ => state

/-- What is remarked on a fragment from the far end, for a line that stands at `e`. -/
def farRemarks (threshold : LossThreshold) (line : Line) (e : Entry) : Fragment → List Remark
  | .remoteInboundRtp r =>
    if line.isSend && r.packetsLost.isSome then
      let before := e.send.getD {}
      let after := before.takeRemote r
      let percent := after.loss.current * 100.0
      if percent > threshold then
        [.heavyRemoteLoss line percent after.loss.recent (before.loss.sentSince before.packets)]
      else []
    else []
  | .remoteOutboundRtp s => if line.isSend then [.misplaced line .remoteOutbound s.id] else []
  | _ => []

/-- What a fragment from the far end leaves behind. -/
def farStep (line : Line) (e : Entry) : Fragment → Entry
  | .remoteInboundRtp r => if line.isSend then e.takeRemote r else e
  | _ => e

end Fragment

/-- What is remarked on the report of a line that stands at `e`, in a sweep whose path so far is
`path`. -/
def Entry.reportRemarks (threshold : LossThreshold) (line : Line) (report : List Fragment)
    (e : Entry) (path : Option Path) : List Remark :=
  let candidates := Fragment.candidates report
  narrate (Fragment.localStep line candidates) (Fragment.localRemarks threshold line candidates)
      (e, path) report ++
    narrate (Fragment.farStep line) (Fragment.farRemarks threshold line)
      (e.takeLocal line report) report

/-- What is remarked while a snapshot is swept. -/
def Ledger.sweepRemarks (threshold : LossThreshold) (ledger : Ledger) (snapshot : Snapshot)
    (tick : Nat) : List Remark :=
  narrate (Sweep.step tick)
    (fun state r ↦
      (Ledger.entry state.1 r.1).reportRemarks threshold r.1 r.2.report state.2.path)
    (ledger, {}) snapshot.lines

end MediaTelemetry
