import MediaTelemetry.Proofs.Classes
import MediaTelemetry.Proofs.Layers

/-!
# Reading a report in its order

A report can be read one fragment after another (`Ledger.readReport`). Two passes are needed: in the
first, received streams and capture sources take effect as they are met, candidate pairs are tried,
and sent streams are only collected; then the sent streams are taken in together; in the second
pass the far end's reports take effect. The ledger is written at each step, and a line is listed
from the first step on that says something about it.

This gives what the classes of the report give (`Ledger.readReport_eq`), because a step of one class
leaves alone what a step of another class looks at in the same pass. So it makes no difference how
the classes are mixed in a report (`Ledger.order_of_classes`).
-/

namespace MediaTelemetry

/-! ### One fragment after another -/

/-- How far the reading of a report has come. -/
structure ReportReading where
  ledger : Ledger
  sweep : Sweep
  /-- The sent streams met so far. -/
  layers : List OutboundRtp
  /-- A fragment has said something about the line. -/
  concerned : Bool

namespace ReportReading

variable (line : Line)

/-- Changes what is known about the line, which is listed from then on. -/
def change (f : Entry → Entry) (r : ReportReading) : ReportReading :=
  { r with ledger := r.ledger.insert line (f (r.ledger.entry line)), concerned := true }

@[simp] theorem concerned_change (f : Entry → Entry) (r : ReportReading) :
    (r.change line f).concerned = true := rfl

@[simp] theorem layers_change (f : Entry → Entry) (r : ReportReading) :
    (r.change line f).layers = r.layers := rfl

@[simp] theorem sweep_change (f : Entry → Entry) (r : ReportReading) :
    (r.change line f).sweep = r.sweep := rfl

/-- Meets a fragment in the first pass. -/
def meet (candidates : List LocalCandidate) (r : ReportReading) : Fragment → ReportReading
  | .outboundRtp s => if line.isSend then { r with layers := r.layers ++ [s] } else r
  | .inboundRtp s => if line.isSend then r else r.change line (·.takeInbound s)
  | .mediaSource s =>
    if line.isSend && line.medium.isAudio then r.change line (·.takeSource s) else r
  | .candidatePair p =>
    { r with sweep := { r.sweep with path := r.sweep.path.or (p.path? candidates) } }
  | .remoteInboundRtp _ | .remoteOutboundRtp _ | .localCandidate _ | .other => r

/-- Takes in the sent streams met, if there are any. -/
def merge (r : ReportReading) : ReportReading :=
  if r.layers.isEmpty then r else r.change line (·.takeLayers r.layers)

/-- Hears a fragment in the second pass. -/
def hear (r : ReportReading) : Fragment → ReportReading
  | .remoteInboundRtp s =>
    if line.isSend then
      { r.change line (·.takeRemote s) with
        sweep := { r.sweep with remoteReports := r.sweep.remoteReports ++ [(line, s)] } }
    else r.change line (·.takeRoundTrip s.roundTripTime)
  | .remoteOutboundRtp s =>
    if line.isSend then r else r.change line (·.takeRoundTrip s.roundTripTime)
  | _ => r

/-- Notes that the line was seen, if a fragment said something about it. -/
def finish (tick : Nat) (r : ReportReading) : Ledger × Sweep :=
  if r.concerned then
    (r.ledger.modify line fun e ↦ { e with notes := { e.notes with lastSeen := tick } },
      { r.sweep with seen := r.sweep.seen ++ [line] })
  else (r.ledger, r.sweep)

end ReportReading

open ReportReading in
/-- Reads a report one fragment after another. -/
def Ledger.readReport (ledger : Ledger) (sweep : Sweep) (line : Line) (report : List Fragment)
    (tick : Nat) : Ledger × Sweep :=
  let met := report.foldl (meet line (Fragment.candidates report)) ⟨ledger, sweep, [], false⟩
  finish line tick (report.foldl (hear line) (merge line met))

/-! ### What a step does to the line -/

namespace Entry

variable (line : Line)

/-- What is known about the line after a fragment in the first pass. -/
def meet (e : Entry) : Fragment → Entry
  | .inboundRtp s => if line.isSend then e else e.takeInbound s
  | .mediaSource s => if line.isSend && line.medium.isAudio then e.takeSource s else e
  | _ => e

/-- What is known about the line after a fragment in the second pass. -/
def hear (e : Entry) : Fragment → Entry
  | .remoteInboundRtp s => if line.isSend then e.takeRemote s else e.takeRoundTrip s.roundTripTime
  | .remoteOutboundRtp s => if line.isSend then e else e.takeRoundTrip s.roundTripTime
  | _ => e

theorem foldl_meet (report : List Fragment) (e : Entry) :
    report.foldl (meet line) e =
      match line.direction with
      | .send => (if line.medium.isAudio then Fragment.sources report else []).foldl takeSource e
      | .receive => (Fragment.inbounds report).foldl takeInbound e := by
  have hsend : line.isSend = (line.direction == .send) := rfl
  induction report generalizing e with
  | nil => cases line.direction <;> simp [Fragment.sources, Fragment.inbounds]
  | cons f rest ih =>
    rw [List.foldl_cons, ih]
    cases hd : line.direction <;> cases ha : line.medium.isAudio <;> cases f <;>
      simp [meet, hsend, hd, ha, Fragment.sources, Fragment.inbounds]

theorem foldl_hear (report : List Fragment) (e : Entry) :
    report.foldl (hear line) e = e.takeFar line report := by
  have hsend : line.isSend = (line.direction == .send) := rfl
  rw [takeFar]
  induction report generalizing e with
  | nil => cases line.direction <;> rfl
  | cons f rest ih =>
    rw [List.foldl_cons, ih]
    cases hd : line.direction <;> cases f <;>
      simp [hear, hsend, hd, Fragment.remoteInbounds, Fragment.remoteRoundTrips]

end Entry

namespace Fragment

/-- The fragment says something about the line in the first pass, sent streams apart. -/
def isMet (line : Line) : Fragment → Bool
  | .inboundRtp _ => !line.isSend
  | .mediaSource _ => line.isSend && line.medium.isAudio
  | _ => false

/-- The fragment says something about the line in the second pass. -/
def isHeard (line : Line) : Fragment → Bool
  | .remoteInboundRtp _ => true
  | .remoteOutboundRtp _ => !line.isSend
  | _ => false

/-- A fragment that concerns a line does so in one of three places. -/
theorem any_concerns (line : Line) (report : List Fragment) :
    report.any (·.concerns line) =
      (report.any (isMet line) || (line.isSend && !(outbounds report).isEmpty) ||
        report.any (isHeard line)) := by
  induction report with
  | nil => simp [outbounds]
  | cons f rest ih =>
    have hf : f.concerns line =
        (f.isMet line || (line.isSend && !(outbounds [f]).isEmpty) || f.isHeard line) := by
      cases f <;> simp [concerns, isMet, isHeard, outbounds]
    have hlayers : (outbounds (f :: rest)).isEmpty =
        ((outbounds [f]).isEmpty && (outbounds rest).isEmpty) := by
      have happend : outbounds (f :: rest) = outbounds [f] ++ outbounds rest :=
        List.filterMap_append (l := [f])
      rw [happend]
      cases outbounds [f] <;> rfl
    rw [List.any_cons, List.any_cons, List.any_cons, ih, hf, hlayers, Bool.not_and,
      Bool.and_or_distrib_left]
    ac_rfl

end Fragment

namespace Entry

/-- What a line says itself is what its fragments say in the first pass, and then its layers. -/
theorem takeLocal_eq (e : Entry) (line : Line) (report : List Fragment) :
    e.takeLocal line report =
      (report.foldl (meet line) e).takeLayers
        (if line.isSend then Fragment.outbounds report else []) := by
  have hsend : line.isSend = (line.direction == .send) := rfl
  rw [foldl_meet, takeLocal, hsend]
  cases line.direction <;> rfl

end Entry

/-! ### How far a reading has come -/

namespace ReportReading

/-- The reading of a report on a line of the ledger stands at an entry: this is what is known about
the line, and the ledger holds it if something has been said about the line. -/
structure StandsAt (ledger : Ledger) (line : Line) (e : Entry) (r : ReportReading) : Prop where
  entry : r.ledger.entry line = e
  ledger : r.ledger = if r.concerned then ledger.insert line e else ledger

variable {ledger : Ledger} {line : Line} {e : Entry} {r : ReportReading}

theorem StandsAt.change (h : r.StandsAt ledger line e) (f : Entry → Entry) :
    (r.change line f).StandsAt ledger line (f e) := by
  have hledger : (r.change line f).ledger = ledger.insert line (f e) := by
    show r.ledger.insert line (f (r.ledger.entry line)) = _
    rw [h.entry, h.ledger]
    split
    · exact KeyMap.insert_insert ..
    · rfl
  refine ⟨?_, hledger⟩
  rw [hledger, Ledger.entry, KeyMap.get?_insert_self, Option.getD_some]

theorem StandsAt.meet (h : r.StandsAt ledger line e) (candidates : List LocalCandidate)
    (f : Fragment) : (r.meet line candidates f).StandsAt ledger line (e.meet line f) := by
  cases f with
  | inboundRtp s =>
    rw [ReportReading.meet, Entry.meet]
    split
    · exact h
    · exact h.change (·.takeInbound s)
  | mediaSource s =>
    rw [ReportReading.meet, Entry.meet]
    split
    · exact h.change (·.takeSource s)
    · exact h
  | outboundRtp s =>
    rw [ReportReading.meet]
    split
    · exact ⟨h.entry, h.ledger⟩
    · exact h
  | candidatePair p => exact ⟨h.entry, h.ledger⟩
  | _ => exact h

theorem StandsAt.foldl_meet (h : r.StandsAt ledger line e) (candidates : List LocalCandidate)
    (report : List Fragment) :
    (report.foldl (ReportReading.meet line candidates) r).StandsAt ledger line
      (report.foldl (Entry.meet line) e) := by
  induction report generalizing r e with
  | nil => exact h
  | cons f rest ih => exact ih (h.meet candidates f)

theorem StandsAt.merge (h : r.StandsAt ledger line e) :
    (r.merge line).StandsAt ledger line (e.takeLayers r.layers) := by
  rw [ReportReading.merge]
  split
  · rename_i hlayers
    rw [Entry.takeLayers, if_pos hlayers]
    exact h
  · exact h.change (·.takeLayers r.layers)

theorem StandsAt.hear (h : r.StandsAt ledger line e) (f : Fragment) :
    (r.hear line f).StandsAt ledger line (e.hear line f) := by
  cases f with
  | remoteInboundRtp s =>
    rw [ReportReading.hear, Entry.hear]
    split
    · have hchange := h.change (·.takeRemote s)
      exact ⟨hchange.entry, hchange.ledger⟩
    · exact h.change (·.takeRoundTrip s.roundTripTime)
  | remoteOutboundRtp s =>
    rw [ReportReading.hear, Entry.hear]
    split
    · exact h
    · exact h.change (·.takeRoundTrip s.roundTripTime)
  | _ => exact h

theorem StandsAt.foldl_hear (h : r.StandsAt ledger line e) (report : List Fragment) :
    (report.foldl (ReportReading.hear line) r).StandsAt ledger line
      (report.foldl (Entry.hear line) e) := by
  induction report generalizing r e with
  | nil => exact h
  | cons f rest ih => exact ih (h.hear f)

/-- The note of when the line was seen goes into the entry at which the reading stands. -/
theorem StandsAt.finish (h : r.StandsAt ledger line e) (tick : Nat) :
    r.finish line tick =
      if r.concerned then
        (ledger.insert line { e with notes := { e.notes with lastSeen := tick } },
          { r.sweep with seen := r.sweep.seen ++ [line] })
      else (ledger, r.sweep) := by
  rw [ReportReading.finish]
  split
  · rename_i hconcerned
    rw [h.ledger, if_pos hconcerned, Ledger.modify, KeyMap.get?_insert_self]
    exact congrArg (·, _) (KeyMap.insert_insert ..)
  · rename_i hconcerned
    rw [h.ledger, if_neg hconcerned]

variable (line r)

/-! ### What a reading has collected -/

/-- A mark that some elements set is set at the end of a walk over one of them. -/
theorem foldl_or {α σ : Type} {f : σ → α → σ} {p : σ → Bool} {sets : α → Bool}
    (hstep : ∀ s a, p (f s a) = (p s || sets a)) (l : List α) (s : σ) :
    p (l.foldl f s) = (p s || l.any sets) := by
  induction l generalizing s with
  | nil => simp
  | cons a l ih => rw [List.foldl_cons, ih, hstep, List.any_cons, Bool.or_assoc]

theorem concerned_foldl_meet (candidates : List LocalCandidate) (report : List Fragment) :
    (report.foldl (meet line candidates) r).concerned =
      (r.concerned || report.any (Fragment.isMet line)) := by
  refine foldl_or (p := concerned) (fun r f ↦ ?_) report r
  cases hsend : line.isSend <;> cases haudio : line.medium.isAudio <;> cases f <;>
    simp [meet, Fragment.isMet, hsend, haudio]

theorem layers_foldl_meet (candidates : List LocalCandidate) (report : List Fragment) :
    (report.foldl (meet line candidates) r).layers =
      r.layers ++ if line.isSend then Fragment.outbounds report else [] := by
  induction report generalizing r with
  | nil => simp [Fragment.outbounds]
  | cons f rest ih =>
    rw [List.foldl_cons, ih]
    cases hsend : line.isSend <;> cases haudio : line.medium.isAudio <;> cases f <;>
      simp [meet, Fragment.outbounds, hsend, haudio]

theorem sweep_foldl_meet (candidates : List LocalCandidate) (report : List Fragment) :
    (report.foldl (meet line candidates) r).sweep =
      { r.sweep with
        path := r.sweep.path.or
          ((Fragment.pairs report).findSome? fun p ↦ p.path? candidates) } := by
  induction report generalizing r with
  | nil => simp [Fragment.pairs]
  | cons f rest ih =>
    rw [List.foldl_cons, ih]
    cases f with
    | candidatePair p =>
      have hpairs : Fragment.pairs (.candidatePair p :: rest) = p :: Fragment.pairs rest := rfl
      rw [hpairs, List.findSome?_cons, meet]
      cases r.sweep.path <;> cases p.path? candidates <;> rfl
    | _ =>
      -- no other fragment tries a path
      simp only [meet]
      (try split) <;> rfl

theorem concerned_merge : (r.merge line).concerned = (r.concerned || !r.layers.isEmpty) := by
  cases h : r.layers.isEmpty <;> simp [merge, h]

theorem sweep_merge : (r.merge line).sweep = r.sweep := by
  rw [merge]
  split <;> rfl

theorem concerned_foldl_hear (report : List Fragment) :
    (report.foldl (hear line) r).concerned =
      (r.concerned || report.any (Fragment.isHeard line)) := by
  refine foldl_or (p := concerned) (fun r f ↦ ?_) report r
  cases hsend : line.isSend <;> cases f <;> simp [hear, Fragment.isHeard, hsend]

theorem sweep_foldl_hear (report : List Fragment) :
    (report.foldl (hear line) r).sweep =
      { r.sweep with
        remoteReports := r.sweep.remoteReports ++
          if line.isSend then (Fragment.remoteInbounds report).map (line, ·) else [] } := by
  induction report generalizing r with
  | nil => simp [Fragment.remoteInbounds]
  | cons f rest ih =>
    rw [List.foldl_cons, ih]
    cases hsend : line.isSend <;> cases f <;> simp [hear, Fragment.remoteInbounds, hsend]

end ReportReading

open ReportReading in
/-- Reading a report one fragment after another gives what its classes give. -/
theorem Ledger.readReport_eq (ledger : Ledger) (sweep : Sweep) (line : Line)
    (report : List Fragment) (tick : Nat) :
    ledger.readReport sweep line report tick =
      (ledger.takeReport line report tick, sweep.add line report) := by
  let met := report.foldl (meet line (Fragment.candidates report)) ⟨ledger, sweep, [], false⟩
  have hlayers : met.layers = if line.isSend then Fragment.outbounds report else [] :=
    layers_foldl_meet line _ _ report
  have hstart : StandsAt ledger line (ledger.entry line) ⟨ledger, sweep, [], false⟩ := ⟨rfl, rfl⟩
  have hread : (report.foldl (hear line) (met.merge line)).StandsAt ledger line
      (((ledger.entry line).takeLocal line report).takeFar line report) := by
    rw [Entry.takeLocal_eq, ← hlayers, ← Entry.foldl_hear]
    exact (hstart.foldl_meet _ report).merge.foldl_hear report
  have hconcerned : (report.foldl (hear line) (met.merge line)).concerned =
      report.any (·.concerns line) := by
    rw [concerned_foldl_hear, concerned_merge, concerned_foldl_meet, hlayers, Fragment.any_concerns,
      Bool.false_or]
    cases line.isSend <;> rfl
  have hsweep : (report.foldl (hear line) (met.merge line)).sweep =
      { sweep.add line report with seen := sweep.seen } := by
    rw [sweep_foldl_hear, sweep_merge, sweep_foldl_meet, Sweep.add, Fragment.path?]
    cases line.isSend <;> simp
  rw [readReport, hread.finish, hconcerned, hsweep, takeReport, Sweep.add]
  split <;> rfl

/-! ### Reports with the same classes -/

/-- **How the classes of a report are mixed does not matter.** Two reports with the same classes do
the same to the ledger and add the same to the sweep, also when they are read one fragment after
another. In particular, on a send line the losses of a report are set against the packets of the
same report, wherever its sent streams stand. -/
theorem Ledger.order_of_classes {report report' : List Fragment}
    (h : Fragment.SameClasses report report') (ledger : Ledger) (sweep : Sweep) (line : Line)
    (tick : Nat) :
    ledger.readReport sweep line report tick = ledger.readReport sweep line report' tick ∧
      ledger.takeReport line report tick = ledger.takeReport line report' tick ∧
      sweep.add line report = sweep.add line report' ∧
      (line.direction = .send →
        let before := ledger.uplinkBasis line
        let after := (ledger.takeReport line report tick).uplinkBasis line
        after.packets =
            (OutboundRtp.total (Fragment.outbounds report) (·.packetsSent)).getD before.packets ∧
          after.loss =
            (((Fragment.remoteInbounds report).filterMap (·.packetsLost)).map Int64.toInt).foldl
              (·.report · after.packets) before.loss) := by
  refine ⟨?_, h.takeReport ledger line tick, h.add sweep line, fun hsend ↦ ?_⟩
  · rw [readReport_eq, readReport_eq, h.takeReport, h.add]
  · intro before after
    have hafter : after = before.take line (.sender { report }) :=
      ledger.uplinkBasis_takeReport line report tick
    rw [hafter]
    exact before.take_send hsend (.sender { report })

/-- A loss that stands before the two streams it is about, and a pair that stands before its
candidate, with something unknown in between. The loss is set against the packets of both. -/
theorem Ledger.loss_before_streams :
    let line : Line := .send .video 0
    let streams : List Fragment :=
      [.outboundRtp { packetsSent := some 100 }, .outboundRtp { packetsSent := some 400 }]
    let pair : Fragment :=
      .candidatePair { localCandidateId := some "A", state := some "succeeded" }
    let candidate : Fragment := .localCandidate { id := "A", protocol := some "udp" }
    let loss : Fragment := .remoteInboundRtp { packetsLost := some 10 }
    let mixed := [loss, pair, .other, candidate] ++ streams
    let sorted := streams ++ [candidate, pair, loss]
    let after := (Ledger.takeReport ∅ line mixed 1).uplinkBasis line
    Fragment.SameClasses mixed sorted ∧
      Ledger.readReport ∅ {} line mixed 1 = Ledger.readReport ∅ {} line sorted 1 ∧
      (Sweep.add {} line mixed).path = some ⟨"", some .udp⟩ ∧
      after.packets = 500 ∧ after.loss = UplinkLoss.none.report 10 500 := by
  intro line streams pair candidate loss mixed sorted after
  have hclasses : Fragment.SameClasses mixed sorted := by
    intro k
    cases k <;> rfl
  obtain ⟨hread, -, -, hsend⟩ := order_of_classes hclasses ∅ {} line 1
  obtain ⟨hpackets, hloss⟩ := hsend rfl
  have hpath : (Sweep.add {} line mixed).path = some ⟨"", some .udp⟩ := by decide +kernel
  have htotal : after.packets = 500 := hpackets.trans (by decide +kernel)
  refine ⟨hclasses, hread, hpath, htotal, hloss.trans ?_⟩
  show UplinkLoss.none.report 10 after.packets = _
  rw [htotal]

end MediaTelemetry
