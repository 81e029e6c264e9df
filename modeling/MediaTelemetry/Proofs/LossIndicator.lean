import MediaTelemetry.Proofs.Layers

/-!
# The loss that a report is judged by

A report of the far end may leave out what was lost. The line then keeps the share that it found at
the last report that did say so, and the report is judged by that share: by what was lost between
the last two readings of the line (`lastShare`), however long ago those were taken, and not by the
fraction that the report gives itself (`Ledger.indicators_without_loss`). The fraction counts only
while nothing has been counted on the line. Round trip time and jitter are those of the report.

The share kept is the last growth in a walk through all readings of the line
(`UplinkLoss.current_walk`). Reports on other lines do not take part in it
(`Ledger.uplinkBasis_takeAll`).
-/

namespace MediaTelemetry

/-! ### Readings -/

/-- What the far end says was lost, with the packets that had been sent by then. -/
structure LossReading where
  lost : Int
  sent : Nat
deriving DecidableEq, Inhabited

/-- The share of the packets sent since an earlier reading that were lost since. -/
def LossReading.shareSince (last before : LossReading) : Float :=
  RatioArithmetic.share (grownSigned last.lost before.lost) (grown last.sent before.sent)

/-- The share lost between the last two of a line's readings. The first one counts from zero, and
before it nothing is lost. -/
def lastShare (readings : List LossReading) : Float :=
  readings.getLast?.elim (RatioArithmetic.ofCount 0) fun last ↦
    last.shareSince (readings.dropLast.getLast?.getD ⟨0, 0⟩)

/-- The packets sent as of a report; a report that does not give them leaves those known. -/
def Fragment.packetsBy (report : List Fragment) (sent : Nat) : Nat :=
  (OutboundRtp.total (outbounds report) (·.packetsSent)).getD sent

/-- The readings in the reports on a line of which `sent` packets are known. -/
def lossReadings (sent : Nat) : List (List Fragment) → List LossReading
  | [] => []
  | report :: rest =>
    let sent := Fragment.packetsBy report sent
    ((Fragment.remoteInbounds report).filterMap (·.packetsLost)).map (⟨·.toInt, sent⟩) ++
      lossReadings sent rest

/-- A walk through readings keeps the share lost between the last two of them; the first one counts
from the reading that was known before. -/
theorem UplinkLoss.current_walk (readings : List LossReading) (l : UplinkLoss Float) :
    let walk := readings.foldl (fun l reading ↦ l.report reading.lost reading.sent) l
    (⟨walk.total, walk.sentAtReport⟩ : LossReading) =
        readings.getLast?.getD ⟨l.total, l.sentAtReport⟩ ∧
      walk.current = readings.getLast?.elim l.current fun last ↦
        last.shareSince (readings.dropLast.getLast?.getD ⟨l.total, l.sentAtReport⟩) := by
  induction readings using List.reverseRecOn with
  | nil => exact ⟨rfl, rfl⟩
  | append_singleton readings last ih =>
    rw [List.foldl_append, List.getLast?_concat, List.dropLast_concat, ← ih.1]
    exact ⟨rfl, rfl⟩

/-! ### Histories -/

/-- A report on a line, with the number of its sample. -/
structure Reported where
  line : Line
  report : List Fragment
  tick : Nat

/-- Takes in reports on any lines, one after the other. -/
def Ledger.takeAll (ledger : Ledger) (history : List Reported) : Ledger :=
  history.foldl (fun ledger h ↦ ledger.takeReport h.line h.report h.tick) ledger

/-- The reports of a history on one line. -/
def reportsOn (line : Line) (history : List Reported) : List (List Fragment) :=
  (history.filter (·.line = line)).map (·.report)

/-- What the scores of a line rest on comes of the reports on it alone. -/
theorem Ledger.uplinkBasis_takeAll (line : Line) (history : List Reported) (ledger : Ledger) :
    (ledger.takeAll history).uplinkBasis line =
      (reportsOn line history).foldl (fun b report ↦ b.take line (.sender { report }))
        (ledger.uplinkBasis line) := by
  induction history generalizing ledger with
  | nil => rfl
  | cons h rest ih =>
    refine (ih (ledger.takeReport h.line h.report h.tick)).trans ?_
    by_cases hline : h.line = line
    · rw [reportsOn, reportsOn, List.filter_cons_of_pos (by simpa using hline), ← hline,
        uplinkBasis_takeReport]
      rfl
    · rw [reportsOn, reportsOn, List.filter_cons_of_neg (by simpa using hline), uplinkBasis,
        ledger.get?_takeReport_of_ne hline]
      rfl

/-- The losses of a line are a walk through its readings. -/
theorem UplinkBasis.loss_foldl_take {line : Line} (hsend : line.direction = .send)
    (reports : List (List Fragment)) (b : UplinkBasis) :
    (reports.foldl (fun b report ↦ b.take line (.sender { report })) b).loss =
      (lossReadings b.packets reports).foldl
        (fun l reading ↦ l.report reading.lost reading.sent) b.loss := by
  induction reports generalizing b with
  | nil => rfl
  | cons report rest ih =>
    obtain ⟨hpackets, hloss⟩ := b.take_send hsend (.sender { report })
    rw [List.foldl_cons, ih, hloss, hpackets, lossReadings, List.foldl_append, List.foldl_map,
      List.foldl_map]
    rfl

/-- The share lost between the last two readings that a history has of a line. -/
def shareLost (line : Line) (history : List Reported) : Float :=
  lastShare (lossReadings 0 (reportsOn line history))

/-- From an empty ledger, a line keeps the share lost between its last two readings. -/
theorem Ledger.current_takeAll {line : Line} (hsend : line.direction = .send)
    (history : List Reported) :
    ((Ledger.takeAll ∅ history).uplinkBasis line).loss.current = shareLost line history := by
  rw [uplinkBasis_takeAll, UplinkBasis.loss_foldl_take hsend]
  exact (UplinkLoss.current_walk _ _).2

/-! ### Judging without a loss -/

/-- A report of the far end that leaves out what was lost leaves the losses alone. -/
theorem UplinkBasis.loss_take_of_none {line : Line} (hsend : line.direction = .send)
    {report : List Fragment} {r : RemoteInboundRtp} (honly : Fragment.remoteInbounds report = [r])
    (hlost : r.packetsLost = none) (b : UplinkBasis) :
    (b.take line (.sender { report })).loss = b.loss := by
  have hremote : Fragment.remoteInbounds (LineReport.sender { report }).report = [r] := honly
  rw [(b.take_send hsend (.sender { report })).2, hremote, List.filterMap_cons_none hlost]
  rfl

/-- Something has been counted on the line: packets that it sent, or reports of the far end. -/
def Ledger.HasCounted (ledger : Ledger) (line : Line) : Prop :=
  0 < (ledger.uplinkBasis line).reports ∨ 0 < (ledger.uplinkBasis line).packets

instance (ledger : Ledger) (line : Line) : Decidable (ledger.HasCounted line) :=
  inferInstanceAs (Decidable (_ ∨ _))

/-- Once anything has been counted on a line, the share that it lost is taken, and not the fraction
that the report gives. -/
theorem Indicators.of_eq_ite (ledger : Ledger) (line : Line) (r : RemoteInboundRtp) :
    Indicators.of ledger line r =
      { loss :=
          if ledger.HasCounted line then some ((ledger.uplinkBasis line).loss.current * 100.0)
          else r.fractionLost.map (· * 100.0)
        roundTrip := r.roundTripTime.map (· * 1000.0)
        jitter := r.jitter.map (· * 1000.0) } := by
  rw [of_eq, UplinkBasis.indicators]
  by_cases h : ledger.HasCounted line
  · rw [if_pos h, if_pos (show _ ∨ _ from h), Option.some_or]
  · rw [if_neg h, if_neg (show ¬ (_ ∨ _) from h), Option.none_or]

theorem Limits.score_eq_bad_iff (l : Limits) (i : Indicators) :
    l.score i = .bad ↔
      exceeds i.loss l.loss ∨ exceeds i.roundTrip l.roundTrip ∨ exceeds i.jitter l.jitter := by
  rw [score]
  split
  · rename_i h
    simpa [or_assoc] using h
  · rename_i h
    simpa [or_assoc] using h

/-- The indicators of a report without a loss, after a history. -/
theorem Ledger.indicators_eq {line : Line} (hsend : line.direction = .send)
    {report : List Fragment} {r : RemoteInboundRtp} (honly : Fragment.remoteInbounds report = [r])
    (hlost : r.packetsLost = none) (tick : Nat) (history : List Reported) :
    let after := (Ledger.takeAll ∅ history).takeReport line report tick
    Indicators.of after line r =
      { loss :=
          if after.HasCounted line then some (shareLost line history * 100.0)
          else r.fractionLost.map (· * 100.0)
        roundTrip := r.roundTripTime.map (· * 1000.0)
        jitter := r.jitter.map (· * 1000.0) } := by
  intro after
  have hshare : (after.uplinkBasis line).loss.current = shareLost line history := by
    rw [uplinkBasis_takeReport, UplinkBasis.loss_take_of_none hsend honly hlost,
      current_takeAll hsend]
  rw [Indicators.of_eq_ite, hshare]

/-- **A report without a loss is judged by the loss known.** Let reports on any lines be taken in,
and then one on a send line whose only report of the far end leaves out what was lost. Once anything
has been counted on the line, the loss that the report is judged by is the share lost between the
last two readings that the line had before, zero if it had none, whatever fraction the report gives.
Only while nothing has been counted it is that fraction, if there is one. Round trip time and jitter
are those of the report. So a share above the limit gives a bad score, and histories that leave the
line the same share, or nothing counted, give the same indicators. -/
theorem Ledger.indicators_without_loss (history : List Reported) {line : Line}
    (hsend : line.direction = .send) {report : List Fragment} {r : RemoteInboundRtp}
    (honly : Fragment.remoteInbounds report = [r]) (hlost : r.packetsLost = none) (tick : Nat) :
    let after (history : List Reported) := (Ledger.takeAll ∅ history).takeReport line report tick
    ((after history).HasCounted line →
        Indicators.of (after history) line r =
          { loss := some (shareLost line history * 100.0)
            roundTrip := r.roundTripTime.map (· * 1000.0)
            jitter := r.jitter.map (· * 1000.0) } ∧
        ∀ l : Limits, l.score (.of (after history) line r) = .bad ↔
          shareLost line history * 100.0 > l.loss ∨
            exceeds (r.roundTripTime.map (· * 1000.0)) l.roundTrip ∨
            exceeds (r.jitter.map (· * 1000.0)) l.jitter) ∧
      (¬ (after history).HasCounted line →
        Indicators.of (after history) line r =
          { loss := r.fractionLost.map (· * 100.0)
            roundTrip := r.roundTripTime.map (· * 1000.0)
            jitter := r.jitter.map (· * 1000.0) }) ∧
      ∀ history', ((after history').HasCounted line ↔ (after history).HasCounted line) →
        ((after history).HasCounted line → shareLost line history' = shareLost line history) →
        Indicators.of (after history') line r = Indicators.of (after history) line r := by
  intro after
  have hof : ∀ history, Indicators.of (after history) line r = _ :=
    indicators_eq hsend honly hlost tick
  refine ⟨fun h ↦ ⟨by rw [hof, if_pos h], fun l ↦ ?_⟩, fun h ↦ by rw [hof, if_neg h],
    fun history' hcounted hshare ↦ ?_⟩
  · rw [l.score_eq_bad_iff, hof, if_pos h]
    simp [exceeds]
  · rw [hof, hof]
    by_cases h : (after history).HasCounted line
    · rw [if_pos h, if_pos (hcounted.2 h), hshare h]
    · rw [if_neg h, if_neg (hcounted.not.2 h)]

/-- Reports that leave out what was lost are judged by the two fifths lost before, in spite of the
fractions that they give and of a report on another line; on a line of which nothing has been
counted the fraction is taken. -/
theorem Ledger.indicators_after_loss :
    let line : Line := .send .video 0
    let far (r : RemoteInboundRtp) (sent : UInt64) : List Fragment :=
      [.outboundRtp { packetsSent := some sent }, .remoteInboundRtp r]
    let history : List Reported :=
      [⟨line, far { packetsLost := some 10 } 50, 1⟩, ⟨line, far { packetsLost := some 30 } 100, 2⟩,
        ⟨.send .video 1, far { packetsLost := some 90 } 100, 2⟩,
        ⟨line, far { fractionLost := some 0.0 } 200, 3⟩]
    let r : RemoteInboundRtp := { fractionLost := some 0.5, roundTripTime := some 0.05 }
    let after := (Ledger.takeAll ∅ history).takeReport line (far r 300) 4
    let new := Ledger.takeReport ∅ line [.remoteInboundRtp r] 1
    (Indicators.of after line r).loss = some (0.4 * 100.0) ∧
      ({} : Settings).limits.score (.of after line r) = .bad ∧
      (Indicators.of new line r).loss = some (0.5 * 100.0) := by
  intro line far history r after new
  have hsend : line.direction = .send := rfl
  have hfar : Fragment.remoteInbounds (far r 300) = [r] := rfl
  have halone : Fragment.remoteInbounds [.remoteInboundRtp r] = [r] := rfl
  have hcounted : after.HasCounted line := by decide +kernel
  have hnew : ¬ new.HasCounted line := by decide +kernel
  have hshare : shareLost line history = 0.4 := by decide +kernel
  obtain ⟨hknown, hscore⟩ := (indicators_without_loss history hsend hfar rfl 4).1 hcounted
  have hgiven := (indicators_without_loss [] hsend halone rfl 1).2.1 hnew
  refine ⟨?_, (hscore _).2 (.inl ?_), ?_⟩
  · rw [hknown, hshare]
  · rw [hshare]
    decide +kernel
  · exact congrArg Indicators.loss hgiven

/-- **A report is judged by a loss that it does not give.** Two histories differ only in what the
far end said was lost before. The report that follows gives neither a loss nor a fraction; it is bad
after the one history and good after the other. -/
theorem Ledger.old_loss_held_against_line :
    let line : Line := .send .video 0
    let far (r : RemoteInboundRtp) (sent : UInt64) : List Fragment :=
      [.outboundRtp { packetsSent := some sent }, .remoteInboundRtp r]
    let before (lost : Int64) : Ledger :=
      Ledger.takeAll ∅ [⟨line, far { packetsLost := some lost } 100, 1⟩]
    let r : RemoteInboundRtp := { roundTripTime := some 0.05 }
    let after (lost : Int64) : Ledger := (before lost).takeReport line (far r 200) 2
    let score (lost : Int64) : Score := ({} : Settings).limits.score (.of (after lost) line r)
    Fragment.remoteInbounds (far r 200) = [r] ∧ r.packetsLost = none ∧ r.fractionLost = none ∧
      ((before 40).uplinkBasis line).packets = 100 ∧ ((before 0).uplinkBasis line).packets = 100 ∧
      (Indicators.of (after 40) line r).loss = some 40.0 ∧ score 40 = .bad ∧ score 0 = .good := by
  intro line far before r after score
  exact ⟨rfl, rfl, rfl, rfl, rfl, by decide +kernel, by decide +kernel, by decide +kernel⟩

end MediaTelemetry
