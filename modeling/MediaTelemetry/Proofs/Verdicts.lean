import Mathlib.Data.List.Destutter
import MediaTelemetry.Proofs.Notices
import MediaTelemetry.Proofs.Sample

/-!
# Verdicts are the changes of a line's score

With the monitor that judges by limits, every report of the far end about a send line gives a score,
and a verdict is told when the score is not the one before (`verdicts_are_changes`). The scores kept
after any samples are the last scores of their lines, however many reports one sample holds and
however the lines take turns (`Limits.judgeAll_extends`), so what is told of a line is its own
sequence of scores with repetitions left out.

The score of a report rests on the report and on three figures of the line's send record
(`UplinkBasis`), which only reports on the line itself change. A run therefore scores a line as if
nothing else had ever been reported (`Meter.scores_history`).
-/

namespace MediaTelemetry

/-! ### Leaving out repetitions -/

section Destutter

variable {α : Type} [DecidableEq α]

theorem destutter'_concat (l : List α) (a b : α) :
    (l ++ [a]).destutter' (· ≠ ·) b =
      if (b :: l).getLast? = some a then l.destutter' (· ≠ ·) b
      else l.destutter' (· ≠ ·) b ++ [a] := by
  induction l generalizing b with
  | nil => by_cases h : b = a <;> simp [h]
  | cons x rest ih =>
    rw [List.cons_append, List.getLast?_cons_cons]
    by_cases h : b = x
    · subst h
      rw [List.destutter'_cons_neg _ (not_not.2 rfl), List.destutter'_cons_neg _ (not_not.2 rfl),
        ih]
    · rw [List.destutter'_cons_pos _ h, List.destutter'_cons_pos _ h, ih]
      split <;> rfl

/-- A further element is kept if it is not the last one. -/
theorem destutter_concat (l : List α) (a : α) :
    (l ++ [a]).destutter (· ≠ ·) =
      if l.getLast? = some a then l.destutter (· ≠ ·) else l.destutter (· ≠ ·) ++ [a] := by
  cases l with
  | nil => rfl
  | cons b rest => exact destutter'_concat rest a b

theorem getLast?_destutter (l : List α) : (l.destutter (· ≠ ·)).getLast? = l.getLast? := by
  induction l using List.reverseRecOn with
  | nil => rfl
  | append_singleton l a ih =>
    rw [destutter_concat, List.getLast?_concat]
    split
    · rename_i h
      rw [ih, h]
    · rw [List.getLast?_concat]

theorem head?_destutter (l : List α) : (l.destutter (· ≠ ·)).head? = l.head? := by
  induction l using List.reverseRecOn with
  | nil => rfl
  | append_singleton l a ih =>
    rw [destutter_concat, List.head?_append]
    split
    · rename_i h
      obtain ⟨b, hb⟩ := Option.isSome_iff_exists.1
        (List.isSome_head?.2 (List.ne_nil_of_mem (List.mem_of_getLast? h)))
      rw [ih, hb, Option.some_or]
    · rw [List.head?_append, ih]

end Destutter

/-! ### Judging -/

/-- The score of a verdict, if it is one on the line. -/
def Verdict.scoreOn? (line : Line) (v : Verdict) : Option Score :=
  if v.line = line then some v.score else none

/-- The score that a notice tells of a line, if it does. -/
def Notice.scoreOn? (line : Line) : Notice → Option Score
  | .uplink v => v.scoreOn? line
  | _ => none

/-- **Judging goes on from the line's last score.** Where the score kept for a line is the last of
the scores that it has got, judging more reports keeps the last of all its scores, and the verdicts
on it are what the new scores add to the changes so far. -/
theorem Limits.judgeAll_extends (l : Limits) {s : Scores} {line : Line} {past : List Score}
    (h : s.get? line = past.getLast?) (ledger : Ledger) (reports : List FarReport) :
    let scores := past ++ (l.judgements ledger reports).filterMap (·.scoreOn? line)
    let judged := (Monitor.threshold l s).judgeAll ledger reports
    (∃ s', judged.1 = .threshold l s' ∧ s'.get? line = scores.getLast?) ∧
      scores.destutter (· ≠ ·) =
        past.destutter (· ≠ ·) ++ judged.2.filterMap (·.scoreOn? line) := by
  induction reports generalizing s past with
  | nil => exact ⟨⟨s, rfl, by simpa [judgements] using h⟩, by simp [Monitor.judgeAll, judgements]⟩
  | cons r rest ih =>
    have hjudge : (Monitor.threshold l s).judgeAll ledger (r :: rest) =
        (((Monitor.threshold l (s.record r.1 (l.score (.of ledger r.1 r.2)))).judgeAll ledger
            rest).1,
          (s.verdict? r.1 (l.score (.of ledger r.1 r.2))).toList ++
            ((Monitor.threshold l (s.record r.1 (l.score (.of ledger r.1 r.2)))).judgeAll ledger
              rest).2) := rfl
    have hjudgements : l.judgements ledger (r :: rest) =
        ⟨r.1, l.score (.of ledger r.1 r.2)⟩ :: l.judgements ledger rest := rfl
    generalize l.score (.of ledger r.1 r.2) = score at hjudge hjudgements
    rw [hjudge, hjudgements]
    dsimp only
    rw [List.filterMap_append]
    by_cases hline : r.1 = line
    · -- the score joins the line's scores, and is a verdict if it is not the one before
      have hscores : (⟨r.1, score⟩ :: l.judgements ledger rest).filterMap (·.scoreOn? line) =
          score :: (l.judgements ledger rest).filterMap (·.scoreOn? line) :=
        List.filterMap_cons_some (if_pos hline)
      have hverdict : (s.verdict? r.1 score).toList.filterMap (·.scoreOn? line) =
          if past.getLast? = some score then [] else [score] := by
        rw [Scores.verdict?, hline, h]
        split <;> simp [Verdict.scoreOn?]
      have hkept : (s.record r.1 score).get? line = (past ++ [score]).getLast? := by
        rw [Scores.record, hline, KeyMap.get?_insert_self, List.getLast?_concat]
      obtain ⟨hlast, hchanges⟩ := ih hkept
      rw [List.append_assoc, List.singleton_append] at hlast hchanges
      rw [hscores, hverdict]
      refine ⟨hlast, hchanges.trans ?_⟩
      rw [destutter_concat]
      split <;> simp
    · -- another line's score leaves this one alone
      have hscores : (⟨r.1, score⟩ :: l.judgements ledger rest).filterMap (·.scoreOn? line) =
          (l.judgements ledger rest).filterMap (·.scoreOn? line) :=
        List.filterMap_cons_none (if_neg hline)
      have hverdict : (s.verdict? r.1 score).toList.filterMap (·.scoreOn? line) = [] := by
        rw [Scores.verdict?]
        split <;> simp [Verdict.scoreOn?, hline]
      rw [hscores, hverdict, List.nil_append]
      exact ih (by rw [Scores.record, KeyMap.get?_insert_of_ne _ hline, h])

namespace Taking

variable (t : Taking) (c : Settings) (d : Host) (line : Line)

/-- The scores of the far end's reports about a line, in sweep order. -/
def scoresOn : List Score := (t.judgements c).filterMap (·.scoreOn? line)

/-- The scores that the sample tells of a line are those of its verdicts. -/
theorem filterMap_scoreOn?_told :
    (t.told c d).filterMap (·.scoreOn? line) =
      (t.pass c).verdicts.filterMap (·.scoreOn? line) := by
  have hflows : (t.before.flows.changes (t.pass c).live).filterMap
      (fun a ↦ (Notice.flow a.1 a.2).scoreOn? line) = [] :=
    List.filterMap_eq_nil_iff.2 fun _ _ ↦ rfl
  have hquality : (t.before.report? c d (t.pass c)).toList.filterMap
      (fun r ↦ (Notice.quality r).scoreOn? line) = [] :=
    List.filterMap_eq_nil_iff.2 fun _ _ ↦ rfl
  rw [filterMap_told, hflows, hquality, List.append_nil, List.append_nil]
  rfl

/-- The reports about a line that are judged are those at its place in the snapshot. -/
theorem scoresOn_eq :
    t.scoresOn c line =
      (t.sample.snapshot.at? line).toList.flatMap fun r ↦
        (r.farReports line).map fun report ↦ c.limits.score (.of (t.pass c).swept line report) := by
  rw [scoresOn, judgements, Limits.judgements, Snapshot.farReports, List.map_flatMap,
    List.filterMap_flatMap, Snapshot.flatMap_lines_at _ line]
  · refine congrArg (List.flatMap · _) (funext fun r ↦ ?_)
    rw [List.map_map, List.filterMap_map, ← List.filterMap_eq_map]
    refine congrArg (List.filterMap · _) (funext fun report ↦ if_pos rfl)
  · intro a ha
    rw [List.map_map, List.filterMap_map]
    exact List.filterMap_eq_nil_iff.2 fun report _ ↦ if_neg ha

end Taking

/-! ### What a score rests on -/

/-- The figures of a send record that its scores rest on. -/
structure UplinkBasis where
  loss : UplinkLoss Float
  packets : Nat
  reports : Nat

namespace UplinkBasis

variable (b : UplinkBasis)

/-- The basis after the layers of a report. -/
def takeLayers (layers : List OutboundRtp) : UplinkBasis :=
  if layers.isEmpty then b
  else { b with packets := (OutboundRtp.total layers (·.packetsSent)).getD b.packets }

/-- The basis after a report of the far end. -/
def takeRemote (r : RemoteInboundRtp) : UplinkBasis :=
  { b with
    loss := r.packetsLost.elim b.loss fun lost ↦ b.loss.report lost.toInt b.packets
    reports := r.reportsReceived.elim b.reports UInt64.toNat }

/-- The basis after a report on the line. -/
def take (line : Line) (r : LineReport) : UplinkBasis :=
  match line.direction with
  | .send =>
    (Fragment.remoteInbounds r.report).foldl takeRemote
      (b.takeLayers (Fragment.outbounds r.report))
  | .receive => b

/-- The indicators of a report of the far end. -/
def indicators (r : RemoteInboundRtp) : Indicators where
  loss :=
    (if 0 < b.reports ∨ 0 < b.packets then some (b.loss.current * 100.0) else none).or
      (r.fractionLost.map (· * 100.0))
  roundTrip := r.roundTripTime.map (· * 1000.0)
  jitter := r.jitter.map (· * 1000.0)

end UplinkBasis

/-- The basis of scores in what is known about a line. -/
def Entry.uplinkBasis (e : Entry) : UplinkBasis :=
  let s := e.send.getD {}
  ⟨s.loss, s.packets, s.reports⟩

/-- The basis of scores of a line; that of an unknown line is the basis of an empty record. -/
def Ledger.uplinkBasis (ledger : Ledger) (line : Line) : UplinkBasis :=
  ((ledger.get? line).getD {}).uplinkBasis

theorem Indicators.of_eq (ledger : Ledger) (line : Line) (r : RemoteInboundRtp) :
    Indicators.of ledger line r = (ledger.uplinkBasis line).indicators r := by
  have hempty : ¬ (0 < ({} : SendRecord).reports ∨ 0 < ({} : SendRecord).packets) := by decide
  rw [Indicators.of, UplinkBasis.indicators, Ledger.uplinkBasis, Entry.uplinkBasis]
  cases ledger.get? line with
  | none => simp only [Option.getD_none, if_neg hempty]; rfl
  | some e =>
    obtain ⟨send, receive, notes⟩ := e
    cases send with
    | none => simp only [Option.getD_some, Option.getD_none, if_neg hempty]; rfl
    | some s =>
      by_cases h : 0 < s.reports ∨ 0 < s.packets <;> simp [Option.filter, h]

namespace Entry

variable (e : Entry) (line : Line)

theorem uplinkBasis_takeLayers (layers : List OutboundRtp) :
    (e.takeLayers layers).uplinkBasis = e.uplinkBasis.takeLayers layers := by
  rw [takeLayers, UplinkBasis.takeLayers]
  split <;> rfl

/-- Of what a line says itself only its layers count. -/
theorem uplinkBasis_takeLocal (report : List Fragment) :
    (e.takeLocal line report).uplinkBasis =
      match line.direction with
      | .send => e.uplinkBasis.takeLayers (Fragment.outbounds report)
      | .receive => e.uplinkBasis := by
  rw [takeLocal]
  cases line.direction with
  | send =>
    dsimp only
    rw [uplinkBasis_takeLayers, foldl_kept (f := takeSource) (p := uplinkBasis) fun _ _ ↦ rfl]
  | receive => exact foldl_kept (f := takeInbound) (p := uplinkBasis) (fun _ _ ↦ rfl) _ e

theorem uplinkBasis_takeFar (report : List Fragment) :
    (e.takeFar line report).uplinkBasis =
      match line.direction with
      | .send => (Fragment.remoteInbounds report).foldl UplinkBasis.takeRemote e.uplinkBasis
      | .receive => e.uplinkBasis := by
  rw [takeFar]
  cases line.direction with
  | send => exact (List.foldl_hom uplinkBasis fun _ _ ↦ rfl).symm
  | receive =>
    exact foldl_kept (f := takeRoundTrip) (p := uplinkBasis)
      (fun _ trip ↦ by cases trip <;> rfl) _ e

theorem uplinkBasis_takeReport (r : LineReport) (tick : Nat) :
    (e.takeReport line r.report tick).uplinkBasis = e.uplinkBasis.take line r := by
  show ((e.takeLocal line r.report).takeFar line r.report).uplinkBasis = _
  rw [uplinkBasis_takeFar, uplinkBasis_takeLocal, UplinkBasis.take]
  cases line.direction <;> rfl

theorem uplinkBasis_setTickRates (mark : Option Mark) (elapsed : Span) :
    (e.setTickRates line mark elapsed).uplinkBasis = e.uplinkBasis := by
  rw [setTickRates]
  split <;> rfl

end Entry

/-- A report that says nothing about its line does not change the basis of its scores. -/
theorem LineReport.take_of_not_concerns {r : LineReport} {line : Line}
    (h : ¬ r.concerns line = true) (b : UplinkBasis) : b.take line r = b := by
  rw [UplinkBasis.take]
  split
  · rename_i hdirection
    have hremote : Fragment.remoteInbounds r.report = [] :=
      Fragment.filterMap_of_not_concerns h fun f hf ↦ by
        cases f with
        | remoteInboundRtp s => exact absurd rfl hf
        | _ => rfl
    rw [hremote, Fragment.outbounds_of_not_concerns h hdirection]
    rfl
  · rfl

theorem LineReport.uplinkBasis_update (r : LineReport) (line : Line) (tick : Nat)
    (before : Option Entry) :
    ((r.update line tick before).getD {}).uplinkBasis =
      (before.getD {}).uplinkBasis.take line r := by
  have hnotes : ∀ (e : Entry) (n : Notes), ({ e with notes := n } : Entry).uplinkBasis =
      e.uplinkBasis := fun _ _ ↦ rfl
  rw [update]
  split
  · have hnew : (before.getD (.new line.direction)).uplinkBasis =
        (before.getD {}).uplinkBasis := by
      cases before with
      | none => cases line.direction <;> rfl
      | some e => rfl
    rw [Option.map_some, Option.getD_some, hnotes, Entry.uplinkBasis_takeReport, hnew]
  · rename_i hconcerns
    rw [r.take_of_not_concerns hconcerns]
    cases before <;> rfl

namespace Taking

variable (t : Taking) (c : Settings) (line : Line)

/-- A sweep takes in what the snapshot says about the line, if anything. -/
theorem uplinkBasis_swept :
    (t.pass c).swept.uplinkBasis line =
      (t.sample.snapshot.at? line).elim (t.before.ledger.uplinkBasis line)
        ((t.before.ledger.uplinkBasis line).take line) := by
  rw [Ledger.uplinkBasis, Taking.pass, Measurement.get?_swept]
  cases t.sample.snapshot.at? line with
  | none => rfl
  | some r => exact r.uplinkBasis_update line _ _

/-- The stages after the sweep leave the basis alone. -/
theorem uplinkBasis_after :
    (t.after c).ledger.uplinkBasis line = (t.pass c).swept.uplinkBasis line := by
  have hfinish : ∀ e : Entry,
      (t.before.finish c t.sample.time t.sample.snapshot line e).uplinkBasis = e.uplinkBasis := by
    intro e
    rw [Entry.uplinkBasis, (t.before.records_finish c _ _ line e).1, ← Entry.uplinkBasis,
      Measurement.rate]
    split
    · exact e.uplinkBasis_setTickRates ..
    · rfl
  rw [Ledger.uplinkBasis, get?_after, Ledger.uplinkBasis]
  cases (t.pass c).swept.get? line with
  | none => rfl
  | some e => exact hfinish e

end Taking

/-! ### Runs -/

/-- What one more report on a line makes of the basis of its scores and of the scores so far. -/
def LineReport.judgeOn (l : Limits) (line : Line) (known : UplinkBasis × List Score)
    (r : LineReport) : UplinkBasis × List Score :=
  let basis := known.1.take line r
  (basis, known.2 ++ (r.farReports line).map fun report ↦ l.score (basis.indicators report))

/-- The scores of a line of which nothing is known but the given reports. -/
def scoresAlone (l : Limits) (line : Line) (reports : List LineReport) : List Score :=
  (reports.foldl (LineReport.judgeOn l line) (({} : Entry).uplinkBasis, [])).2

namespace Meter

variable {c : Settings} {d : Host} {m : Meter}

/-- **The scores of a line rest on the reports about it alone.** -/
theorem scores_history (hm : Meter.new c d = .ok m) (ops : List Op) (line : Line) :
    (m.history ops).flatMap (·.scoresOn c line) =
      scoresAlone c.limits line ((m.history ops).filterMap (·.sample.snapshot.at? line)) := by
  obtain rfl := eq_of_new hm
  have hknown := history_induction
    (P := fun ts before ↦
      (before.ledger.uplinkBasis line, ts.flatMap (·.scoresOn c line)) =
        (ts.filterMap (·.sample.snapshot.at? line)).foldl (LineReport.judgeOn c.limits line)
          (({} : Entry).uplinkBasis, []))
    { settings := c, host := d } rfl (fun _ _ _ h ↦ h) (fun ts t h ↦ ?_) ops
  · exact congrArg Prod.snd hknown
  · rw [List.filterMap_append, List.foldl_append, ← h, List.flatMap_append, t.uplinkBasis_after,
      t.uplinkBasis_swept, List.flatMap_singleton, t.scoresOn_eq]
    simp only [Indicators.of_eq, t.uplinkBasis_swept]
    cases hat : t.sample.snapshot.at? line with
    | none => simp [hat]
    | some r => simp [hat, LineReport.judgeOn]

/-- The scores kept are the lines' last ones, and the verdicts told of a line are the changes of its
score. -/
theorem verdicts_history (hm : Meter.new c d = .ok m) (ops : List Op) (line : Line) :
    let scores := (m.history ops).flatMap (·.scoresOn c line)
    (∃ kept, (m.run ops).measurement.monitor = .threshold c.limits kept ∧
        kept.get? line = scores.getLast?) ∧
      scores.destutter (· ≠ ·) =
        (m.history ops).flatMap fun t ↦ (t.pass c).verdicts.filterMap (·.scoreOn? line) := by
  obtain rfl := eq_of_new hm
  refine history_induction
    (P := fun ts before ↦
      (∃ kept, before.monitor = .threshold c.limits kept ∧
          kept.get? line = (ts.flatMap (·.scoresOn c line)).getLast?) ∧
        (ts.flatMap (·.scoresOn c line)).destutter (· ≠ ·) =
          ts.flatMap fun t ↦ (t.pass c).verdicts.filterMap (·.scoreOn? line))
    { settings := c, host := d } ⟨⟨∅, rfl, rfl⟩, rfl⟩ (fun _ _ _ h ↦ h) (fun ts t h ↦ ?_) ops
  obtain ⟨⟨kept, hkept, hlast⟩, hchanges⟩ := h
  have hjudged := c.limits.judgeAll_extends hlast (t.pass c).swept t.sample.snapshot.farReports
  dsimp only at hjudged
  rw [← hkept, ← t.judgeAll_eq c] at hjudged
  rw [List.flatMap_append, List.flatMap_append, List.flatMap_singleton, List.flatMap_singleton,
    ← hchanges]
  exact hjudged

/-- The scores told of a line are those of the verdicts of the samples taken. -/
theorem scoreOn?_told (hm : Meter.new c d = .ok m) (ops : List Op) (line : Line) :
    (m.told ops).filterMap (·.scoreOn? line) =
      (m.history ops).flatMap fun t ↦ (t.pass c).verdicts.filterMap (·.scoreOn? line) := by
  rw [told_eq hm, List.filterMap_flatMap]
  exact congrArg (List.flatMap · _) (funext fun t ↦ t.filterMap_scoreOn?_told c d line)

/-- **Verdicts are told when a line's score changes.** After any operations on a new meter with the
usual monitor, the verdicts told of a line are the scores of all reports of the far end about it, in
the order of their processing, with each score that repeats the one before left out. So the first
report gives a verdict, a verdict differs from the one before, and the last is the score kept for
the line; lines that receive get none. What else was reported makes no difference: a run in which
the samples taken say the same about the line, in the same order, tells the same verdicts of it. -/
theorem verdicts_are_changes (hm : Meter.new c d = .ok m) (ops : List Op) (line : Line) :
    let scores := (m.history ops).flatMap (·.scoresOn c line)
    let verdicts := (m.told ops).filterMap (·.scoreOn? line)
    verdicts = scores.destutter (· ≠ ·) ∧
      verdicts.head? = scores.head? ∧
      verdicts.IsChain (· ≠ ·) ∧
      (∃ kept, (m.run ops).measurement.monitor = .threshold c.limits kept ∧
        kept.get? line = verdicts.getLast?) ∧
      (line.direction = .receive → verdicts = []) ∧
      ∀ (d' : Host) (m' : Meter) (ops' : List Op), Meter.new c d' = .ok m' →
        (m'.history ops').filterMap (·.sample.snapshot.at? line) =
            (m.history ops).filterMap (·.sample.snapshot.at? line) →
          (m'.told ops').filterMap (·.scoreOn? line) = verdicts := by
  intro scores verdicts
  obtain ⟨⟨kept, hkept, hlast⟩, hchanges⟩ := verdicts_history hm ops line
  have hverdicts : verdicts = scores.destutter (· ≠ ·) := by
    rw [hchanges]
    exact scoreOn?_told hm ops line
  refine ⟨hverdicts, ?_, ?_, ?_, fun hreceive ↦ ?_, fun d' m' ops' hm' hsame ↦ ?_⟩
  · rw [hverdicts, head?_destutter]
  · rw [hverdicts]
    exact List.isChain_destutter ..
  · exact ⟨kept, hkept, by rw [hverdicts, getLast?_destutter, hlast]⟩
  · have hnone : scores = [] := List.flatMap_eq_nil_iff.2 fun t _ ↦ by
      rw [t.scoresOn_eq]
      exact List.flatMap_eq_nil_iff.2 fun r _ ↦ by
        simp [LineReport.farReports, Line.isSend, hreceive]
    rw [hverdicts, hnone, List.destutter_nil]
  · rw [scoreOn?_told hm', ← (verdicts_history hm' ops' line).2, hverdicts, scores_history hm',
      hsame, ← scores_history hm]

/-- Two lines are reported on in turn, across a restart. The verdicts of the first are the changes
among its five scores, and the same without the reports on the second. -/
theorem verdicts_beside_other_line :
    let m : Meter := { settings := {}, host := {} }
    let sender (trips : List Float) : SenderReport :=
      { report := trips.map fun t ↦ .remoteInboundRtp { roundTripTime := some t } }
    let ops (others : List SenderReport) : List Op :=
      [.start 0, .timeout 0, .nextRequest,
        .read ⟨⟨1, 0⟩, 5000, { audio := { senders := sender [0.1, 0.1, 0.9] :: others } }⟩,
        .stop, .start 6000, .timeout 6000, .nextRequest,
        .read ⟨⟨2, 1⟩, 11000, { audio := { senders := sender [0.9, 0.1] :: others } }⟩]
    let verdicts (others : List SenderReport) (line : Line) : List Score :=
      (m.told (ops others)).filterMap (·.scoreOn? line)
    Meter.new {} {} = .ok m ∧
      verdicts [sender [0.9]] (.send .audio 0) = [.good, .bad, .good] ∧
      verdicts [sender [0.9]] (.receive .audio 0) = [] ∧
      verdicts [] (.send .audio 0) = [.good, .bad, .good] := by
  intro m sender ops verdicts
  have hm : Meter.new {} {} = .ok m := rfl
  have hfirst := verdicts_are_changes hm (ops [sender [0.9]]) (.send .audio 0)
  have hreceive := verdicts_are_changes hm (ops [sender [0.9]]) (.receive .audio 0)
  have hchanges : verdicts [sender [0.9]] (.send .audio 0) = [.good, .bad, .good] :=
    hfirst.1.trans (by decide +kernel)
  have hsaid : ∀ others,
      (m.history (ops others)).filterMap (·.sample.snapshot.at? (.send .audio 0)) =
        [.sender (sender [0.1, 0.1, 0.9]), .sender (sender [0.9, 0.1])] := fun _ ↦ rfl
  refine ⟨hm, hchanges, hreceive.2.2.2.2.1 rfl, ?_⟩
  exact (hfirst.2.2.2.2.2 {} m (ops []) hm ((hsaid _).trans (hsaid _).symm)).trans hchanges

end Meter

end MediaTelemetry
