import Mathlib.Data.List.ReduceOption
import MediaTelemetry.Proofs.History

/-!
# Notices are told in blocks and heard in order

A meter queues what it tells and its owner takes notices from the queue whenever it likes. What has
been heard, followed by what is still queued, is what the samples taken have told, sample by sample
(`Meter.told_eq`). This rests on one equation for a single operation (`Meter.notices_step`): taking
a sample appends its block, handing over a notice moves the queue's head, and nothing else touches
the queue.

The block of a sample has three parts in a fixed order: verdicts in the order in which the far end's
reports were swept, groups that start or stop in group order, and a quality report. Which verdicts
are given is up to the monitor; it answers each report once (`Monitor.verdicts_judgeAll`).
-/

namespace MediaTelemetry

/-! ### The order inside a block -/

/-- What a report holds of the far end's word on a line that sends. -/
def LineReport.farReports (r : LineReport) (line : Line) : List RemoteInboundRtp :=
  if line.isSend then Fragment.remoteInbounds r.report else []

/-- What the far end reports about send lines, in sweep order, each with its line. -/
def Snapshot.farReports (s : Snapshot) : List FarReport :=
  s.lines.flatMap fun a ↦ (a.2.farReports a.1).map (a.1, ·)

theorem Ledger.remoteReports_sweep (ledger : Ledger) (s : Snapshot) (tick : Nat) :
    (Ledger.sweep ledger s tick).2.remoteReports = s.farReports := by
  have hadd : ∀ (found : Sweep) (line : Line) (r : LineReport),
      (found.add line r.report).remoteReports =
        found.remoteReports ++ (r.farReports line).map (line, ·) := by
    intro found line r
    rw [Sweep.add, LineReport.farReports]
    split
    · rfl
    · rw [List.map_nil, List.append_nil]
  have hfold : ∀ (l : List (Line × LineReport)) (state : Ledger × Sweep),
      (l.foldl (Sweep.step tick) state).2.remoteReports =
        state.2.remoteReports ++ l.flatMap fun a ↦ (a.2.farReports a.1).map (a.1, ·) := by
    intro l
    induction l with
    | nil => intro state; simp
    | cons r rest ih =>
      intro state
      rw [List.foldl_cons, ih, List.flatMap_cons, ← List.append_assoc, ← hadd]
      rfl
  exact hfold _ _

/-- What a monitor answers to each report of a sweep. -/
def Monitor.answers (u : Monitor) (ledger : Ledger) : List FarReport → List (Option Verdict)
  | [] => []
  | r :: rest => u.verdict? ledger r :: (u.next ledger r).answers ledger rest

/-- Each report is answered once. -/
theorem Monitor.length_answers (u : Monitor) (ledger : Ledger) (reports : List FarReport) :
    (u.answers ledger reports).length = reports.length := by
  induction reports generalizing u with
  | nil => rfl
  | cons r rest ih => rw [answers, List.length_cons, List.length_cons, ih]

/-- The verdicts given are the answers that are one. -/
theorem Monitor.verdicts_judgeAll (u : Monitor) (ledger : Ledger) (reports : List FarReport) :
    (u.judgeAll ledger reports).2 = (u.answers ledger reports).reduceOption := by
  induction reports generalizing u with
  | nil => rfl
  | cons r rest ih =>
    show (u.verdict? ledger r).toList ++ ((u.next ledger r).judgeAll ledger rest).2 = _
    rw [ih, answers]
    cases u.verdict? ledger r with
    | none => rw [List.reduceOption_cons_of_none]; rfl
    | some v => rw [List.reduceOption_cons_of_some]; rfl

/-- The score of every report, with its line, whether or not it is a change. -/
def Limits.judgements (l : Limits) (ledger : Ledger) (reports : List FarReport) : List Verdict :=
  reports.map fun r ↦ ⟨r.1, l.score (.of ledger r.1 r.2)⟩

/-- What is judged by limits is told in the order of the reports. -/
theorem Limits.sublist_judgements (l : Limits) (scores : Scores) (ledger : Ledger)
    (reports : List FarReport) :
    ((Monitor.threshold l scores).judgeAll ledger reports).2.Sublist
      (l.judgements ledger reports) := by
  induction reports generalizing scores with
  | nil => exact .slnil
  | cons r rest ih =>
    show ((scores.verdict? _ _).toList ++ _).Sublist (_ :: l.judgements ledger rest)
    rw [Scores.verdict?]
    split
    · exact (ih _).cons _
    · exact (ih _).cons_cons _

/-- Groups are ordered by medium, then by side. -/
def Group.Precedes (g g' : Group) : Prop :=
  g.medium.rank < g'.medium.rank ∨
    g.medium.rank = g'.medium.rank ∧ g.side.rank < g'.side.rank

instance : DecidableRel Group.Precedes :=
  fun _ _ ↦ inferInstanceAs (Decidable (_ ∨ _))

/-- The announcements of a sample come in group order, at most one for each group. -/
theorem Flows.pairwise_changes (f : Flows) (live : Group → Bool) :
    (f.changes live).Pairwise fun a b ↦ a.1.Precedes b.1 := by
  have hall : Group.all.Pairwise Group.Precedes := by decide
  refine List.pairwise_filterMap.2 (hall.imp fun hprecedes a ha b hb ↦ ?_)
  obtain ⟨_, -, rfl⟩ := Option.map_eq_some_iff.1 ha
  obtain ⟨_, -, rfl⟩ := Option.map_eq_some_iff.1 hb
  exact hprecedes

namespace Taking

variable (t : Taking) (c : Settings)

/-- What the monitor answers to each report of the far end in the sample, in sweep order. -/
def answers : List (Option Verdict) :=
  t.before.monitor.answers (t.pass c).swept t.sample.snapshot.farReports

/-- The scores of all reports of the far end in the sample, in sweep order. -/
def judgements : List Verdict :=
  c.limits.judgements (t.pass c).swept t.sample.snapshot.farReports

/-- What the sample makes of the monitor, and its verdicts. -/
theorem judgeAll_eq :
    ((t.pass c).monitor, (t.pass c).verdicts) =
      t.before.monitor.judgeAll (t.pass c).swept t.sample.snapshot.farReports := by
  rw [← Ledger.remoteReports_sweep t.before.ledger _ (t.before.ticks + 1)]
  rfl

theorem verdicts_eq : (t.pass c).verdicts = (t.answers c).reduceOption :=
  (congrArg Prod.snd (t.judgeAll_eq c)).trans (Monitor.verdicts_judgeAll ..)

theorem sublist_judgements {scores : Scores}
    (h : t.before.monitor = .threshold c.limits scores) :
    (t.pass c).verdicts.Sublist (t.judgements c) := by
  rw [show (t.pass c).verdicts = _ from congrArg Prod.snd (t.judgeAll_eq c), h]
  exact Limits.sublist_judgements ..

end Taking

/-! ### The queue -/

namespace Meter

/-- The notice that an answer of the meter hands over. -/
def Reply.notice? : Reply → Option Notice
  | .notice n => n
  | _ => none

/-- The notices handed over during operations. -/
def heard (m : Meter) : List Op → List Notice
  | [] => []
  | op :: ops => (m.reply op).notice?.toList ++ heard (m.step op) ops

/-- The notices told during operations: those handed over, then those still queued. -/
def told (m : Meter) (ops : List Op) : List Notice := m.heard ops ++ (m.run ops).notices

theorem Reply.notice?_ofSchedule (outcome : Except Fault Schedule) :
    (Reply.ofSchedule outcome).notice? = none := by
  cases outcome <;> rfl

theorem notice?_reply (m : Meter) {op : Op} (h : op ≠ .nextNotice) :
    (m.reply op).notice? = none := by
  cases op with
  | start | stop => exact Reply.notice?_ofSchedule _
  | command c =>
    cases c with
    | expect status => rfl
    | stop => exact Reply.notice?_ofSchedule _
  | nextNotice => exact absurd rfl h
  | _ => rfl

/-- **One operation.** What it hands over and what it leaves queued are what was queued before and
the block of the sample it takes, if it takes one. -/
theorem notices_step (m : Meter) (op : Op) :
    (m.reply op).notice?.toList ++ (m.step op).notices =
      m.notices ++ (m.taking? op).toList.flatMap (·.told m.settings m.host) := by
  cases op with
  | nextNotice => cases h : m.notices <;> simp [reply, step, taking?, Reply.notice?, h]
  | read s =>
    rw [m.notice?_reply (by simp), step, read, taking?]
    split <;> simp [Taking.told]
  | command c =>
    rw [m.notice?_reply (by simp)]
    cases c with
    | expect status => simp [taking?, step, expect]
    | stop => rw [m.step_of_isTiming rfl]; simp [taking?]
  | expect status => simp [reply, Reply.notice?, step, taking?, expect]
  | _ => rw [m.notice?_reply (by simp), m.step_of_isTiming rfl]; simp [taking?]

/-- What is heard and what is queued are what was queued at first and the blocks of the samples
taken. -/
theorem heard_append_notices (m : Meter) (ops : List Op) :
    m.heard ops ++ (m.run ops).notices =
      m.notices ++ (m.history ops).flatMap (·.told m.settings m.host) := by
  induction ops generalizing m with
  | nil => simp [heard, history]
  | cons op rest ih =>
    rw [heard, run_cons, history, List.flatMap_append, List.append_assoc, ih,
      ← List.append_assoc, ← List.append_assoc, notices_step, (m.setup_step op).1,
      (m.setup_step op).2]

variable {c : Settings} {d : Host} {monitor : Monitor} {m : Meter}

/-- **A meter tells what its samples tell.** -/
theorem told_eq (hm : Meter.new c d monitor = .ok m) (ops : List Op) :
    m.told ops = (m.history ops).flatMap (·.told c d) := by
  rw [told, heard_append_notices, settings_of_new hm, host_of_new hm, eq_of_new hm,
    List.nil_append]

/-- A monitor that judges by limits goes on doing so. -/
theorem threshold_history {l : Limits} (hm : Meter.new c d (.threshold l) = .ok m)
    (ops : List Op) :
    (∀ t ∈ m.history ops, ∃ scores, t.before.monitor = .threshold l scores) ∧
      ∃ scores, (m.run ops).measurement.monitor = .threshold l scores := by
  refine m.monitor_history (P := fun u ↦ ∃ scores, u = .threshold l scores) ?_ ?_ ops
  · rintro u ledger r ⟨scores, rfl⟩
    exact ⟨_, rfl⟩
  · rw [measurement_of_new hm]
    exact ⟨∅, rfl⟩

/-- **No notice is lost, repeated or moved.** After any operations on a new meter, the notices
handed over so far and then those still queued are the blocks of the samples taken, in the order of
their taking. A block is made of the sample's verdicts, in the order in which the far end's reports
were swept, then of the groups that start or stop, in group order and each group once, then of one
quality report or none. The monitor answers each report once, and the verdicts are the answers that
are one; with the usual monitor they are some of the scores of the reports. An operation that
neither takes a sample nor asks for a notice, such as a stop, hands nothing over and leaves the
queue alone. -/
theorem notices_in_blocks (hm : Meter.new c d monitor = .ok m) (ops : List Op) :
    m.heard ops ++ (m.run ops).notices = (m.history ops).flatMap (·.told c d) ∧
      (∀ t ∈ m.history ops,
        t.told c d =
            (t.pass c).verdicts.map .uplink ++
              (t.before.flows.changes (t.pass c).live).map (fun (g, change) ↦ .flow g change) ++
              (t.before.report? c d (t.pass c)).toList.map .quality ∧
          (t.pass c).verdicts = (t.answers c).reduceOption ∧
          (t.answers c).length = t.sample.snapshot.farReports.length ∧
          (monitor = .threshold c.limits → (t.pass c).verdicts.Sublist (t.judgements c)) ∧
          ((t.before.flows.changes (t.pass c).live).Pairwise fun a b ↦ a.1.Precedes b.1) ∧
          (t.before.report? c d (t.pass c)).toList.length ≤ 1) ∧
      ∀ op, op ≠ .nextNotice → (m.run ops).taking? op = none →
        ((m.run ops).reply op).notice? = none ∧
          ((m.run ops).step op).notices = (m.run ops).notices := by
  refine ⟨told_eq hm ops, fun t ht ↦ ⟨rfl, t.verdicts_eq c, Monitor.length_answers .., ?_,
    Flows.pairwise_changes _ _, ?_⟩, fun op hop htaking ↦ ?_⟩
  · rintro rfl
    obtain ⟨scores, hscores⟩ := (threshold_history hm ops).1 t ht
    exact t.sublist_judgements c hscores
  · cases t.before.report? c d (t.pass c) <;> simp
  · have hnone := (m.run ops).notice?_reply hop
    have hstep := (m.run ops).notices_step op
    rw [hnone, htaking] at hstep
    exact ⟨hnone, by simpa using hstep⟩

/-- A sample tells a verdict, a start and a quality report. The first is heard and the others wait,
also after a stop. -/
theorem notices_of_one_sample :
    let c : Settings := { interval := 2, qualityInterval := 2 }
    let m : Meter := { settings := c, host := {} }
    let s : Snapshot := { audio := { senders := [
      { report := [.outboundRtp { packetsSent := some 10 },
        .remoteInboundRtp { roundTripTime := some 0.9 }] }] } }
    let ops : List Op :=
      [.start 0, .timeout 0, .nextRequest, .read ⟨⟨1, 0⟩, 2, s⟩, .nextNotice]
    Meter.new c {} = .ok m ∧
      (m.heard ops ++ (m.run ops).notices).map Notice.name =
        ["NETWORK_QUALITY", "LOCAL_MEDIA_STARTED", "MEDIA_QUALITY"] ∧
      (∃ t ∈ m.history ops, (t.pass c).verdicts.Sublist (t.judgements c) ∧
        (t.pass c).verdicts = [⟨.send .audio 0, .bad⟩]) ∧
      (m.run ops).notices.length = 2 ∧
      ((m.run ops).step .stop).notices = (m.run ops).notices := by
  have hm : Meter.new { interval := 2, qualityInterval := 2 } {} =
      .ok { settings := { interval := 2, qualityInterval := 2 } } := rfl
  intro c m s ops
  have htaken : ⟨m.measurement, ⟨⟨1, 0⟩, 2, s⟩⟩ ∈ m.history ops := List.mem_singleton.2 rfl
  obtain ⟨hqueue, hblocks, hquiet⟩ := notices_in_blocks hm ops
  refine ⟨hm, ?_, ⟨_, htaken, (hblocks _ htaken).2.2.2.1 rfl, by decide +kernel⟩, by decide +kernel,
    (hquiet .stop (by simp) rfl).2⟩
  rw [hqueue]
  decide +kernel

end Meter

end MediaTelemetry
