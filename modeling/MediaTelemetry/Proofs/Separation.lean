import MediaTelemetry.Proofs.Notices
import MediaTelemetry.Proofs.Requests

/-!
# Schedule and measurement do not see each other

A meter has two halves, and what each half does can be told from the operations that reach it
(`Meter.halves_separate`).

* The schedule is reached by the operations in `Op.isTiming`. Meters that agree on it
  (`Meter.SameTiming`) answer these alike and go on agreeing, and one of them may do anything else
  meanwhile; so a run answers as if the other operations were left out (`Meter.SameTiming.run`).
* The measurement is reached by the samples that are taken, each with the media expected then
  (`Meter.intake`). What is known and told after a run is a fold over them
  (`Meter.outcome_history`), in which no operation occurs.

The halves meet only where a sample is accepted or not, and that decides what the intake of a run
is.
-/

namespace MediaTelemetry

namespace Meter

/-! ### The schedule's half -/

/-- What the operations that reach the schedule answer, each with the time at which the next tick is
due after it. -/
def timings (m : Meter) : List Op → List (Reply × Option Nat)
  | [] => []
  | op :: ops =>
    if op.isTiming then (m.reply op, (m.step op).schedule.due?) :: timings (m.step op) ops
    else timings (m.step op) ops

/-- The meters agree on all that a schedule goes by. -/
structure SameTiming (m m' : Meter) : Prop where
  schedule : m.schedule = m'.schedule
  interval : m.settings.interval = m'.settings.interval

namespace SameTiming

variable {m m' : Meter} {op : Op}

theorem refl (m : Meter) : SameTiming m m := ⟨rfl, rfl⟩

theorem step (h : SameTiming m m') (op : Op) : SameTiming (m.step op) (m'.step op) where
  schedule := by rw [schedule_step, schedule_step, h.schedule, h.interval]
  interval := by rw [(m.setup_step op).1, (m'.setup_step op).1, h.interval]

/-- An operation that does not reach the schedule keeps the agreement with a meter that rests. -/
theorem step_left (h : SameTiming m m') (hop : op.isTiming = false) :
    SameTiming (m.step op) m' where
  schedule := by
    rw [schedule_step, ← h.schedule]
    cases op with
    | command c =>
      cases c with
      | expect status => rfl
      | stop => exact absurd hop (by simp [Op.isTiming])
    | expect | read | nextNotice => rfl
    | _ => exact absurd hop (by simp [Op.isTiming])
  interval := by rw [(m.setup_step op).1, h.interval]

theorem reply (h : SameTiming m m') (hop : op.isTiming = true) : m.reply op = m'.reply op := by
  cases op with
  | start | stop | nextRequest => rw [Meter.reply, Meter.reply, h.schedule]
  | command c =>
    cases c with
    | expect status => rfl
    | stop => rw [Meter.reply, Meter.reply, h.schedule]
  | nextNotice => exact absurd hop (by simp [Op.isTiming])
  | _ => rfl

/-- **Only timing matters to a schedule.** A run is, to the schedule, the run of its operations that
reach it. -/
theorem run (h : SameTiming m m') (ops : List Op) :
    m.timings ops = m'.timings (ops.filter Op.isTiming) ∧
      SameTiming (m.run ops) (m'.run (ops.filter Op.isTiming)) := by
  induction ops generalizing m m' with
  | nil => exact ⟨rfl, h⟩
  | cons op rest ih =>
    cases hop : op.isTiming with
    | true =>
      obtain ⟨htimings, hrun⟩ := ih (h.step op)
      rw [List.filter_cons_of_pos hop, timings, if_pos hop, timings, if_pos hop, htimings,
        h.reply hop, (h.step op).schedule]
      exact ⟨rfl, hrun⟩
    | false =>
      rw [List.filter_cons_of_neg (by simp [hop]), timings, if_neg (by simp [hop])]
      exact ih (h.step_left hop)

end SameTiming

/-! ### The measurement's half -/

/-- The media expected after an operation. -/
def Op.expected (status : Status) : Op → Status
  | .command (.expect status') | .expect status' => status'
  | _ => status

end Meter

/-- What a taking adds to a measurement: a snapshot with its time, and the media expected then. -/
structure Intake where
  expected : Status
  time : Nat
  snapshot : Snapshot

/-- What is taken in by a taking. -/
def Taking.intake (t : Taking) : Intake := ⟨t.before.status, t.sample.time, t.sample.snapshot⟩

/-- What is known and what has been told, after one more intake. -/
def Intake.add (c : Settings) (d : Host) (known : Measurement × List Notice) (i : Intake) :
    Measurement × List Notice :=
  let before := { known.1 with status := i.expected }
  (before.take c i.time i.snapshot, known.2 ++ before.told c d i.time i.snapshot)

namespace Meter

/-- What the samples taken during operations bring in, where at first the media in `expected` are
expected. -/
def intake (m : Meter) (expected : Status) : List Op → List Intake
  | [] => []
  | op :: ops =>
    (m.taking? op).toList.map (fun t ↦ ⟨expected, t.sample.time, t.sample.snapshot⟩) ++
      intake (m.step op) (op.expected expected) ops

theorem status_step (m : Meter) (op : Op) :
    (m.step op).measurement.status = op.expected m.measurement.status := by
  cases op with
  | read s => rw [step, read]; split <;> rfl
  | command c =>
    cases c with
    | expect status => rfl
    | stop => rw [m.step_of_isTiming rfl]; rfl
  | expect | nextNotice => rfl
  | _ => rw [m.step_of_isTiming rfl]; rfl

theorem map_intake_history (m : Meter) (ops : List Op) :
    (m.history ops).map Taking.intake = m.intake m.measurement.status ops := by
  induction ops generalizing m with
  | nil => rfl
  | cons op rest ih =>
    have hfirst : (m.taking? op).toList.map Taking.intake =
        (m.taking? op).toList.map fun t ↦
          ⟨m.measurement.status, t.sample.time, t.sample.snapshot⟩ := by
      refine List.map_congr_left fun t ht ↦ ?_
      rw [Taking.intake, (taking?_eq_some_iff.1 (Option.mem_toList.1 ht)).2.1]
    rw [history, List.map_append, ih, status_step, hfirst, intake]

variable {c : Settings} {d : Host} {monitor : Monitor} {m : Meter}

/-- **Only the intake matters to a measurement.** What a run has told is what its intake adds up to,
and so is what is known after it, but for the media expected since the last sample. -/
theorem outcome_history (hm : Meter.new c d monitor = .ok m) (ops : List Op) :
    let outcome := (m.intake {} ops).foldl (Intake.add c d) ({ monitor }, [])
    m.told ops = outcome.2 ∧
      (m.run ops).measurement =
        { outcome.1 with status := (m.run ops).measurement.status } := by
  rw [told_eq hm]
  obtain rfl := eq_of_new hm
  rw [← map_intake_history]
  refine history_induction
    (P := fun ts before ↦
      let outcome := (ts.map Taking.intake).foldl (Intake.add c d) ({ monitor }, [])
      ts.flatMap (·.told c d) = outcome.2 ∧
        before = { outcome.1 with status := before.status })
    { settings := c, host := d, measurement := { monitor } } ⟨rfl, rfl⟩
    (fun ts before status h ↦ ⟨h.1, ?_⟩) (fun ts t h ↦ ?_) ops
  · rw [h.2]
  · obtain ⟨htold, hbefore⟩ := h
    rw [List.map_append, List.map_singleton, List.foldl_concat, List.flatMap_append,
      List.flatMap_singleton, htold]
    generalize (ts.map Taking.intake).foldl (Intake.add c d) ({ monitor }, []) = outcome at hbefore
    rw [Intake.add, Taking.intake, ← hbefore]
    exact ⟨rfl, rfl⟩

/-- **The halves of a meter do not see each other.**

* New meters with the same interval, to which the operations that reach the schedule are applied in
  the same order, answer these alike and have the same ticks due after each of them and in the end,
  whatever samples are read, notices taken and media expected in between.
* Two runs of a new meter that take snapshots of the same times and contents, while the same media
  are expected, tell the same and end with the same ledger, address, transport and marks, however
  the snapshots were asked for and whatever else was refused or rejected.
-/
theorem halves_separate (hm : Meter.new c d monitor = .ok m) (ops ops' : List Op) :
    (∀ (c' : Settings) (d' : Host) (monitor' : Monitor) (m' : Meter),
        Meter.new c' d' monitor' = .ok m' → c'.interval = c.interval →
          ops'.filter Op.isTiming = ops.filter Op.isTiming →
          m'.timings ops' = m.timings ops ∧
            (m'.run ops').schedule.due? = (m.run ops).schedule.due?) ∧
      (m.intake {} ops' = m.intake {} ops →
        m.told ops' = m.told ops ∧
          (m.run ops').measurement.ledger = (m.run ops).measurement.ledger ∧
          (m.run ops').measurement.address = (m.run ops).measurement.address ∧
          (m.run ops').measurement.transport = (m.run ops).measurement.transport ∧
          (m.run ops').measurement.previous = (m.run ops).measurement.previous ∧
          (m.run ops').measurement.reported = (m.run ops).measurement.reported) := by
  refine ⟨fun c' d' monitor' m' hm' hinterval hops ↦ ?_, fun hintake ↦ ?_⟩
  · have hsame : SameTiming m' m := by
      rw [eq_of_new hm, eq_of_new hm']
      exact ⟨rfl, hinterval⟩
    obtain ⟨htimings, hrun⟩ := (SameTiming.refl m).run ops
    obtain ⟨htimings', hrun'⟩ := hsame.run ops'
    rw [hops] at htimings' hrun'
    exact ⟨htimings'.trans htimings.symm, by rw [hrun'.schedule, hrun.schedule]⟩
  · obtain ⟨htold, hknown⟩ := outcome_history hm ops
    obtain ⟨htold', hknown'⟩ := outcome_history hm ops'
    rw [hintake] at htold' hknown'
    refine ⟨htold'.trans htold.symm, ?_⟩
    rw [hknown, hknown']
    exact ⟨rfl, rfl, rfl, rfl, rfl⟩

/-- Two snapshots are taken across a restart, with a stale one between them. A meter that is shown
no snapshot makes the same requests, and one that takes both in a single run comes to know the same.
-/
theorem halves_of_restarted_meter :
    let m : Meter := { settings := {}, host := {} }
    let other : Meter := { settings := { recency := 0 }, host := {} }
    let talking : Status := { sendAudio := true }
    let first : Snapshot := { audio := { senders := [
      { report := [.outboundRtp { packetsSent := some 10 },
        .remoteInboundRtp { roundTripTime := some 0.9 }] }] } }
    let second : Snapshot := { audio := { senders := [
      { report := [.outboundRtp { packetsSent := some 10 }] }] } }
    let restarted : List Op :=
      [.start 0, .timeout 0, .expect talking, .nextRequest, .read ⟨⟨1, 0⟩, 5000, first⟩,
        .nextNotice, .stop, .start 6000, .timeout 6000, .read ⟨⟨1, 0⟩, 10000, first⟩, .nextRequest,
        .read ⟨⟨2, 1⟩, 11000, second⟩]
    let unread : List Op :=
      [.start 0, .timeout 0, .nextRequest, .stop, .start 6000, .timeout 6000, .nextRequest]
    let steady : List Op :=
      [.command (.expect talking), .start 2, .timeout 2, .timeout 5002, .nextRequest,
        .read ⟨⟨1, 0⟩, 5000, first⟩, .nextRequest, .read ⟨⟨1, 1⟩, 11000, second⟩, .close]
    Meter.new {} {} = .ok m ∧ Meter.new { recency := 0 } {} = .ok other ∧
      other.timings unread = m.timings restarted ∧
      other.timings unread =
        [(.done, some 0), (.done, some 5000), (.request (some ⟨1, 0⟩), some 5000), (.done, none),
          (.done, some 6000), (.done, some 11000), (.request (some ⟨2, 1⟩), some 11000)] ∧
      m.intake {} steady = [⟨talking, 5000, first⟩, ⟨talking, 11000, second⟩] ∧
      m.told steady = m.told restarted ∧
      (m.run steady).measurement.ledger = (m.run restarted).measurement.ledger := by
  intro m other talking first second restarted unread steady
  have hm : Meter.new {} {} = .ok m := rfl
  have hother : Meter.new { recency := 0 } {} = .ok other := rfl
  have hrestarted :
      m.intake {} restarted = [⟨talking, 5000, first⟩, ⟨talking, 11000, second⟩] := rfl
  have hsteady : m.intake {} steady = [⟨talking, 5000, first⟩, ⟨talking, 11000, second⟩] := rfl
  obtain ⟨htiming, -⟩ := halves_separate hm restarted unread
  obtain ⟨-, hintake⟩ := halves_separate hm restarted steady
  obtain ⟨htold, hledger, -⟩ := hintake (hsteady.trans hrestarted.symm)
  exact ⟨hm, hother, (htiming _ {} _ other hother rfl rfl).1, rfl, hsteady, htold, hledger⟩

end Meter

end MediaTelemetry
