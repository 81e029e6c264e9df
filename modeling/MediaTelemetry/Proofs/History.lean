import Mathlib.Data.List.Induction
import MediaTelemetry.Meter

/-!
# The history of a meter

The samples that a meter took during operations, in order, each with the measurement that it was
taken into (`Meter.history`). Nothing else but a change of the expected media touches a measurement,
so a run of operations is a chain of takings:

* `history_induction` carries an invariant along the chain: it has to survive a change of the
  expected media and one taking;
* `chain_history` unrolls the chain from its start, for arguments that compare two runs.

Starts, stops, time-outs, requests and rejected samples appear in neither: an operation that reaches
the schedule changes nothing else (`step_of_isTiming`).
-/

namespace MediaTelemetry

theorem Monitor.judgeAll_fst_of_next {P : Monitor → Prop}
    (hnext : ∀ u ledger r, P u → P (u.next ledger r)) {u : Monitor} (h : P u) (ledger : Ledger)
    (reports : List FarReport) : P (u.judgeAll ledger reports).1 := by
  induction reports generalizing u with
  | nil => exact h
  | cons r rest ih => exact ih (hnext u ledger r h)

/-- A sample that was taken, with the measurement that it was taken into. -/
structure Taking where
  before : Measurement
  sample : Sample

namespace Taking

variable (t : Taking) (c : Settings) (d : Host)

/-- The stages of the taking. -/
def pass : Measurement.Pass := t.before.pass c t.sample.time t.sample.snapshot

/-- The measurement that the taking leaves. -/
def after : Measurement := t.before.take c t.sample.time t.sample.snapshot

/-- What the taking tells. -/
def told : List Notice := t.before.told c d t.sample.time t.sample.snapshot

/-- What is picked from the notices of a taking is picked from its three stages in turn: verdicts,
groups that start or stop, and the quality report. -/
theorem filterMap_told {α : Type} (f : Notice → Option α) :
    (t.told c d).filterMap f =
      (t.pass c).verdicts.filterMap (fun v ↦ f (.uplink v)) ++
        (t.before.flows.changes (t.pass c).live).filterMap (fun a ↦ f (.flow a.1 a.2)) ++
        (t.before.report? c d (t.pass c)).toList.filterMap fun r ↦ f (.quality r) := by
  show (t.before.notices c d (t.pass c)).filterMap f = _
  rw [Measurement.notices, List.filterMap_append, List.filterMap_append, List.filterMap_map,
    List.filterMap_map, List.filterMap_map]
  rfl

end Taking

namespace Meter

/-- The taking that an operation is, if it is one. -/
def taking? (m : Meter) : Op → Option Taking
  | .read s => if m.accepts s.request then some ⟨m.measurement, s⟩ else none
  | _ => none

/-- The samples taken during operations. -/
def history (m : Meter) : List Op → List Taking
  | [] => []
  | op :: ops => (m.taking? op).toList ++ history (m.step op) ops

@[simp] theorem run_nil (m : Meter) : m.run [] = m := rfl

@[simp] theorem run_cons (m : Meter) (op : Op) (ops : List Op) :
    m.run (op :: ops) = (m.step op).run ops := rfl

theorem run_append (m : Meter) (ops ops' : List Op) :
    m.run (ops ++ ops') = (m.run ops).run ops' := by
  simp only [run, List.foldl_append]

theorem run_concat (m : Meter) (ops : List Op) (op : Op) :
    m.run (ops ++ [op]) = (m.run ops).step op := by
  rw [run_append, run_cons, run_nil]

theorem history_append (m : Meter) (ops ops' : List Op) :
    m.history (ops ++ ops') = m.history ops ++ (m.run ops).history ops' := by
  induction ops generalizing m with
  | nil => rfl
  | cons op rest ih =>
    rw [List.cons_append, history, history, ih, List.append_assoc, run_cons]

theorem history_concat (m : Meter) (ops : List Op) (op : Op) :
    m.history (ops ++ [op]) = m.history ops ++ ((m.run ops).taking? op).toList := by
  rw [history_append, history, history, List.append_nil]

/-! ### One operation -/

/-- The operation reaches the schedule. -/
def Op.isTiming : Op → Bool
  | .start _ | .stop | .close | .command .stop | .timeout _ | .nextRequest => true
  | .command (.expect _) | .expect _ | .read _ | .nextNotice => false

end Meter

/-- The schedule after an operation on its meter. -/
def Schedule.after (interval : Nat) (s : Schedule) : Meter.Op → Schedule
  | .start now => (s.start now).toOption.getD s
  | .stop | .command .stop => s.stop.toOption.getD s
  | .close => s.close
  | .timeout now => s.tick interval now
  | .nextRequest => s.handOut
  | .command (.expect _) | .expect _ | .read _ | .nextNotice => s

namespace Meter

/-- An operation that reaches the schedule changes nothing else. -/
theorem step_of_isTiming (m : Meter) {op : Op} (h : op.isTiming = true) :
    m.step op = { m with schedule := m.schedule.after m.settings.interval op } := by
  have hscheduled : ∀ outcome : Except Fault Schedule,
      m.scheduled outcome = { m with schedule := outcome.toOption.getD m.schedule } := by
    intro outcome
    cases outcome <;> rfl
  cases op with
  | start now => exact hscheduled _
  | stop => exact hscheduled _
  | command c =>
    cases c with
    | expect status => exact absurd h Bool.false_ne_true
    | stop => exact hscheduled _
  | close | timeout | nextRequest => rfl
  | expect | read | nextNotice => exact absurd h Bool.false_ne_true

/-- Only its own state and the interval decide what becomes of a schedule. -/
theorem schedule_step (m : Meter) (op : Op) :
    (m.step op).schedule = m.schedule.after m.settings.interval op := by
  cases op with
  | read s =>
    rw [step, read]
    split <;> rfl
  | command c =>
    cases c with
    | expect status => rfl
    | stop => rw [m.step_of_isTiming rfl]
  | expect | nextNotice => rfl
  | _ => rw [m.step_of_isTiming rfl]

/-- No operation changes what the meter was set up with. -/
theorem setup_step (m : Meter) (op : Op) :
    (m.step op).settings = m.settings ∧ (m.step op).host = m.host := by
  cases op with
  | read s => rw [step, read]; split <;> exact ⟨rfl, rfl⟩
  | command c =>
    cases c with
    | expect status => exact ⟨rfl, rfl⟩
    | stop => rw [m.step_of_isTiming rfl]; exact ⟨rfl, rfl⟩
  | expect | nextNotice => exact ⟨rfl, rfl⟩
  | _ => rw [m.step_of_isTiming rfl]; exact ⟨rfl, rfl⟩

theorem settings_run (m : Meter) (ops : List Op) : (m.run ops).settings = m.settings := by
  induction ops generalizing m with
  | nil => rfl
  | cons op rest ih => rw [run_cons, ih, (m.setup_step op).1]

theorem host_run (m : Meter) (ops : List Op) : (m.run ops).host = m.host := by
  induction ops generalizing m with
  | nil => rfl
  | cons op rest ih => rw [run_cons, ih, (m.setup_step op).2]

theorem taking?_eq_some_iff {m : Meter} {op : Op} {t : Taking} :
    m.taking? op = some t ↔
      op = .read t.sample ∧ t.before = m.measurement ∧ m.accepts t.sample.request = true := by
  obtain ⟨before, s⟩ := t
  cases op with
  | read s' =>
    simp only [taking?, Option.ite_none_right_eq_some, Option.some.injEq, Taking.mk.injEq,
      Op.read.injEq]
    constructor
    · rintro ⟨h, rfl, rfl⟩
      exact ⟨rfl, rfl, h⟩
    · rintro ⟨rfl, rfl, h⟩
      exact ⟨h, rfl, rfl⟩
  | _ => simp [taking?]

theorem measurement_step_of_taking {m : Meter} {op : Op} {t : Taking} (h : m.taking? op = some t) :
    (m.step op).measurement = t.after m.settings := by
  obtain ⟨rfl, hbefore, haccepts⟩ := taking?_eq_some_iff.1 h
  rw [step, read, if_pos haccepts, Taking.after, hbefore]

/-- An operation that takes no sample changes at most which media are expected. -/
theorem measurement_step_of_not_taking {m : Meter} {op : Op} (h : m.taking? op = none) :
    ∃ status, (m.step op).measurement = { m.measurement with status } := by
  cases op with
  | read s =>
    have hrejects : ¬ m.accepts s.request = true := fun ha ↦ by simp [taking?, ha] at h
    exact ⟨m.measurement.status, by rw [step, read, if_neg hrejects]⟩
  | command c =>
    cases c with
    | expect status => exact ⟨status, rfl⟩
    | stop => rw [m.step_of_isTiming rfl]; exact ⟨m.measurement.status, rfl⟩
  | expect status => exact ⟨status, rfl⟩
  | nextNotice => exact ⟨m.measurement.status, rfl⟩
  | _ => rw [m.step_of_isTiming rfl]; exact ⟨m.measurement.status, rfl⟩

/-! ### Runs -/

/-- **Induction along a history.** What holds of a measurement before any sample, whatever media
come to be expected, and outlasts a taking, holds after any operations. -/
theorem history_induction {P : List Taking → Measurement → Prop} (m : Meter)
    (initial : P [] m.measurement)
    (expect : ∀ ts before status, P ts before → P ts { before with status := status })
    (take : ∀ ts t, P ts t.before → P (ts ++ [t]) (t.after m.settings)) (ops : List Op) :
    P (m.history ops) (m.run ops).measurement := by
  induction ops using List.reverseRecOn with
  | nil => exact initial
  | append_singleton ops op ih =>
    rw [history_concat, run_concat]
    cases h : (m.run ops).taking? op with
    | none =>
      -- at most the media expected change
      obtain ⟨status, hstatus⟩ := measurement_step_of_not_taking h
      rw [hstatus, Option.toList_none, List.append_nil]
      exact expect _ _ status ih
    | some t =>
      rw [measurement_step_of_taking h, settings_run]
      exact take _ t ((taking?_eq_some_iff.1 h).2.1 ▸ ih)

/-- Samples lead a monitor on report by report, so what outlasts one report outlasts them all. -/
theorem monitor_history {P : Monitor → Prop} (m : Meter)
    (hnext : ∀ u ledger r, P u → P (u.next ledger r)) (h : P m.measurement.monitor)
    (ops : List Op) :
    (∀ t ∈ m.history ops, P t.before.monitor) ∧ P (m.run ops).measurement.monitor := by
  refine history_induction
    (P := fun ts before ↦ (∀ t ∈ ts, P t.before.monitor) ∧ P before.monitor) m ⟨by simp, h⟩
    (fun _ _ _ h ↦ h) (fun ts t h ↦ ⟨fun u hu ↦ ?_, ?_⟩) ops
  · rcases List.mem_append.1 hu with hu | hu
    · exact h.1 u hu
    · rw [List.mem_singleton.1 hu]
      exact h.2
  · exact Monitor.judgeAll_fst_of_next hnext h.2 _ _

/-- No two takings of a history are the same: each is counted. -/
theorem history_nodup (m : Meter) (ops : List Op) : (m.history ops).Nodup := by
  have hticks := history_induction
    (P := fun ts before ↦ (ts.Pairwise fun t u ↦ t.before.ticks < u.before.ticks) ∧
      ∀ t ∈ ts, t.before.ticks < before.ticks) m ⟨.nil, by simp⟩ (fun _ _ _ h ↦ h) ?_ ops
  · refine hticks.1.imp fun {t u} hlt heq ↦ ?_
    rw [heq] at hlt
    exact Nat.lt_irrefl _ hlt
  · rintro ts t ⟨hordered, hbelow⟩
    refine ⟨List.pairwise_append.2 ⟨hordered, List.pairwise_singleton _ _, ?_⟩, ?_⟩
    · intro u hu v hv
      rw [List.mem_singleton.1 hv]
      exact hbelow u hu
    · intro u hu
      show u.before.ticks < t.before.ticks + 1
      rcases List.mem_append.1 hu with hu | hu
      · exact Nat.lt_succ_of_lt (hbelow u hu)
      · rw [List.mem_singleton.1 hu]
        exact Nat.lt_succ_self _

/-- Each taking of a history found the meter as it was after some operations with the takings before
it. -/
theorem history_split (m : Meter) {ops : List Op} {earlier later : List Taking} {t : Taking}
    (h : m.history ops = earlier ++ t :: later) :
    ∃ ops', m.history ops' = earlier ∧ (m.run ops').measurement = t.before := by
  induction ops using List.reverseRecOn generalizing later with
  | nil => exact absurd h (by simp [history])
  | append_singleton ops op ih =>
    rw [history_concat] at h
    cases hop : (m.run ops).taking? op with
    | none =>
      rw [hop, Option.toList_none, List.append_nil] at h
      exact ih h
    | some u =>
      rw [hop, Option.toList_some] at h
      -- `t` is this last taking, or one of those before it
      cases later using List.reverseRecOn with
      | nil =>
        obtain ⟨hearlier, hu⟩ := List.append_inj' h rfl
        obtain rfl := List.singleton_inj.1 hu
        exact ⟨ops, hearlier, (taking?_eq_some_iff.1 hop).2.1.symm⟩
      | append_singleton later last _ =>
        rw [← List.cons_append, ← List.append_assoc] at h
        exact ih (List.append_inj' h rfl).1

end Meter

/-- Each taking found the measurement that the one before it left, up to the media expected. -/
inductive Chain (c : Settings) : Measurement → List Taking → Prop
  | nil (m : Measurement) : Chain c m []
  | cons {m : Measurement} {t : Taking} {ts : List Taking}
      (found : ∃ status, t.before = { m with status := status }) (rest : Chain c (t.after c) ts) :
      Chain c m (t :: ts)

theorem Chain.of_cons {c : Settings} {m : Measurement} {t : Taking} {ts : List Taking}
    (h : Chain c m (t :: ts)) :
    (∃ status, t.before = { m with status := status }) ∧ Chain c (t.after c) ts := by
  cases h with
  | cons found rest => exact ⟨found, rest⟩

theorem Chain.of_expect {c : Settings} {m : Measurement} {status : Status} {ts : List Taking}
    (h : Chain c { m with status := status } ts) : Chain c m ts := by
  cases h with
  | nil => exact .nil m
  | cons found rest => exact .cons found rest

namespace Meter

theorem chain_history (m : Meter) (ops : List Op) :
    Chain m.settings m.measurement (m.history ops) := by
  induction ops generalizing m with
  | nil => exact .nil _
  | cons op rest ih =>
    have hrest := ih (m.step op)
    rw [(m.setup_step op).1] at hrest
    rw [history]
    cases h : m.taking? op with
    | none =>
      obtain ⟨status, hstatus⟩ := measurement_step_of_not_taking h
      rw [hstatus] at hrest
      exact hrest.of_expect
    | some t =>
      rw [measurement_step_of_taking h] at hrest
      exact .cons ⟨m.measurement.status, (taking?_eq_some_iff.1 h).2.1⟩ hrest

/-! ### New meters -/

section

variable {c : Settings} {d : Host} {monitor : Monitor} {m : Meter}

/-- A meter is made of usable settings and of no others, and a new one has taken no sample and asked
for none. -/
theorem new_eq_ok_iff : Meter.new c d monitor = .ok m ↔
    m = { settings := c, host := d, measurement := { monitor } } ∧ c.IsUsable := by
  rw [Meter.new]
  cases hc : c.check with
  | error fault =>
    have hnot : ¬ c.IsUsable := fun h ↦ by simp [Settings.check_eq_ok_iff.2 ⟨rfl, h⟩] at hc
    simp [Except.map, hnot]
  | ok c' =>
    obtain ⟨rfl, husable⟩ := Settings.check_eq_ok_iff.1 hc
    simp [Except.map, husable, eq_comm]

variable (h : Meter.new c d monitor = .ok m)

include h

theorem eq_of_new : m = { settings := c, host := d, measurement := { monitor } } :=
  (new_eq_ok_iff.1 h).1

theorem isUsable_of_new : c.IsUsable := (new_eq_ok_iff.1 h).2

theorem settings_of_new : m.settings = c := by rw [eq_of_new h]

theorem host_of_new : m.host = d := by rw [eq_of_new h]

theorem measurement_of_new : m.measurement = { monitor } := by rw [eq_of_new h]

end

end Meter

end MediaTelemetry
