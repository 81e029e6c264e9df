import Mathlib.Data.List.Chain
import Mathlib.Data.List.Infix
import Mathlib.Data.Option.Basic
import MediaTelemetry.Proofs.Acceptance

/-!
# When requests are queued and handed out

A schedule asks for one snapshot per tick and goes by the clock that it is shown, early or late
(`Meter.requests_on_schedule`). All that an operation can do to it is listed once, in
`Schedule.Act`; what the rest of a meter does never matters here (`Meter.schedule_step`).

* `Schedule.Paced` is what a run preserves while it goes on: the next tick is due one interval after
  the last request was queued, so requests are queued at least an interval apart, and only requests
  queued in the run wait.
* `countP_le_of_spaced` turns spacing into a bound on their number.
* `Meter.exists_run` finds the run that is going on, so that a request that is handed out can be
  traced to the time-out that queued it.

Generations number the runs (`Meter.generation_run`): a request tells the run it was queued in by
its generation, and no later run hands it out.
-/

namespace MediaTelemetry

/-- Numbers that start at `s` and are an interval apart: those up to `T` are no more than the
intervals begun by then. -/
theorem countP_le_of_spaced {interval : Nat} (hinterval : 0 < interval) {s T : Nat}
    {times : List Nat} (hspaced : times.IsChain fun t t' ↦ t + interval ≤ t')
    (hfirst : ∀ t ∈ times.head?, s ≤ t) :
    times.countP (· ≤ T) ≤ (T + interval - s) / interval := by
  induction times generalizing s with
  | nil => exact Nat.zero_le _
  | cons t rest ih =>
    obtain ⟨hnext, hrest⟩ := List.isChain_cons.1 hspaced
    have hs : s ≤ t := hfirst t rfl
    have hcount : rest.countP (· ≤ T) ≤ (T - t) / interval := by
      have := ih hrest hnext
      rwa [Nat.add_sub_add_right] at this
    rw [List.countP_cons]
    split
    · rename_i ht
      have hle : t ≤ T := of_decide_eq_true ht
      calc rest.countP (· ≤ T) + 1 ≤ (T - t) / interval + 1 := Nat.add_le_add_right hcount 1
        _ = (T - t + interval) / interval := (Nat.add_div_right _ hinterval).symm
        _ ≤ (T + interval - s) / interval := Nat.div_le_div_right (by omega)
    · rename_i ht
      have hlt : T < t := by simpa using ht
      rw [Nat.sub_eq_zero_of_le (Nat.le_of_lt hlt), Nat.zero_div] at hcount
      exact hcount.trans (Nat.zero_le _)

/-! ### One operation -/

namespace Schedule

/-- All that an operation can do to a schedule. -/
inductive Act (interval : Nat) : Schedule → Meter.Op → Schedule → Prop
  /-- It changes nothing. -/
  | rest (s : Schedule) (op : Meter.Op) : Act interval s op s
  /-- It starts a run. -/
  | start {s : Schedule} (now : Nat) (idle : s.isRunning = false) :
      Act interval s (.start now)
        { s with phase := .running now [], generation := s.generation + 1 }
  /-- It ends the run. -/
  | stop {s : Schedule} (op : Meter.Op) : Act interval s op { s with phase := .idle }
  /-- It finds a tick due and queues its request. -/
  | tick {due now generation number : Nat} {waiting : List Request} (isDue : due ≤ now) :
      Act interval ⟨.running due waiting, generation, number⟩ (.timeout now)
        ⟨.running (now + interval) (waiting ++ [⟨generation, number⟩]), generation, number + 1⟩
  /-- It hands out the first request that waits. -/
  | handOut {due generation number : Nat} {waiting : List Request} {r : Request} :
      Act interval ⟨.running due (r :: waiting), generation, number⟩ .nextRequest
        ⟨.running due waiting, generation, number⟩

/-- Only a start changes the generation. -/
theorem Act.generation_eq {interval : Nat} {s s' : Schedule} {op : Meter.Op}
    (h : Act interval s op s') (hop : ∀ now, op ≠ .start now) : s'.generation = s.generation := by
  cases h with
  | start now idle => exact absurd rfl (hop now)
  | _ => rfl

theorem act_after (interval : Nat) (s : Schedule) (op : Meter.Op) :
    Act interval s op (s.after interval op) := by
  have hstop : ∀ op, Act interval s op (s.stop.toOption.getD s) := by
    intro op
    rw [stop]
    split
    · exact .stop op
    · exact .rest s op
  obtain ⟨phase, generation, number⟩ := s
  cases op with
  | start now =>
    cases phase with
    | idle => exact .start now rfl
    | running due waiting => exact .rest _ _
  | stop => exact hstop _
  | close => exact .stop _
  | command c =>
    cases c with
    | expect status => exact .rest _ _
    | stop => exact hstop _
  | timeout now =>
    cases phase with
    | idle => exact .rest _ _
    | running due waiting =>
      rw [after, tick]
      dsimp only
      split
      · exact .rest _ _
      · rename_i h
        exact .tick (Nat.not_lt.1 h)
  | nextRequest =>
    cases phase with
    | idle => exact .rest _ _
    | running due waiting =>
      cases waiting with
      | nil => exact .rest _ _
      | cons r rest => exact .handOut
  | _ => exact .rest _ _

end Schedule

namespace Meter

theorem act_step (m : Meter) (op : Op) :
    m.schedule.Act m.settings.interval op (m.step op).schedule := by
  rw [schedule_step]
  exact m.schedule.act_after ..

/-- A refused operation changes nothing. -/
theorem step_of_refused {m : Meter} {op : Op} {fault : Fault} (h : m.reply op = .refused fault) :
    m.step op = m := by
  have hscheduled : ∀ {outcome : Except Fault Schedule},
      Reply.ofSchedule outcome = .refused fault → m.scheduled outcome = m := by
    intro outcome houtcome
    cases outcome with
    | ok schedule => exact absurd houtcome (by simp [Reply.ofSchedule])
    | error fault => rfl
  cases op with
  | start now => exact hscheduled h
  | stop => exact hscheduled h
  | command c =>
    cases c with
    | expect status => exact absurd h (by simp [reply])
    | stop => exact hscheduled h
  | _ => exact absurd h (by simp [reply])

theorem refused_start_iff {m : Meter} {now : Nat} :
    (∃ fault, m.reply (.start now) = .refused fault) ↔ m.isRunning = true := by
  rw [reply, isRunning, Schedule.start]
  cases m.schedule.isRunning <;> simp [Reply.ofSchedule]

theorem refused_stop_iff {m : Meter} :
    (∃ fault, m.reply .stop = .refused fault) ↔ m.isRunning = false := by
  rw [reply, isRunning, Schedule.stop]
  cases m.schedule.isRunning <;> simp [Reply.ofSchedule]

/-! ### Runs and what they queue -/

/-- The runs started during operations. -/
def runs (m : Meter) : List Op → Nat
  | [] => 0
  | op :: ops => (if m.starts op then 1 else 0) + runs (m.step op) ops

/-- What an operation queues, with the time shown to it: a time-out may leave a request behind those
that waited before. -/
def queuedBy (m : Meter) (op : Op) : List (Nat × Request) :=
  match op with
  | .timeout now =>
    ((m.step op).schedule.waiting.drop m.schedule.waiting.length).map (now, ·)
  | _ => []

/-- The requests queued during operations, each with the time shown to its time-out. -/
def queued (m : Meter) : List Op → List (Nat × Request)
  | [] => []
  | op :: ops => m.queuedBy op ++ queued (m.step op) ops

theorem queued_concat (m : Meter) (ops : List Op) (op : Op) :
    m.queued (ops ++ [op]) = m.queued ops ++ (m.run ops).queuedBy op := by
  induction ops generalizing m with
  | nil => simp [queued]
  | cons op' rest ih => rw [List.cons_append, queued, ih, queued, run_cons, List.append_assoc]

theorem queuedBy_eq_nil {m : Meter} {op : Op} (h : (m.step op).schedule = m.schedule) :
    m.queuedBy op = [] := by
  rw [queuedBy.eq_def, h]
  split
  · rw [List.drop_length, List.map_nil]
  · rfl

/-- Generations number the runs. -/
theorem generation_run (m : Meter) (ops : List Op) :
    (m.run ops).schedule.generation = m.schedule.generation + m.runs ops := by
  have hstep : ∀ (m : Meter) (op : Op), (m.step op).schedule.generation =
      m.schedule.generation + if m.starts op then 1 else 0 := by
    intro m op
    cases op with
    | start now =>
      rw [schedule_step, Schedule.after, starts, isRunning, Schedule.start]
      cases m.schedule.isRunning <;> rfl
    | _ => exact (m.act_step _).generation_eq (by simp)
  induction ops generalizing m with
  | nil => rfl
  | cons op rest ih => rw [run_cons, ih, hstep, runs, Nat.add_assoc]

/-- A run starts at `s` after the operations `earlier` and goes on through all of `since`. -/
structure IsRun (m : Meter) (earlier : List Op) (s : Nat) (since : List Op) : Prop where
  idle : (m.run earlier).isRunning = false
  goesOn : ∀ part, part <+: since → (m.run (earlier ++ .start s :: part)).isRunning = true

/-- The requests queued in a run that starts at `s` after the operations `earlier`. -/
def queuedInRun (m : Meter) (earlier : List Op) (s : Nat) (since : List Op) :
    List (Nat × Request) :=
  (m.run (earlier ++ [.start s])).queued since

end Meter

theorem Schedule.isSome_due? (s : Schedule) : s.due?.isSome = s.isRunning := by
  obtain ⟨phase, generation, number⟩ := s
  cases phase <;> rfl

/-- What a run that started at `s₀` preserves while it goes on and queues requests. -/
structure Schedule.Paced (interval s₀ generation : Nat) (queued : List (Nat × Request))
    (s : Schedule) : Prop where
  /-- The next tick is due an interval after the last request was queued, the first one at once. -/
  due : s.due? = some ((queued.getLast?.map (·.1 + interval)).getD s₀)
  spaced : (queued.map (·.1)).IsChain fun t t' ↦ t + interval ≤ t'
  first : ∀ t ∈ (queued.map (·.1)).head?, s₀ ≤ t
  waiting : ∀ r ∈ s.waiting, r ∈ queued.map (·.2)
  generation_eq : s.generation = generation

namespace Schedule.Paced

variable {interval s₀ generation : Nat} {queued : List (Nat × Request)}

/-- A tick that is due queues a request an interval after the one before. -/
theorem tick {due now number : Nat} {waiting : List Request}
    (h : Paced interval s₀ generation queued ⟨.running due waiting, generation, number⟩)
    (hdue : due ≤ now) :
    Paced interval s₀ generation (queued ++ [(now, ⟨generation, number⟩)])
      ⟨.running (now + interval) (waiting ++ [⟨generation, number⟩]), generation, number + 1⟩ := by
  have hlast : due = (queued.getLast?.map (·.1 + interval)).getD s₀ := Option.some.inj h.due
  refine ⟨?_, ?_, ?_, fun r hr ↦ ?_, rfl⟩
  · rw [List.getLast?_concat]
    rfl
  · rw [List.map_append, List.isChain_append]
    refine ⟨h.spaced, List.isChain_singleton _, fun t ht t' ht' ↦ ?_⟩
    rw [List.getLast?_map, Option.mem_map] at ht
    obtain ⟨q, hq, rfl⟩ := ht
    obtain rfl : now = t' := by simpa using ht'
    rw [Option.mem_def.1 hq] at hlast
    exact Nat.le_trans (Nat.le_of_eq hlast.symm) hdue
  · cases queued with
    | nil =>
      intro t ht
      obtain rfl : now = t := by simpa using ht
      exact Nat.le_trans (Nat.le_of_eq hlast.symm) hdue
    | cons q rest => exact h.first
  · rw [List.map_append, List.mem_append]
    rcases List.mem_append.1 hr with hr | hr
    · exact .inl (h.waiting r hr)
    · exact .inr (by simpa using hr)

/-- Every operation that lets the run go on preserves its pace. -/
theorem step {m : Meter} (h : Paced m.settings.interval s₀ generation queued m.schedule)
    {op : Meter.Op} (hgoesOn : (m.step op).isRunning = true) :
    Paced m.settings.interval s₀ generation (queued ++ m.queuedBy op) (m.step op).schedule := by
  have hrunning : m.schedule.isRunning = true := by
    rw [← isSome_due?, h.due, Option.isSome_some]
  rw [Meter.isRunning] at hgoesOn
  have hact := m.act_step op
  generalize hs : m.schedule = s at hact
  generalize hs' : (m.step op).schedule = s' at hact
  rw [hs] at h hrunning
  rw [hs'] at hgoesOn
  cases hact with
  | rest => rwa [Meter.queuedBy_eq_nil (hs'.trans hs.symm), List.append_nil]
  | start now idle =>
    rw [idle] at hrunning
    exact absurd hrunning Bool.false_ne_true
  | stop => exact absurd hgoesOn Bool.false_ne_true
  | @tick due now g number waiting hdue =>
    obtain rfl : g = generation := h.generation_eq
    have hqueued : m.queuedBy (.timeout now) = [(now, ⟨g, number⟩)] := by
      rw [Meter.queuedBy, hs, hs']
      simp [Schedule.waiting]
    rw [hqueued]
    exact h.tick hdue
  | handOut =>
    have hqueued : m.queuedBy .nextRequest = [] := rfl
    rw [hqueued, List.append_nil]
    exact ⟨h.due, h.spaced, h.first, fun r hr ↦ h.waiting r (List.mem_cons_of_mem _ hr),
      h.generation_eq⟩

end Schedule.Paced

namespace Meter

variable {c : Settings} {d : Host} {monitor : Monitor} {m : Meter} {earlier since : List Op}
  {s : Nat}

theorem IsRun.of_concat {op : Op} (h : m.IsRun earlier s (since ++ [op])) :
    m.IsRun earlier s since where
  idle := h.idle
  goesOn part hpart := h.goesOn part (hpart.trans (List.prefix_append _ _))

theorem IsRun.concat {op : Op} (h : m.IsRun earlier s since)
    (hgoesOn : (m.run (earlier ++ .start s :: (since ++ [op]))).isRunning = true) :
    m.IsRun earlier s (since ++ [op]) where
  idle := h.idle
  goesOn part hpart := by
    rcases List.prefix_concat_iff.1 hpart with rfl | hpart
    · exact hgoesOn
    · exact h.goesOn part hpart

/-- A meter that runs is in a run that some operation started. -/
theorem exists_run (hidle : m.isRunning = false) {ops : List Op}
    (h : (m.run ops).isRunning = true) :
    ∃ earlier s since, ops = earlier ++ .start s :: since ∧ m.IsRun earlier s since := by
  induction ops using List.reverseRecOn with
  | nil => exact absurd (hidle.symm.trans h) Bool.false_ne_true
  | append_singleton ops op ih =>
    cases hr : (m.run ops).isRunning with
    | true =>
      obtain ⟨earlier, s, since, rfl, hrun⟩ := ih hr
      rw [List.append_assoc, List.cons_append] at h
      exact ⟨earlier, s, since ++ [op], by simp, hrun.concat h⟩
    | false =>
      -- only a start makes it run
      have hact := (m.run ops).act_step op
      have hstopped : (m.run ops).schedule.isRunning = false := hr
      have hgoesOn : ((m.run ops).step op).schedule.isRunning = true := by rwa [← run_concat]
      generalize (m.run ops).schedule = t at hact hstopped
      generalize ((m.run ops).step op).schedule = t' at hact hgoesOn
      cases hact with
      | start now idle =>
        refine ⟨ops, now, [], rfl, hr, fun part hpart ↦ ?_⟩
        rwa [List.prefix_nil.1 hpart]
      | rest => exact absurd (hstopped.symm.trans hgoesOn) Bool.false_ne_true
      | stop => exact absurd hgoesOn Bool.false_ne_true
      | tick => exact absurd hstopped (by simp [Schedule.isRunning])
      | handOut => exact absurd hstopped (by simp [Schedule.isRunning])

/-- **A run keeps its pace.** -/
theorem IsRun.paced (h : m.IsRun earlier s since) :
    Schedule.Paced m.settings.interval s (m.run (earlier ++ [.start s])).schedule.generation
      (m.queuedInRun earlier s since) (m.run (earlier ++ .start s :: since)).schedule := by
  induction since using List.reverseRecOn with
  | nil =>
    have hstarted : (m.run (earlier ++ [.start s])).schedule =
        { (m.run earlier).schedule with
          phase := .running s [], generation := (m.run earlier).schedule.generation + 1 } := by
      rw [run_concat, schedule_step, Schedule.after, Schedule.start_of_idle h.idle]
      rfl
    rw [hstarted]
    exact ⟨rfl, List.isChain_nil, by simp [queuedInRun, queued], by simp [Schedule.waiting], rfl⟩
  | append_singleton since op ih =>
    have hafter : m.run (earlier ++ .start s :: (since ++ [op])) =
        (m.run (earlier ++ .start s :: since)).step op := by
      rw [← run_concat, List.append_assoc, List.cons_append]
    have hqueued : m.queuedInRun earlier s (since ++ [op]) =
        m.queuedInRun earlier s since ++
          (m.run (earlier ++ .start s :: since)).queuedBy op := by
      rw [queuedInRun, queued_concat, ← run_append, List.append_assoc, List.singleton_append]
      rfl
    have hsettings : (m.run (earlier ++ .start s :: since)).settings = m.settings :=
      settings_run ..
    have hgoesOn := h.goesOn _ (List.prefix_refl _)
    rw [hafter] at hgoesOn
    have hstep := Schedule.Paced.step (by rw [hsettings]; exact ih h.of_concat) hgoesOn
    rwa [hafter, hqueued, ← hsettings]

/-- **Requests are made on schedule.** After any operations on a new meter:

* a tick is due if the meter runs, and no request waits if it does not;
* a start is refused if it runs and a stop, also as a command, if it does not, and what is refused
  changes nothing;
* the requests handed out have growing numbers, over all runs;
* a request that is handed out was queued in the run that goes on then, and tells its number among
  the runs;
* in every run, however the clock is shown, requests are queued at least one interval apart, the
  first no sooner than the start at `s`: up to a time `T`, no more than one in each interval begun.
-/
theorem requests_on_schedule (hm : Meter.new c d monitor = .ok m) (ops : List Op) :
    let now := m.run ops
    (now.schedule.due?.isSome = true ↔ now.isRunning = true) ∧
      (now.isRunning = false → now.schedule.waiting = []) ∧
      (∀ t, (∃ fault, now.reply (.start t) = .refused fault) ↔ now.isRunning = true) ∧
      ((∃ fault, now.reply .stop = .refused fault) ↔ now.isRunning = false) ∧
      ((∃ fault, now.reply (.command .stop) = .refused fault) ↔ now.isRunning = false) ∧
      (∀ op fault, now.reply op = .refused fault → now.step op = now) ∧
      ((m.handedOut ops).map (·.number)).Pairwise (· < ·) ∧
      (∀ r, now.reply .nextRequest = .request (some r) →
        ∃ earlier s since, ops = earlier ++ .start s :: since ∧ m.IsRun earlier s since ∧
          r ∈ (m.queuedInRun earlier s since).map (·.2) ∧
          r.generation = m.runs (earlier ++ [.start s])) ∧
      0 < c.interval ∧
      ∀ earlier s since, m.IsRun earlier s since →
        let times := (m.queuedInRun earlier s since).map (·.1)
        (times.IsChain fun t t' ↦ t + c.interval ≤ t') ∧ (∀ t ∈ times.head?, s ≤ t) ∧
          ∀ T, times.countP (· ≤ T) ≤ (T - s) / c.interval + 1 := by
  intro now
  have hissued := issued_run hm ops
  have hinterval := (isUsable_of_new hm).interval
  refine ⟨?_, fun hidle ↦ ?_, fun t ↦ refused_start_iff, refused_stop_iff, refused_stop_iff,
    fun op fault h ↦ step_of_refused h, ?_, fun r hr ↦ ?_, hinterval,
    fun earlier s since hrun ↦ ?_⟩
  · rw [Schedule.isSome_due?]
    rfl
  · exact Schedule.waiting_of_idle hidle
  · exact List.pairwise_map.2 ((List.pairwise_append.1 hissued.ordered).1.imp And.left)
  · have hwaits : r ∈ now.schedule.waiting := by
      have hnext : now.schedule.waiting.head? = some r := by simpa [reply, Schedule.next?] using hr
      exact List.mem_of_head? hnext
    have hrunning : now.isRunning = true := by
      by_contra hidle
      rw [Schedule.waiting_of_idle (Bool.eq_false_iff.2 hidle)] at hwaits
      exact List.not_mem_nil hwaits
    obtain ⟨earlier, s, since, rfl, hrun⟩ := exists_run (by rw [eq_of_new hm]; rfl) hrunning
    have hpaced := hrun.paced
    refine ⟨earlier, s, since, rfl, hrun, hpaced.waiting r hwaits, ?_⟩
    rw [hissued.waiting_current r hwaits, hpaced.generation_eq, generation_run, eq_of_new hm,
      Nat.zero_add]
  · have hpaced := hrun.paced
    rw [settings_of_new hm] at hpaced
    refine ⟨hpaced.spaced, hpaced.first, fun T ↦ ?_⟩
    calc ((m.queuedInRun earlier s since).map (·.1)).countP (· ≤ T)
        ≤ (T + c.interval - s) / c.interval :=
          countP_le_of_spaced hinterval hpaced.spaced hpaced.first
      _ ≤ (T - s + c.interval) / c.interval := Nat.div_le_div_right (by omega)
      _ = (T - s) / c.interval + 1 := Nat.add_div_right _ hinterval

/-- A run of two ticks is stopped with both requests waiting. The next run queues its first request
as it starts and, with the clock shown late, its second 5500 ms after; it hands out the first of
them. -/
theorem requests_of_second_run :
    let m : Meter := { settings := {}, host := {} }
    let earlier : List Op := [.start 0, .timeout 0, .timeout 7000, .stop]
    let since : List Op := [.timeout 8000, .timeout 9000, .timeout 13500]
    let ops := earlier ++ .start 8000 :: since
    Meter.new {} {} = .ok m ∧ m.IsRun earlier 8000 since ∧
      (m.run earlier).schedule.waiting = [] ∧
      (∃ fault, (m.run ops).reply (.start 14000) = .refused fault) ∧
      (m.run ops).reply .nextRequest = .request (some ⟨2, 2⟩) ∧
      (∃ earlier s since, ops = earlier ++ .start s :: since ∧ m.IsRun earlier s since ∧
        ⟨2, 2⟩ ∈ (m.queuedInRun earlier s since).map (·.2) ∧ 2 = m.runs (earlier ++ [.start s])) ∧
      (m.queuedInRun earlier 8000 since).map (·.1) = [8000, 13500] ∧
      [8000, 13500].countP (· ≤ 14000) ≤ (14000 - 8000) / ({} : Settings).interval + 1 := by
  intro m earlier since ops
  have hm : Meter.new {} {} = .ok m := rfl
  have hrun : m.IsRun earlier 8000 since := by
    refine ⟨rfl, fun part hpart ↦ ?_⟩
    have hall : ∀ part ∈ since.inits,
        (m.run (earlier ++ .start 8000 :: part)).isRunning = true := by
      decide
    exact hall part ((List.mem_inits _ _).2 hpart)
  obtain ⟨-, hidle, -⟩ := requests_on_schedule hm earlier
  obtain ⟨-, -, hstart, -, -, -, -, hhandedOut, -, hpaced⟩ := requests_on_schedule hm ops
  have hreply : (m.run ops).reply .nextRequest = .request (some ⟨2, 2⟩) := rfl
  have htimes : (m.queuedInRun earlier 8000 since).map (·.1) = [8000, 13500] := rfl
  refine ⟨hm, hrun, hidle rfl, (hstart 14000).2 rfl, hreply, hhandedOut _ hreply, htimes, ?_⟩
  have hcount := (hpaced earlier 8000 since hrun).2.2 14000
  rwa [htimes] at hcount

end Meter

end MediaTelemetry
