import MediaTelemetry.Proofs.Acceptance
import MediaTelemetry.Proofs.Expectations
import MediaTelemetry.Proofs.Interleaving

/-!
# A runner delivers what its meter alone would tell

Whatever happens around a runner, and in whatever order, its receiver gets what the meter would have
told if the samples that the runner took had been read to it one after another, and nothing else
had happened (`delivers_alone`).

* `Meter.InStep` compares the meter at work with the meter left alone. Commands, ticks and requests
  keep the two in step, as none of them has a say in what is told.
* `Delivers` is what an execution preserves. The runner takes samples in the order of their arrival,
  and all of them answer requests of its own run, so only their numbers decide whether they count.
* `Execution.pairwise_ends` is about the end: a meter that has stopped hands out no request, and
  takes nothing any more.
-/

namespace MediaTelemetry

/-- The samples whose number exceeds `last` and the numbers of all samples kept before them. -/
def risingAbove (last : Option Nat) : List Sample → List Sample
  | [] => []
  | s :: rest =>
    if last.all (· < s.request.number) then s :: risingAbove (some s.request.number) rest
    else risingAbove last rest

/-! ### A meter left alone -/

namespace Meter

theorem accepts_eq_isInOrder {m : Meter} {r : Request} (hrunning : m.isRunning = true)
    (hcurrent : r.generation = m.schedule.generation) : m.accepts r = m.isInOrder r := by
  rw [accepts, isCurrent, hrunning, hcurrent, beq_self_eq_true, Bool.and_self, Bool.true_and]

/-- Read one after another, samples of the present run are taken if their numbers rise. -/
theorem run_reads {m : Meter} {samples : List Sample} (hrunning : m.isRunning = true)
    (hcurrent : ∀ s ∈ samples, s.request.generation = m.schedule.generation) :
    m.run (samples.map .read) = m.run ((risingAbove m.lastTaken samples).map .read) ∧
      (m.history ((risingAbove m.lastTaken samples).map .read)).map (·.sample) =
        risingAbove m.lastTaken samples := by
  induction samples generalizing m with
  | nil => exact ⟨rfl, rfl⟩
  | cons s rest ih =>
    have hrest : ∀ s ∈ rest, s.request.generation = m.schedule.generation := fun s hs ↦
      hcurrent s (List.mem_cons_of_mem _ hs)
    have haccepts : m.accepts s.request = m.isInOrder s.request :=
      accepts_eq_isInOrder hrunning (hcurrent s List.mem_cons_self)
    rw [List.map_cons, run_cons, risingAbove]
    split
    · rename_i hrises
      have htaken : m.accepts s.request = true := haccepts.trans hrises
      have hstep : m.step (.read s) = m.takeIn s := if_pos htaken
      obtain ⟨hrun, hhistory⟩ := ih (m := m.takeIn s) hrunning hrest
      rw [List.map_cons, run_cons, history, List.map_append, hstep, taking?, if_pos htaken]
      exact ⟨hrun, congrArg (s :: ·) hhistory⟩
    · rename_i hfalls
      have hrejected : ¬ m.accepts s.request = true := by rwa [haccepts]
      have hstep : m.step (.read s) = m := if_neg hrejected
      rw [hstep]
      exact ih hrunning hrest

theorem schedule_run_reads (m : Meter) (samples : List Sample) :
    (m.run (samples.map .read)).schedule = m.schedule := by
  induction samples generalizing m with
  | nil => rfl
  | cons s rest ih =>
    have hstep : (m.step (.read s)).schedule = m.schedule := by
      rw [step, read]
      split <;> rfl
    rw [List.map_cons, run_cons, ih, hstep]

/-- A meter at work, of whose notices `delivered` have been passed on, has told the same as the
meter left alone, and will tell the same of the same samples if its monitor ignores silence. -/
structure InStep (alone m : Meter) (delivered : List Notice) : Prop where
  settings : m.settings = alone.settings
  host : m.host = alone.host
  lastTaken : m.lastTaken = alone.lastTaken
  measurement : m.measurement.unwatched = alone.measurement.unwatched
  notices : delivered ++ m.notices = alone.notices

namespace InStep

variable {alone m : Meter} {delivered : List Notice} (h : InStep alone m delivered)

include h

theorem withSchedule (schedule : Schedule) : InStep alone { m with schedule } delivered :=
  ⟨h.settings, h.host, h.lastTaken, h.measurement, h.notices⟩

theorem expect (status : Status) : InStep alone (m.expect status) delivered :=
  ⟨h.settings, h.host, h.lastTaken, h.measurement, h.notices⟩

theorem forward : InStep alone { m with notices := [] } (delivered ++ m.notices) :=
  ⟨h.settings, h.host, h.lastTaken, h.measurement, by rw [List.append_nil, h.notices]⟩

theorem stop : InStep alone (m.scheduled m.schedule.stop) delivered := by
  cases m.schedule.stop with
  | ok schedule => exact h.withSchedule schedule
  | error fault => exact h

/-- The two take the same samples and tell the same of each. -/
theorem read {s : Sample} (hignores : alone.measurement.monitor.IgnoresSilence)
    (haccepts : m.accepts s.request = alone.accepts s.request) :
    InStep (alone.read s) (m.read s) delivered := by
  have hignores' : m.measurement.monitor.IgnoresSilence := by
    show m.measurement.unwatched.monitor.IgnoresSilence
    rw [h.measurement]
    exact hignores
  rw [Meter.read, Meter.read, haccepts]
  split
  · refine ⟨h.settings, h.host, rfl, ?_, ?_⟩
    · dsimp only
      rw [← Measurement.unwatched_take _ _ _ _ hignores', h.measurement, h.settings,
        Measurement.unwatched_take _ _ _ _ hignores]
    · dsimp only
      rw [← Measurement.told_unwatched _ _ _ _ _ hignores', h.measurement, h.settings, h.host,
        Measurement.told_unwatched _ _ _ _ _ hignores, ← List.append_assoc, h.notices]
  · exact h

end InStep

end Meter

/-! ### The run -/

/-- All requests of the schedule belong to the run `generation`. -/
structure Schedule.IsOfRun (s : Schedule) (generation : Nat) : Prop where
  generation_eq : s.generation = generation
  waiting : ∀ q ∈ s.waiting, q.generation = generation

namespace Schedule.IsOfRun

variable {s : Schedule} {generation : Nat} (h : s.IsOfRun generation)

include h

theorem tick (interval now : Nat) : (s.tick interval now).IsOfRun generation := by
  obtain ⟨phase, g, nextNumber⟩ := s
  cases phase with
  | idle => exact h
  | running due waiting =>
    rw [Schedule.tick]
    dsimp only
    split
    · exact h
    · refine ⟨h.generation_eq, fun q hq ↦ ?_⟩
      rcases List.mem_append.1 hq with hq | hq
      · exact h.waiting q hq
      · rw [List.mem_singleton.1 hq]
        exact h.generation_eq

theorem handOut : s.handOut.IsOfRun generation := by
  refine ⟨?_, fun q hq ↦ h.waiting q ?_⟩
  · obtain ⟨phase, g, nextNumber⟩ := s
    cases phase <;> exact h.generation_eq
  · rw [waiting_handOut] at hq
    exact List.mem_of_mem_tail hq

theorem close : s.close.IsOfRun generation :=
  ⟨h.generation_eq, fun _ hq ↦ absurd hq (by simp [Schedule.close, Schedule.waiting])⟩

end Schedule.IsOfRun

theorem Schedule.IsOfRun.stop {m : Meter} {generation : Nat}
    (h : m.schedule.IsOfRun generation) :
    (m.scheduled m.schedule.stop).schedule.IsOfRun generation := by
  cases hstop : m.schedule.stop with
  | error fault => exact h
  | ok s =>
    rw [Schedule.stop] at hstop
    split at hstop
    · obtain rfl := Except.ok.inj hstop
      exact h.close
    · exact absurd hstop (by simp)

theorem Schedule.isRunning_tick (s : Schedule) (interval now : Nat) :
    (s.tick interval now).isRunning = s.isRunning := by
  obtain ⟨phase, generation, nextNumber⟩ := s
  cases phase with
  | idle => rfl
  | running due waiting =>
    rw [tick]
    dsimp only
    split <;> rfl

theorem Meter.isRunning_stop (m : Meter) :
    (m.scheduled m.schedule.stop).isRunning = false := by
  rw [Schedule.stop]
  split
  · rfl
  · rename_i hidle
    exact Bool.eq_false_iff.2 hidle

namespace Runner

/-! ### What an execution takes -/

/-- The sample that an act takes. -/
def Act.sample? : Act → Option Sample
  | .take (.read s) => some s
  | _ => none

/-- The sample that a fetch brings at an act. -/
def Act.arrival? : Act → Option Sample
  | .around (.fetched request time (.ok snapshot)) => some ⟨request, time, snapshot⟩
  | _ => none

/-- The act takes the command to stop, or finds that the handle is dropped. -/
def Act.ends : Act → Bool
  | .take (.command .stop) | .hangUp => true
  | _ => false

/-- The act hands out a request or takes something. -/
def Act.works : Act → Bool
  | .dispatch .. | .take _ => true
  | _ => false

/-- The samples taken during acts. -/
def samplesTaken (acts : List Act) : List Sample := acts.filterMap Act.sample?

/-- The samples that fetches brought during acts. -/
def arrivals (acts : List Act) : List Sample := acts.filterMap Act.arrival?

/-- What holds of a runner that began with the meter `m` after `acts`. -/
structure Delivers (m : Meter) (acts : List Act) (r : Runner) : Prop where
  schedule : r.meter.schedule.IsOfRun m.schedule.generation
  launched : ∀ q ∈ r.launched, q.generation = m.schedule.generation
  samples : ∀ s ∈ samplesTaken acts ++ r.samples, s.request ∈ r.launched
  /-- Samples are taken in the order of their arrival. -/
  taken : samplesTaken acts <+: arrivals acts
  waiting : r.isFinished = false → arrivals acts = samplesTaken acts ++ r.samples
  inStep : (m.run ((samplesTaken acts).map .read)).InStep r.meter r.delivered
  ended : r.isFinished = true → r.meter.notices = []

theorem samplesTaken_concat (acts : List Act) (a : Act) :
    samplesTaken (acts ++ [a]) = samplesTaken acts ++ a.sample?.toList := by
  rw [samplesTaken, List.filterMap_append, List.filterMap_cons]
  cases a.sample? <;> rfl

theorem arrivals_concat (acts : List Act) (a : Act) :
    arrivals (acts ++ [a]) = arrivals acts ++ a.arrival?.toList := by
  rw [arrivals, List.filterMap_append, List.filterMap_cons]
  cases a.arrival? <;> rfl

namespace Delivers

variable {m : Meter} {acts : List Act} {r r' : Runner} {a : Act}

theorem initial (hschedule : m.schedule.IsOfRun m.schedule.generation) :
    Delivers m [] { meter := m } where
  schedule := hschedule
  launched _ hq := absurd hq (by simp)
  samples _ hs := absurd hs (by simp [samplesTaken])
  taken := List.prefix_rfl
  waiting _ := rfl
  inStep := ⟨rfl, rfl, rfl, rfl, rfl⟩
  ended hfinished := absurd hfinished (by simp [isFinished])

section

variable (h : Delivers m acts r)

include h

/-- Acts that neither take nor bring a sample are judged by what they leave of the runner. -/
theorem quiet (hsample : a.sample? = none) (harrival : a.arrival? = none)
    (hschedule : r'.meter.schedule.IsOfRun m.schedule.generation)
    (hlaunched : ∃ more, r'.launched = r.launched ++ more ∧
      ∀ q ∈ more, q.generation = m.schedule.generation)
    (hsamples : ∀ s ∈ r'.samples, s ∈ r.samples)
    (hunfinished : r'.isFinished = false → r.isFinished = false ∧ r'.samples = r.samples)
    (hinStep : (m.run ((samplesTaken acts).map .read)).InStep r'.meter r'.delivered)
    (hended : r'.isFinished = true → r'.meter.notices = []) : Delivers m (acts ++ [a]) r' := by
  obtain ⟨more, hmore, hcurrent⟩ := hlaunched
  have htaken : samplesTaken (acts ++ [a]) = samplesTaken acts := by
    rw [samplesTaken_concat, hsample, Option.toList_none, List.append_nil]
  have harrived : arrivals (acts ++ [a]) = arrivals acts := by
    rw [arrivals_concat, harrival, Option.toList_none, List.append_nil]
  refine ⟨hschedule, fun q hq ↦ ?_, fun s hs ↦ ?_, ?_, fun hgoes ↦ ?_, ?_, hended⟩
  · rw [hmore, List.mem_append] at hq
    exact hq.elim (h.launched q) (hcurrent q)
  · rw [htaken, List.mem_append] at hs
    rw [hmore]
    exact List.mem_append_left _
      (h.samples s (List.mem_append.2 (hs.imp_right (hsamples s))))
  · rw [htaken, harrived]
    exact h.taken
  · obtain ⟨hunfinished', hsame⟩ := hunfinished hgoes
    rw [htaken, harrived, hsame, h.waiting hunfinished']
  · rw [htaken]
    exact hinStep

/-- The common case: what waits stays, nothing is launched and the runner does not end. -/
theorem inner (hsample : a.sample? = none) (harrival : a.arrival? = none)
    (hschedule : r'.meter.schedule.IsOfRun m.schedule.generation)
    (hlaunched : r'.launched = r.launched) (hsamples : r'.samples = r.samples)
    (hgoes : r.isFinished = false) (hgoes' : r'.isFinished = false)
    (hinStep : (m.run ((samplesTaken acts).map .read)).InStep r'.meter r'.delivered) :
    Delivers m (acts ++ [a]) r' :=
  h.quiet hsample harrival hschedule ⟨[], by rw [hlaunched, List.append_nil], by simp⟩
    (fun _ hs ↦ hsamples ▸ hs) (fun _ ↦ ⟨hgoes, hsamples⟩) hinStep
    fun hfinished ↦ absurd hfinished (by simp [hgoes'])

theorem write (remarks : List Remark) : Delivers m acts (r.write remarks) :=
  ⟨h.schedule, h.launched, h.samples, h.taken, h.waiting, h.inStep, h.ended⟩

theorem finish (hsample : a.sample? = none) (harrival : a.arrival? = none) :
    Delivers m (acts ++ [a]) r.finish :=
  h.quiet hsample harrival h.schedule.close ⟨[], (List.append_nil _).symm, by simp⟩
    (fun _ hs ↦ hs) (fun hgoes ↦ absurd hgoes (by simp))
    (h.inStep.withSchedule _).forward fun _ ↦ rfl

theorem unmoved (hsample : a.sample? = none) (harrival : a.arrival? = none)
    (commands : List Command) (dropped : Bool) (journal : List Remark) :
    Delivers m (acts ++ [a]) { r with commands, dropped, journal } :=
  h.quiet hsample harrival h.schedule ⟨[], (List.append_nil _).symm, by simp⟩ (fun _ hs ↦ hs)
    (fun hgoes ↦ ⟨hgoes, rfl⟩) h.inStep h.ended

/-- A sample arrives, or comes too late. -/
theorem fetched {request : Request} {time : Nat} {snapshot : Snapshot}
    (hlaunched : request ∈ r.launched) :
    Delivers m (acts ++ [.around (.fetched request time (.ok snapshot))])
      (r.fetched request time (.ok snapshot)) := by
  let a : Act := .around (.fetched request time (.ok snapshot))
  let s : Sample := ⟨request, time, snapshot⟩
  have htaken : samplesTaken (acts ++ [a]) = samplesTaken acts :=
    (samplesTaken_concat acts a).trans (List.append_nil _)
  have harrived : arrivals (acts ++ [a]) = arrivals acts ++ [s] := arrivals_concat acts a
  have hprefix : samplesTaken (acts ++ [a]) <+: arrivals (acts ++ [a]) := by
    rw [htaken, harrived]
    exact h.taken.trans (List.prefix_append _ _)
  rw [Runner.fetched]
  split
  · rename_i hfinished
    exact ⟨h.schedule, h.launched, htaken ▸ h.samples, hprefix,
      fun hgoes ↦ absurd hfinished (Bool.eq_false_iff.1 hgoes), htaken ▸ h.inStep, h.ended⟩
  · rename_i hgoes
    rw [Bool.not_eq_true] at hgoes
    refine ⟨h.schedule, h.launched, fun s' hs' ↦ ?_, hprefix, fun _ ↦ ?_, htaken ▸ h.inStep,
      h.ended⟩
    · rw [htaken, ← List.append_assoc, List.mem_append, List.mem_singleton] at hs'
      rcases hs' with hs' | rfl
      · exact h.samples s' hs'
      · exact hlaunched
    · rw [htaken, harrived, h.waiting hgoes, List.append_assoc]

theorem around {move : Move} (hturn : move.isTurn = false)
    (hpossible : move.isPossible r.launched = true) :
    Delivers m (acts ++ [.around move]) (r.step move) := by
  cases move with
  | send c =>
    rw [step]
    split
    · exact h.unmoved rfl rfl _ _ _
    · exact h.unmoved rfl rfl _ _ _
  | drop => exact h.unmoved rfl rfl _ _ _
  | fetched request time outcome =>
    cases outcome with
    | error fault => exact h.unmoved rfl rfl _ _ _
    | ok snapshot => exact h.fetched (List.contains_iff_mem.1 hpossible)
  | turn => exact absurd hturn (by simp [Move.isTurn])

theorem dispatch {connection : Connection} {request : Request} (hgoes : r.isFinished = false)
    (hnext : r.meter.schedule.next? = some request) :
    Delivers m (acts ++ [.dispatch connection request]) (r.dispatch connection request) := by
  have hcurrent : request.generation = m.schedule.generation :=
    h.schedule.waiting request (List.mem_of_head? hnext)
  have hunended : r.isFinished = true → r.meter.notices = [] := fun hfinished ↦
    absurd hfinished (by simp [hgoes])
  rw [Runner.dispatch]
  split
  · exact h.quiet rfl rfl h.schedule.handOut ⟨[request], rfl, by simpa using hcurrent⟩
      (fun _ hs ↦ hs) (fun hgoes ↦ ⟨hgoes, rfl⟩) (h.inStep.withSchedule _) hunended
  · exact h.quiet rfl rfl h.schedule.handOut ⟨[], (List.append_nil _).symm, by simp⟩
      (fun _ hs ↦ hs) (fun hgoes ↦ ⟨hgoes, rfl⟩) (h.inStep.withSchedule _) hunended

theorem takeSample {s : Sample} (hgoing : r.IsGoing) (hoffers : r.samples.head? = some s)
    (hrunning : m.isRunning = true) (hignores : m.measurement.monitor.IgnoresSilence) :
    Delivers m (acts ++ [.take (.read s)]) ((r.without (.read s)).perform (.read s)) := by
  obtain ⟨rest, hsamples⟩ : ∃ rest, r.samples = s :: rest := List.head?_eq_some_iff.1 hoffers
  let alone := m.run ((samplesTaken acts).map .read)
  have htaken : samplesTaken (acts ++ [.take (.read s)]) = samplesTaken acts ++ [s] :=
    samplesTaken_concat acts _
  have harrived : arrivals (acts ++ [.take (.read s)]) = samplesTaken acts ++ [s] ++ rest := by
    have hnone : arrivals (acts ++ [.take (.read s)]) = arrivals acts :=
      (arrivals_concat acts _).trans (List.append_nil _)
    rw [hnone, h.waiting hgoing.1, hsamples, List.append_assoc, List.singleton_append]
  have hcurrent : s.request.generation = m.schedule.generation :=
    h.launched _ (h.samples s (by simp [hsamples]))
  -- both run, and the sample is of their run, so its number decides for both
  have halone : alone.schedule = m.schedule := m.schedule_run_reads _
  have haccepts : r.meter.accepts s.request = alone.accepts s.request := by
    rw [Meter.accepts_eq_isInOrder hgoing.2 (hcurrent.trans h.schedule.generation_eq.symm),
      Meter.accepts_eq_isInOrder (by rwa [Meter.isRunning, halone]) (by rw [halone, hcurrent]),
      Meter.isInOrder, Meter.isInOrder, h.inStep.lastTaken]
  have hread : m.run ((samplesTaken (acts ++ [.take (.read s)])).map .read) = alone.read s := by
    rw [htaken, List.map_append, Meter.run_append]
    rfl
  have hignores' : alone.measurement.monitor.IgnoresSilence :=
    (m.monitor_history (fun _ _ _ h ↦ h) hignores _).2
  have hschedule : (r.meter.read s).schedule = r.meter.schedule := by
    rw [Meter.read]
    split <;> rfl
  have hrest : r.samples.tail = rest := by rw [hsamples, List.tail_cons]
  refine ⟨hschedule.symm ▸ h.schedule, h.launched, fun s' hs' ↦ ?_, ?_, fun _ ↦ ?_,
    hread.symm ▸ h.inStep.read hignores' haccepts, fun hfinished ↦ absurd hfinished ?_⟩
  · have hs' : s' ∈ samplesTaken (acts ++ [.take (.read s)]) ++ r.samples.tail := hs'
    rw [htaken, hrest, List.append_assoc, List.singleton_append, ← hsamples] at hs'
    exact h.samples s' hs'
  · rw [htaken, harrived]
    exact List.prefix_append _ _
  · show _ = _ ++ r.samples.tail
    rw [htaken, harrived, hrest]
  · exact Bool.eq_false_iff.1 hgoing.1

theorem take {op : Meter.Op} (hgoing : r.IsGoing) (hoffers : r.Offers op)
    (hrunning : m.isRunning = true) (hignores : m.measurement.monitor.IgnoresSilence) :
    Delivers m (acts ++ [.take op]) ((r.without op).perform op) := by
  cases op with
  | command c =>
    cases c with
    | expect status =>
      exact h.inner rfl rfl h.schedule rfl rfl hgoing.1 hgoing.1 (h.inStep.expect status)
    | stop => exact h.inner rfl rfl h.schedule.stop rfl rfl hgoing.1 hgoing.1 h.inStep.stop
  | read s => exact h.takeSample hgoing hoffers hrunning hignores
  | _ => exact hoffers.elim

theorem lose {op : Meter.Op} (hfinished : r.isFinished = true) :
    Delivers m (acts ++ [.lose op]) (r.without op) := by
  cases op with
  | read s =>
    exact h.quiet rfl rfl h.schedule ⟨[], (List.append_nil _).symm, by simp⟩
      (fun _ hs ↦ List.mem_of_mem_tail hs) (fun hgoes ↦ absurd hfinished (by simpa using hgoes))
      h.inStep h.ended
  | _ => exact h.unmoved rfl rfl _ _ _

end

/-- **One act keeps it.** -/
theorem act (h : Delivers m acts r) (hrunning : m.isRunning = true)
    (hignores : m.measurement.monitor.IgnoresSilence) (hallowed : r.Allows a) :
    Delivers m (acts ++ [a]) (r.act a) := by
  cases a with
  | around move => exact h.around hallowed.1 hallowed.2
  | look now =>
    exact h.inner rfl rfl (h.schedule.tick _ _) rfl rfl hallowed hallowed (h.inStep.withSchedule _)
  | dispatch connection request => exact h.dispatch hallowed.1 hallowed.2
  | forward => exact h.inner rfl rfl h.schedule rfl rfl hallowed hallowed h.inStep.forward
  | rest stage =>
    have hgoes : (r.act (.rest stage)).isFinished = false := by
      simpa [isFinished, Runner.act] using hallowed.2
    exact h.inner rfl rfl h.schedule rfl rfl hallowed.1.1 hgoes h.inStep
  | take op => exact h.take hallowed.1 hallowed.2 hrunning hignores
  | hangUp => exact (h.write _).finish rfl rfl
  | finish => exact h.finish rfl rfl
  | lose op => exact h.lose hallowed.1

end Delivers

theorem Execution.delivers {m : Meter} {acts : List Act} {r : Runner}
    (hschedule : m.schedule.IsOfRun m.schedule.generation) (hrunning : m.isRunning = true)
    (hignores : m.measurement.monitor.IgnoresSilence) (h : Execution { meter := m } acts r) :
    Delivers m acts r := by
  induction h with
  | start => exact .initial hschedule
  | snoc before allowed ih => exact ih.act hrunning hignores allowed

/-! ### The end -/

/-- A meter that does not run has no work for its runner, and is not started by it. -/
theorem idle_of_idle {r : Runner} {a : Act} (hidle : r.meter.isRunning = false)
    (hallowed : r.Allows a) : a.works = false ∧ (r.act a).meter.isRunning = false := by
  have hnot : ¬ r.IsGoing := fun hgoing ↦ Bool.eq_false_iff.1 hidle hgoing.2
  cases a with
  | around move =>
    obtain ⟨_, _, _, _, hstep⟩ := r.step_eq_of_not_turn hallowed.1
    refine ⟨rfl, ?_⟩
    show (r.step move).meter.isRunning = false
    rw [hstep]
    exact hidle
  | look now => exact ⟨rfl, (Schedule.isRunning_tick ..).trans hidle⟩
  | dispatch connection request =>
    have hnone : r.meter.schedule.next? = none := by
      rw [Schedule.next?, Schedule.waiting_of_idle hidle, List.head?_nil]
    exact absurd (hnone.symm.trans hallowed.2) (by simp)
  | forward => exact ⟨rfl, hidle⟩
  | rest stage => exact absurd hallowed.1 hnot
  | take op => exact absurd hallowed.1 hnot
  | hangUp => exact absurd hallowed.1 hnot
  | finish => exact ⟨rfl, rfl⟩
  | lose op => exact ⟨rfl, (congrArg Meter.isRunning (r.meter_without op)).trans hidle⟩

theorem idle_of_ends {r : Runner} {a : Act} (hends : a.ends = true) :
    (r.act a).meter.isRunning = false := by
  cases a with
  | take op =>
    cases op with
    | command c =>
      cases c with
      | stop => exact Meter.isRunning_stop r.meter
      | expect status => exact absurd hends (by simp [Act.ends])
    | _ => exact absurd hends (by simp [Act.ends])
  | hangUp => rfl
  | _ => exact absurd hends (by simp [Act.ends])

/-- **After the end there is no work.** Once the runner has taken the command to stop, or found
that its handle is dropped, it hands out no request and takes nothing. -/
theorem Execution.pairwise_ends {r₀ r : Runner} {acts : List Act} (h : Execution r₀ acts r) :
    (acts.Pairwise fun a b ↦ a.ends = true → b.works = false) ∧
      ∀ a ∈ acts, a.ends = true → r.meter.isRunning = false := by
  induction h with
  | start => exact ⟨.nil, by simp⟩
  | snoc before allowed ih =>
    obtain ⟨hpairwise, hidle⟩ := ih
    refine ⟨List.pairwise_append.2 ⟨hpairwise, List.pairwise_singleton _ _, ?_⟩, ?_⟩
    · intro a ha b hb hends
      rw [List.mem_singleton.1 hb]
      exact (idle_of_idle (hidle a ha hends) allowed).1
    · intro a ha hends
      rcases List.mem_append.1 ha with ha | ha
      · exact (idle_of_idle (hidle a ha hends) allowed).2
      · rw [List.mem_singleton.1 ha] at hends
        exact idle_of_ends hends

/-! ### Delivery -/

/-- **A runner delivers what its meter alone would tell.** Let a new meter run after some
operations, and let a runner work with it from then on. After any execution, what was delivered and
what is still to be passed on are together the notices that the meter would have without the runner,
had those of the samples taken been read to it whose numbers rise, each of which it takes; when the
runner has ended, all of them are delivered. The samples taken are the first of those that arrived,
in their order, and up to the end all but those that still wait; they answer requests that were
launched. After the command to stop was taken, or the handle was found to be dropped, no request is
handed out and nothing taken.

The commands taken in between change what is expected, and with it only the notes on silence. So the
monitor is one that does not look at these, as the usual one does not
(`Monitor.ignoresSilence_threshold`).

Every list of moves is played by such an execution, with the same happening around the runner. -/
theorem delivers_alone {c : Settings} {d : Host} {monitor : Monitor} {m : Meter}
    (hm : Meter.new c d monitor = .ok m) (hignores : monitor.IgnoresSilence) {ops : List Meter.Op}
    (hrunning : (m.run ops).isRunning = true) :
    (∀ acts r, Execution { meter := m.run ops } acts r →
      let rising := risingAbove (m.run ops).lastTaken (samplesTaken acts)
      let alone := m.run (ops ++ rising.map .read)
      r.delivered ++ r.meter.notices = alone.notices ∧
        (r.isFinished = true → r.delivered = alone.notices) ∧
        ((m.run ops).history (rising.map .read)).map (·.sample) = rising ∧
        samplesTaken acts <+: arrivals acts ∧
        (r.isFinished = false → arrivals acts = samplesTaken acts ++ r.samples) ∧
        (∀ s ∈ samplesTaken acts, s.request ∈ r.launched) ∧
        acts.Pairwise fun a b ↦ a.ends = true → b.works = false) ∧
      ∀ moves, onlyLaunchedEnd { meter := m.run ops } moves = true →
        ∃ acts, Execution { meter := m.run ops } acts (moves.foldl step { meter := m.run ops }) ∧
          acts.filterMap Act.move? = moves.filter (!·.isTurn) := by
  refine ⟨fun acts r h ↦ ?_, fun moves hmoves ↦ execution_of_moves hmoves⟩
  intro rising alone
  have hschedule : (m.run ops).schedule.IsOfRun (m.run ops).schedule.generation :=
    ⟨rfl, (Meter.issued_run hm ops).waiting_current⟩
  have hignores' : (m.run ops).measurement.monitor.IgnoresSilence := by
    refine (m.monitor_history (fun _ _ _ h ↦ h) ?_ ops).2
    rwa [Meter.measurement_of_new hm]
  have hdelivers := h.delivers hschedule hrunning hignores'
  have hlaunched : ∀ s ∈ samplesTaken acts, s.request ∈ r.launched := fun s hs ↦
    hdelivers.samples s (List.mem_append_left _ hs)
  obtain ⟨hreads, hhistory⟩ := Meter.run_reads hrunning fun s hs ↦
    hdelivers.launched _ (hlaunched s hs)
  have halone : alone = (m.run ops).run ((samplesTaken acts).map .read) :=
    (m.run_append ops _).trans hreads.symm
  have htold : r.delivered ++ r.meter.notices = alone.notices := by
    rw [halone]
    exact hdelivers.inStep.notices
  refine ⟨htold, fun hfinished ↦ ?_, hhistory, hdelivers.taken, hdelivers.waiting, hlaunched,
    h.pairwise_ends.1⟩
  rw [← htold, hdelivers.ended hfinished, List.append_nil]

/-- A runner takes the sample for its first request and then, of two that come in the wrong order,
the later one. What it delivers until it is stopped is what these two tell. -/
theorem delivered_until_stop :
    let m : Meter := { settings := {}, host := {} }
    let sent (n : UInt64) : Snapshot :=
      { audio := { senders := [{ report := [.outboundRtp { packetsSent := some n }] }] } }
    let r₀ : Runner := { meter := m.run [.start 0] }
    let moves : List Move := [.turn .connected 0 128, .fetched ⟨1, 0⟩ 1 (.ok (sent 5)),
      .turn .connected 2 128, .send (.expect {}), .turn .connected 5000 1, .turn .connected 10000 1,
      .fetched ⟨1, 2⟩ 10001 (.ok (sent 9)), .fetched ⟨1, 1⟩ 10002 (.ok (sent 7)),
      .turn .connected 10003 2, .send .stop, .turn .connected 10004 2]
    let r := moves.foldl step r₀
    r.isFinished = true ∧ r.delivered.length = 1 ∧
      ∃ acts, Execution r₀ acts r ∧
        r.delivered =
          (m.run ([.start 0] ++ (risingAbove none (samplesTaken acts)).map .read)).notices := by
  intro m sent r₀ moves r
  have hm : Meter.new {} {} = .ok m := rfl
  have hrunning : (m.run [.start 0]).isRunning = true := by decide
  obtain ⟨hdelivers, hplayed⟩ := delivers_alone hm (Monitor.ignoresSilence_threshold _ _) hrunning
  obtain ⟨acts, hacts, -⟩ := hplayed moves (by decide +kernel)
  have hfinished : r.isFinished = true := by decide +kernel
  exact ⟨hfinished, by decide +kernel, acts, hacts, (hdelivers acts r hacts).2.1 hfinished⟩

end Runner

end MediaTelemetry
