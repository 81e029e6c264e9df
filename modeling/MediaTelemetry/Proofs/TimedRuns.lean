import Mathlib.Data.List.Range
import MediaTelemetry.Proofs.Delivery
import MediaTelemetry.Proofs.Requests

/-!
# Runners against a clock

`Runner.Timed` sets the acts of a runner against a clock: what a runner does takes no time, and its
timer fires at its deadline. So time passes only when no request waits to be handed out, and never
past the moment at which the meter is due. Nothing else is asked. In particular fetches end whenever
they like, or never, and commands and samples may wait as long as they like.

* `Runner.act_cases` lists all that an act can do to the schedule and to the fetches of a runner
  that goes on. What is taken, and what happens around the runner, is not among it.
* `Runner.OnBeat` is what each act and each lapse of time preserves: one tick per interval since the
  start, each with one request, which is handed out at the moment of its tick and begins a fetch if
  the connection can be sampled.
* `Runner.OnBeat.agree` compares two such runs: before any moment that both have reached, they have
  had the same ticks and, if the connections did not differ, begun the same fetches.
-/

namespace MediaTelemetry

/-- A schedule loses its first request when it hands it out, and nothing else. -/
theorem Schedule.handOut_running (due generation number : Nat) (r : Request)
    (waiting : List Request) :
    Schedule.handOut ⟨.running due (r :: waiting), generation, number⟩ =
      ⟨.running due waiting, generation, number⟩ := rfl

namespace Runner

/-! ### Timed runs -/

/-- A look at the clock is shown the time. -/
def Act.IsShown (now : Nat) : Act → Prop
  | .look shown => shown = now
  | _ => True

/-- Nothing is left to do at this moment for requests, and the timer fires no earlier than
`later`. -/
def LetsPass (r : Runner) (later : Nat) : Prop :=
  r.meter.schedule.waiting = [] ∧ ∀ due ∈ r.meter.schedule.due?, later ≤ due

/-- From `r₀` at the moment `s`, the acts happen at their moments, and lead to `r` at the moment
`now`. -/
inductive Timed (r₀ : Runner) (s : Nat) : List (Nat × Act) → Nat → Runner → Prop
  | start : Timed r₀ s [] s r₀
  | snoc {acts : List (Nat × Act)} {now : Nat} {r : Runner} {a : Act}
      (before : Timed r₀ s acts now r) (allowed : r.Allows a) (shown : a.IsShown now) :
      Timed r₀ s (acts ++ [(now, a)]) now (r.act a)
  | wait {acts : List (Nat × Act)} {now later : Nat} {r : Runner} (before : Timed r₀ s acts now r)
      (le : now ≤ later) (lets : r.LetsPass later) : Timed r₀ s acts later r

/-- None of the acts takes the command to stop, or finds the handle dropped. -/
def StaysOpen (acts : List (Nat × Act)) : Prop := ∀ a ∈ acts, a.2.ends = false

/-- What the acts add to a list of requests that `list` sees of a runner, each with its moment. -/
def added (list : Runner → List Request) : Runner → List (Nat × Act) → List (Nat × Request)
  | _, [] => []
  | r, (now, a) :: acts =>
    ((list (r.act a)).drop (list r).length).map (now, ·) ++ added list (r.act a) acts

/-- The ticks: the requests that the schedule queues. -/
def ticks : Runner → List (Nat × Act) → List (Nat × Request) := added (·.meter.schedule.waiting)

/-- The fetches begun. -/
def launches : Runner → List (Nat × Act) → List (Nat × Request) := added (·.launched)

/-- The connection and the request, if the act hands one out. -/
def Act.handedOut? : Act → Option (Connection × Request)
  | .dispatch connection request => some (connection, request)
  | _ => none

/-- The requests handed out, each with its moment and the connection then. -/
def handedOut (acts : List (Nat × Act)) : List (Nat × Connection × Request) :=
  acts.filterMap fun a ↦ a.2.handedOut?.map (a.1, ·)

/-- What is handed out, without the connection. -/
def requested (handed : Nat × Connection × Request) : Nat × Request := (handed.1, handed.2.2)

/-- What is fetched of what is handed out. -/
def sampled? (handed : Nat × Connection × Request) : Option (Nat × Request) :=
  if handed.2.1.canSample then some (requested handed) else none

/-- The tick with a number, of a runner that starts at `s`. -/
def beat (r₀ : Runner) (s k : Nat) : Nat × Request :=
  (s + k * r₀.meter.settings.interval,
    ⟨r₀.meter.schedule.generation, r₀.meter.schedule.nextNumber + k⟩)

section Added

variable {r₀ r : Runner} {s now : Nat} {acts : List (Nat × Act)} {a : Act}

theorem Timed.runner_eq (h : Timed r₀ s acts now r) : r = (acts.map (·.2)).foldl Runner.act r₀ := by
  induction h with
  | start => rfl
  | snoc _ _ _ ih => rw [List.map_append, List.foldl_append, ← ih]; rfl
  | wait _ _ _ ih => exact ih

theorem added_concat (h : Timed r₀ s acts now r) (list : Runner → List Request) :
    added list r₀ (acts ++ [(now, a)]) =
      added list r₀ acts ++ ((list (r.act a)).drop (list r).length).map (now, ·) := by
  have hadded : ∀ (acts : List (Nat × Act)) (r₀ : Runner),
      added list r₀ (acts ++ [(now, a)]) = added list r₀ acts ++
        ((list (((acts.map (·.2)).foldl act r₀).act a)).drop
          (list ((acts.map (·.2)).foldl act r₀)).length).map (now, ·) := by
    intro acts
    induction acts with
    | nil => intro r₀; simp [added]
    | cons b acts ih =>
      intro r₀
      rw [List.cons_append, added, ih, added, ← List.append_assoc]
      rfl
  rw [hadded, ← h.runner_eq]

/-- What an act leaves alone, or only takes from, it adds nothing to. -/
theorem added_concat_of_length_le (h : Timed r₀ s acts now r) (list : Runner → List Request)
    (hle : (list (r.act a)).length ≤ (list r).length) :
    added list r₀ (acts ++ [(now, a)]) = added list r₀ acts := by
  rw [added_concat h, List.drop_eq_nil_of_le hle, List.map_nil, List.append_nil]

theorem added_concat_of_append (h : Timed r₀ s acts now r) (list : Runner → List Request)
    {more : List Request} (hmore : list (r.act a) = list r ++ more) :
    added list r₀ (acts ++ [(now, a)]) = added list r₀ acts ++ more.map (now, ·) := by
  rw [added_concat h, hmore, List.drop_left]

theorem handedOut_append (acts acts' : List (Nat × Act)) :
    handedOut (acts ++ acts') = handedOut acts ++ handedOut acts' := List.filterMap_append ..

theorem handedOut_concat_of_none (ha : a.handedOut? = none) :
    handedOut (acts ++ [(now, a)]) = handedOut acts := by
  rw [handedOut_append]
  simp [handedOut, ha]

theorem StaysOpen.concat (h : StaysOpen acts) (hends : a.ends = false) :
    StaysOpen (acts ++ [(now, a)]) := by
  intro b hb
  rcases List.mem_append.1 hb with hb | hb
  · exact h b hb
  · rwa [List.mem_singleton.1 hb]

theorem StaysOpen.of_concat (h : StaysOpen (acts ++ [(now, a)])) :
    StaysOpen acts ∧ a.ends = false :=
  ⟨fun b hb ↦ h b (List.mem_append_left _ hb), h (now, a) (List.mem_append_right _ (by simp))⟩

end Added

/-! ### One act -/

/-- **All that an act can do to the beat of a runner that goes on**, unless it ends it: it looks
at the clock, hands out a request, or leaves schedule and fetches as they are. -/
theorem act_cases {r : Runner} {a : Act} (hgoing : r.IsGoing) (hallowed : r.Allows a)
    (hends : a.ends = false) :
    (r.act a).IsGoing ∧ (r.act a).meter.settings = r.meter.settings ∧
      ((∃ now, a = .look now ∧ (r.act a).launched = r.launched ∧
          (r.act a).meter.schedule = r.meter.schedule.tick r.meter.settings.interval now) ∨
        (∃ connection request, a = .dispatch connection request ∧
          r.meter.schedule.next? = some request ∧
          (r.act a).launched =
            r.launched ++ (if connection.canSample then [request] else []) ∧
          (r.act a).meter.schedule = r.meter.schedule.handOut) ∨
        (a.handedOut? = none ∧ (r.act a).launched = r.launched ∧
          (r.act a).meter.schedule = r.meter.schedule)) := by
  obtain ⟨hunfinished, hrunning⟩ := hgoing
  cases a with
  | around move =>
    obtain ⟨_, _, _, _, hstep⟩ := r.step_eq_of_not_turn hallowed.1
    rw [act_around, hstep]
    exact ⟨⟨hunfinished, hrunning⟩, rfl, .inr (.inr ⟨rfl, rfl, rfl⟩)⟩
  | look now =>
    refine ⟨⟨hunfinished, ?_⟩, rfl, .inl ⟨now, rfl, rfl, rfl⟩⟩
    exact (Schedule.isRunning_tick ..).trans hrunning
  | dispatch connection request =>
    have hmeter := r.meter_dispatch connection request
    have hhandOut : r.meter.schedule.handOut.isRunning = r.meter.schedule.isRunning := by
      obtain ⟨phase, generation, number⟩ := r.meter.schedule
      cases phase <;> rfl
    rw [act_dispatch, IsGoing, hmeter]
    refine ⟨⟨?_, hhandOut.trans hrunning⟩, rfl,
      .inr (.inl ⟨connection, request, rfl, hallowed.2, ?_, rfl⟩)⟩
    · exact (frame_foldl_dispatch r connection [request]).2.trans hunfinished
    · rw [dispatch]
      cases connection.canSample with
      | true => rfl
      | false => exact (List.append_nil _).symm
  | forward => exact ⟨⟨hunfinished, hrunning⟩, rfl, .inr (.inr ⟨rfl, rfl, rfl⟩)⟩
  | rest stage =>
    refine ⟨⟨?_, hrunning⟩, rfl, .inr (.inr ⟨rfl, rfl, rfl⟩)⟩
    simpa [isFinished, act] using hallowed.2
  | take op =>
    cases op with
    | command c =>
      cases c with
      | expect status => exact ⟨⟨hunfinished, hrunning⟩, rfl, .inr (.inr ⟨rfl, rfl, rfl⟩)⟩
      | stop => exact absurd hends (by simp [Act.ends])
    | read sample =>
      have hread : ∀ m : Meter, (m.read sample).settings = m.settings ∧
          (m.read sample).schedule = m.schedule := by
        intro m
        rw [Meter.read]
        split <;> exact ⟨rfl, rfl⟩
      obtain ⟨hsettings, hschedule⟩ := hread r.meter
      refine ⟨⟨hunfinished, ?_⟩, hsettings, .inr (.inr ⟨rfl, rfl, hschedule⟩)⟩
      exact (congrArg Schedule.isRunning hschedule).trans hrunning
    | _ => exact hallowed.2.elim
  | hangUp => exact absurd hends (by simp [Act.ends])
  | finish => exact absurd (hrunning.symm.trans hallowed.2) (by simp)
  | lose op => exact absurd (hunfinished.symm.trans hallowed.1) (by simp)

/-! ### The beat -/

/-- What holds of a run that has not ended. -/
structure OnBeat (r₀ : Runner) (s : Nat) (acts : List (Nat × Act)) (now : Nat) (r : Runner) :
    Prop where
  going : r.IsGoing
  settings : r.meter.settings = r₀.meter.settings
  ticks_eq : ticks r₀ acts = (List.range (ticks r₀ acts).length).map (beat r₀ s)
  /-- The next tick is due at its beat. -/
  schedule : r.meter.schedule =
    ⟨.running (beat r₀ s (ticks r₀ acts).length).1 r.meter.schedule.waiting,
      r₀.meter.schedule.generation, r₀.meter.schedule.nextNumber + (ticks r₀ acts).length⟩
  /-- All ticks but the next have been reached. -/
  reached : ∀ k < (ticks r₀ acts).length, (beat r₀ s k).1 ≤ now
  ahead : now ≤ (beat r₀ s (ticks r₀ acts).length).1
  /-- Requests are handed out at the moment of their ticks. -/
  handed : (handedOut acts).map requested ++ r.meter.schedule.waiting.map (now, ·) = ticks r₀ acts
  launched : launches r₀ acts = (handedOut acts).filterMap sampled?

namespace OnBeat

variable {r₀ r : Runner} {s now : Nat} {acts : List (Nat × Act)} {a : Act}

theorem initial (hfresh : r₀.isFinished = false)
    (hschedule : ∃ generation number, r₀.meter.schedule = ⟨.running s [], generation, number⟩) :
    OnBeat r₀ s [] s r₀ := by
  obtain ⟨generation, number, hschedule⟩ := hschedule
  refine ⟨⟨hfresh, ?_⟩, rfl, rfl, ?_, fun k hk ↦ absurd hk (Nat.not_lt_zero k), ?_, ?_, rfl⟩
  · rw [Meter.isRunning, hschedule]
    rfl
  · rw [hschedule]
    simp [beat, ticks, added, Schedule.waiting]
  · simp [beat, ticks, added]
  · rw [hschedule]
    rfl

theorem wait (h : OnBeat r₀ s acts now r) {later : Nat} (hle : now ≤ later)
    (hlets : r.LetsPass later) : OnBeat r₀ s acts later r := by
  obtain ⟨hwaiting, hdue⟩ := hlets
  refine ⟨h.going, h.settings, h.ticks_eq, h.schedule, fun k hk ↦ (h.reached k hk).trans hle, ?_,
    ?_, h.launched⟩
  · refine hdue _ ?_
    rw [h.schedule]
    rfl
  · have hhanded := h.handed
    rwa [hwaiting] at hhanded ⊢

/-- An act that adds no tick leaves the ticks as they are on their beat. -/
theorem of_ticks_eq (h : OnBeat r₀ s acts now r)
    (hticks : ticks r₀ (acts ++ [(now, a)]) = ticks r₀ acts) (hgoing : (r.act a).IsGoing)
    (hsettings : (r.act a).meter.settings = r.meter.settings)
    (hschedule : (r.act a).meter.schedule =
      ⟨.running (beat r₀ s (ticks r₀ acts).length).1 (r.act a).meter.schedule.waiting,
        r₀.meter.schedule.generation, r₀.meter.schedule.nextNumber + (ticks r₀ acts).length⟩)
    (hhanded : (handedOut (acts ++ [(now, a)])).map requested ++
      (r.act a).meter.schedule.waiting.map (now, ·) = ticks r₀ acts)
    (hlaunched : launches r₀ (acts ++ [(now, a)]) =
      (handedOut (acts ++ [(now, a)])).filterMap sampled?) :
    OnBeat r₀ s (acts ++ [(now, a)]) now (r.act a) := by
  constructor
  case going => exact hgoing
  case settings => exact hsettings.trans h.settings
  case launched => exact hlaunched
  all_goals rw [hticks]
  case ticks_eq => exact h.ticks_eq
  case schedule => exact hschedule
  case reached => exact h.reached
  case ahead => exact h.ahead
  case handed => exact hhanded

/-- An act that leaves schedule and fetches alone leaves the beat. -/
theorem rest (htimed : Timed r₀ s acts now r) (h : OnBeat r₀ s acts now r)
    (hgoing : (r.act a).IsGoing) (hsettings : (r.act a).meter.settings = r.meter.settings)
    (hnone : a.handedOut? = none) (hlaunched : (r.act a).launched = r.launched)
    (hschedule : (r.act a).meter.schedule = r.meter.schedule) :
    OnBeat r₀ s (acts ++ [(now, a)]) now (r.act a) := by
  have hticks : ticks r₀ (acts ++ [(now, a)]) = ticks r₀ acts :=
    added_concat_of_length_le htimed _ (Nat.le_of_eq (by rw [hschedule]))
  have hlaunches : launches r₀ (acts ++ [(now, a)]) = launches r₀ acts :=
    added_concat_of_length_le htimed _ (Nat.le_of_eq (by rw [hlaunched]))
  refine h.of_ticks_eq hticks hgoing hsettings ?_ ?_ ?_
  · rw [hschedule]
    exact h.schedule
  · rw [handedOut_concat_of_none hnone, hschedule]
    exact h.handed
  · rw [hlaunches, handedOut_concat_of_none hnone]
    exact h.launched

/-- A look at the clock finds a tick due exactly at its beat. -/
theorem look (htimed : Timed r₀ s acts now r) (h : OnBeat r₀ s acts now r)
    (hgoing : (r.act (.look now)).IsGoing)
    (hsettings : (r.act (.look now)).meter.settings = r.meter.settings)
    (hlaunched : (r.act (.look now)).launched = r.launched)
    (hschedule : (r.act (.look now)).meter.schedule =
      r.meter.schedule.tick r.meter.settings.interval now) :
    OnBeat r₀ s (acts ++ [(now, .look now)]) now (r.act (.look now)) := by
  set n := (ticks r₀ acts).length with hn
  have hafter := hschedule
  rw [h.schedule, Schedule.tick] at hafter
  dsimp only at hafter
  split at hafter
  · exact h.rest htimed hgoing hsettings rfl hlaunched (hafter.trans h.schedule.symm)
  · rename_i hdue
    obtain rfl : now = (beat r₀ s n).1 := Nat.le_antisymm h.ahead (Nat.not_lt.1 hdue)
    have hwaiting : (r.act (.look (beat r₀ s n).1)).meter.schedule.waiting =
        r.meter.schedule.waiting ++ [(beat r₀ s n).2] := by
      rw [hafter]
      rfl
    have hticks : ticks r₀ (acts ++ [((beat r₀ s n).1, .look (beat r₀ s n).1)]) =
        ticks r₀ acts ++ [beat r₀ s n] :=
      added_concat_of_append htimed (·.meter.schedule.waiting) hwaiting
    have hlength : (ticks r₀ (acts ++ [((beat r₀ s n).1, .look (beat r₀ s n).1)])).length =
        n + 1 := by rw [hticks, List.length_append, List.length_singleton]
    have hnext : (beat r₀ s n).1 + r₀.meter.settings.interval = (beat r₀ s (n + 1)).1 := by
      simp only [beat]
      rw [Nat.add_mul, Nat.one_mul, Nat.add_assoc]
    have hlaunches : launches r₀ (acts ++ [((beat r₀ s n).1, .look (beat r₀ s n).1)]) =
        launches r₀ acts := added_concat_of_length_le htimed _ (Nat.le_of_eq (by rw [hlaunched]))
    refine ⟨hgoing, hsettings.trans h.settings, ?_, ?_, fun k hk ↦ ?_, ?_, ?_, ?_⟩
    · rw [hlength, hticks, List.range_succ, List.map_append, ← h.ticks_eq]
      rfl
    · rw [hlength, hwaiting, hafter, h.settings, hnext, Nat.add_assoc]
      rfl
    · rw [hlength] at hk
      rcases Nat.lt_succ_iff_lt_or_eq.1 hk with hk | rfl
      · exact h.reached k hk
      · exact Nat.le_refl _
    · rw [hlength, ← hnext]
      exact Nat.le_add_right _ _
    · rw [hticks, handedOut_concat_of_none rfl, hwaiting, List.map_append, ← List.append_assoc,
        h.handed]
      rfl
    · rw [hlaunches, handedOut_concat_of_none rfl]
      exact h.launched

theorem dispatch {connection : Connection} {request : Request} (htimed : Timed r₀ s acts now r)
    (h : OnBeat r₀ s acts now r) (hgoing : (r.act (.dispatch connection request)).IsGoing)
    (hsettings : (r.act (.dispatch connection request)).meter.settings = r.meter.settings)
    (hnext : r.meter.schedule.next? = some request)
    (hlaunched : (r.act (.dispatch connection request)).launched =
      r.launched ++ (if connection.canSample then [request] else []))
    (hschedule : (r.act (.dispatch connection request)).meter.schedule =
      r.meter.schedule.handOut) :
    OnBeat r₀ s (acts ++ [(now, .dispatch connection request)]) now
      (r.act (.dispatch connection request)) := by
  obtain ⟨rest, hwaiting⟩ : ∃ rest, r.meter.schedule.waiting = request :: rest :=
    List.head?_eq_some_iff.1 hnext
  have hrest : (r.act (.dispatch connection request)).meter.schedule.waiting = rest := by
    rw [hschedule, Schedule.waiting_handOut, hwaiting, List.tail_cons]
  have hticks : ticks r₀ (acts ++ [(now, .dispatch connection request)]) = ticks r₀ acts := by
    refine added_concat_of_length_le htimed _ ?_
    rw [hrest, hwaiting, List.length_cons]
    exact Nat.le_succ _
  have hhanded : handedOut (acts ++ [(now, .dispatch connection request)]) =
      handedOut acts ++ [(now, connection, request)] := handedOut_append ..
  refine h.of_ticks_eq hticks hgoing hsettings ?_ ?_ ?_
  · rw [hrest, hschedule, h.schedule, hwaiting, Schedule.handOut_running]
  · rw [hhanded, hrest, List.map_append, List.append_assoc, ← h.handed, hwaiting]
    rfl
  · rw [hhanded, List.filterMap_append, ← h.launched, launches,
      added_concat_of_append htimed _ hlaunched]
    cases hsample : connection.canSample <;> simp [sampled?, requested, hsample]

end OnBeat

/-- **A run that has not ended is on its beat.** -/
theorem Timed.onBeat {r₀ r : Runner} {s now : Nat} {acts : List (Nat × Act)}
    (hfresh : r₀.isFinished = false)
    (hschedule : ∃ generation number, r₀.meter.schedule = ⟨.running s [], generation, number⟩)
    (h : Timed r₀ s acts now r) (hopen : StaysOpen acts) : OnBeat r₀ s acts now r := by
  induction h with
  | start => exact .initial hfresh hschedule
  | wait _ hle hlets ih => exact (ih hopen).wait hle hlets
  | snoc before hallowed hshown ih =>
    obtain ⟨hopen, hends⟩ := hopen.of_concat
    have hbeat := ih hopen
    obtain ⟨hgoing, hsettings, hcases⟩ := act_cases hbeat.going hallowed hends
    rcases hcases with ⟨_, rfl, hlaunched, hschedule⟩ |
      ⟨_, _, rfl, hnext, hlaunched, hschedule⟩ | ⟨hnone, hlaunched, hschedule⟩
    · obtain rfl := hshown
      exact hbeat.look before hgoing hsettings hlaunched hschedule
    · exact hbeat.dispatch before hgoing hsettings hnext hlaunched hschedule
    · exact hbeat.rest before hgoing hsettings hnone hlaunched hschedule

/-! ### Two runs -/

/-- Two initial ranges have the same members with a property if neither leaves one out. -/
theorem filter_range_eq {p : Nat → Bool} {a b : Nat} (ha : ∀ k, p k = true → k < a)
    (hb : ∀ k, p k = true → k < b) : (List.range a).filter p = (List.range b).filter p := by
  have hmore : ∀ {a : Nat} (d : Nat), (∀ k, p k = true → k < a) →
      (List.range (a + d)).filter p = (List.range a).filter p := by
    intro a d ha
    have hnone : ((List.range d).map (a + ·)).filter p = [] := by
      refine List.filter_eq_nil_iff.2 fun k hk hp ↦ ?_
      obtain ⟨i, -, rfl⟩ := List.mem_map.1 hk
      exact absurd (ha _ hp) (by omega)
    rw [List.range_add, List.filter_append, hnone, List.append_nil]
  rcases Nat.le_total a b with hle | hle
  · obtain ⟨d, rfl⟩ := Nat.exists_eq_add_of_le hle
    exact (hmore d ha).symm
  · obtain ⟨d, rfl⟩ := Nat.exists_eq_add_of_le hle
    exact hmore d hb

/-- What is fetched depends on what is requested, and on whether the connection can be sampled
then. -/
theorem filterMap_sampled?_eq {handed handed' : List (Nat × Connection × Request)}
    (hrequested : handed.map requested = handed'.map requested)
    (hconnection : ∀ d ∈ handed, ∀ d' ∈ handed', d.1 = d'.1 →
      d.2.1.canSample = d'.2.1.canSample) :
    handed.filterMap sampled? = handed'.filterMap sampled? := by
  induction handed generalizing handed' with
  | nil => rw [List.map_eq_nil_iff.1 hrequested.symm]
  | cons d handed ih =>
    cases handed' with
    | nil => exact absurd hrequested (by simp)
    | cons d' handed' =>
      obtain ⟨hd, hrest⟩ := List.cons.inj hrequested
      have hsample : sampled? d = sampled? d' := by
        rw [sampled?, sampled?, hd, hconnection d List.mem_cons_self d' List.mem_cons_self
          (congrArg (·.1) hd)]
      rw [List.filterMap_cons, List.filterMap_cons, hsample,
        ih hrest fun e he e' he' ↦ hconnection e (List.mem_cons_of_mem _ he) e'
          (List.mem_cons_of_mem _ he')]

namespace OnBeat

variable {r₀ r r' : Runner} {s now now' t : Nat} {acts acts' : List (Nat × Act)}

/-- What happened before a moment that has been reached. -/
theorem filter_ticks (h : OnBeat r₀ s acts now r) (hinterval : 0 < r₀.meter.settings.interval)
    (ht : t ≤ now) : (ticks r₀ acts).filter (·.1 < t) =
      ((List.range t).filter fun k ↦ (beat r₀ s k).1 < t).map (beat r₀ s) := by
  rw [h.ticks_eq, List.filter_map]
  refine congrArg (List.map _) (filter_range_eq (fun k hk ↦ ?_) fun k hk ↦ ?_)
  · -- the next tick is still to come
    have hlt : (beat r₀ s k).1 < t := of_decide_eq_true hk
    by_contra hle
    have hmono : (beat r₀ s (ticks r₀ acts).length).1 ≤ (beat r₀ s k).1 :=
      Nat.add_le_add_left (Nat.mul_le_mul_right _ (Nat.not_lt.1 hle)) _
    have := h.ahead
    omega
  · have hlt : s + k * r₀.meter.settings.interval < t := of_decide_eq_true hk
    have hk : k ≤ k * r₀.meter.settings.interval := Nat.le_mul_of_pos_right k hinterval
    omega

/-- Requests wait at most for the moment to end, so what was requested before it are the ticks. -/
theorem filter_handedOut (h : OnBeat r₀ s acts now r) (ht : t ≤ now) :
    ((handedOut acts).filter (·.1 < t)).map requested = (ticks r₀ acts).filter (·.1 < t) := by
  have hwaiting : (r.meter.schedule.waiting.map (now, ·)).filter (·.1 < t) = [] := by
    refine List.filter_eq_nil_iff.2 fun e he hlt ↦ ?_
    obtain ⟨request, -, rfl⟩ := List.mem_map.1 he
    exact absurd (of_decide_eq_true hlt) (Nat.not_lt.2 ht)
  rw [← h.handed, List.filter_append, hwaiting, List.append_nil, List.filter_map]
  rfl

theorem filter_launches (h : OnBeat r₀ s acts now r) :
    (launches r₀ acts).filter (·.1 < t) =
      ((handedOut acts).filter (·.1 < t)).filterMap sampled? := by
  rw [h.launched, List.filter_filterMap, List.filterMap_filter]
  refine List.filterMap_congr fun d _ ↦ ?_
  by_cases hd : d.1 < t <;> cases hsample : d.2.1.canSample <;>
    simp [sampled?, requested, Option.filter, hd, hsample]

/-- **Two runs from one start agree** on what happened before a moment that both have reached, if
the connections did. -/
theorem agree (h : OnBeat r₀ s acts now r) (h' : OnBeat r₀ s acts' now' r')
    (hinterval : 0 < r₀.meter.settings.interval) (ht : t ≤ now) (ht' : t ≤ now')
    (hconnection : ∀ d ∈ handedOut acts, ∀ d' ∈ handedOut acts', d.1 = d'.1 →
      d.2.1.canSample = d'.2.1.canSample) :
    (ticks r₀ acts).filter (·.1 < t) = (ticks r₀ acts').filter (·.1 < t) ∧
      (launches r₀ acts).filter (·.1 < t) = (launches r₀ acts').filter (·.1 < t) := by
  have hticks : (ticks r₀ acts).filter (·.1 < t) = (ticks r₀ acts').filter (·.1 < t) := by
    rw [h.filter_ticks hinterval ht, h'.filter_ticks hinterval ht']
  refine ⟨hticks, ?_⟩
  rw [h.filter_launches, h'.filter_launches]
  refine filterMap_sampled?_eq ?_ fun d hd d' hd' ↦
    hconnection d (List.mem_of_mem_filter hd) d' (List.mem_of_mem_filter hd')
  rw [h.filter_handedOut ht, h'.filter_handedOut ht', hticks]

end OnBeat

end Runner

end MediaTelemetry
