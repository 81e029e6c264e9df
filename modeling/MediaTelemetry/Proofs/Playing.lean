import MediaTelemetry.Proofs.Turns
import MediaTelemetry.Timeline

/-!
# Timelines play timed runs

What a timeline plays between two waits is a timed run of its runner: the clock is turned on only
when all is done that can be done at a moment, and no further than to the next timer, of which the
runner's own is one. Fetches that end, however many and whenever, only add samples to what waits.

* `Timeline.Plays` is what single turns, answers and fetches preserve; `Timeline.Leads` puts them
  together.
* `Timeline.Armed` says that the runner's timer is set, and for a moment to come. Every turn sets
  it.
* `Timeline.Plays.reached` tells the ticks that an armed runner has had.
-/

namespace MediaTelemetry

namespace Timeline

open Runner

variable {r₀ : Runner} {s : Nat} {connections : List Connection} {begun : List Request}
  {unbegun : Nat} {t t' : Timeline}

/-! ### What is played -/

/-- A timeline has played a timed run that stays open. Requests were handed out under `connections`,
the fetches of `begun` are no longer the runner's, and all but the last `unbegun` of them have been
begun, each at its moment. -/
structure Plays (r₀ : Runner) (s : Nat) (connections : List Connection) (begun : List Request)
    (unbegun : Nat) (t : Timeline) : Prop where
  run : ∃ acts, Timed r₀ s acts t.now (t.runner.withLaunched begun) ∧ StaysOpen acts ∧
    (handedOut acts).map (·.2.1) = connections ∧
    (launches r₀ acts).map (·.1) =
      t.begun ++ List.replicate (unbegun + t.runner.launched.length) t.now
  held : t.runner.IsHeld
  fetches : ∀ moment request outcome, (moment, Alarm.fetch request outcome) ∈ t.timers →
    request ∈ begun
  later : ∀ timer ∈ t.timers, t.now < timer.1

/-- The runner's timer is set for a moment to come, and nothing else is left to do. -/
def Armed (t : Timeline) : Prop :=
  t.runner.meter.schedule.IsDone t.now ∧
    ∃ due ∈ t.runner.meter.schedule.due?, (due, Alarm.runner) ∈ t.timers

/-- What holds of a runner that is fresh and starts at the moment. -/
structure Starts (r₀ : Runner) (s : Nat) : Prop where
  unfinished : r₀.isFinished = false
  schedule : ∃ generation number, r₀.meter.schedule = ⟨.running s [], generation, number⟩
  interval : 0 < r₀.meter.settings.interval

namespace Plays

/-- What happens around the runner, apart from what ends it. -/
theorem around (h : Plays r₀ s connections begun unbegun t) {move : Move}
    (hturn : move.isTurn = false) (hpossible : move.isPossible (begun ++ t.runner.launched) = true)
    (hsend : move ≠ .send .stop) (hdrop : move ≠ .drop) :
    Plays r₀ s connections begun unbegun { t with runner := t.runner.step move } := by
  obtain ⟨acts, htimed, hopen, hconnections, hbegun⟩ := h.run
  have hlaunched : (t.runner.step move).launched = t.runner.launched := by
    obtain ⟨_, _, _, _, hstep⟩ := t.runner.step_eq_of_not_turn hturn
    rw [hstep]
  have hact : Runner.act (t.runner.withLaunched begun) (.around move) =
      (t.runner.step move).withLaunched begun := t.runner.step_withLaunched begun hturn
  have htimed' := htimed.snoc (a := .around move) ⟨hturn, hpossible⟩ trivial
  rw [hact] at htimed'
  refine ⟨⟨_, htimed', hopen.concat rfl, ?_, ?_⟩, h.held.step hturn hsend hdrop, h.fetches, h.later⟩
  · rwa [handedOut_concat_of_none rfl]
  · have hnone : launches r₀ (acts ++ [(t.now, .around move)]) = launches r₀ acts :=
      added_concat_of_length_le htimed (·.launched)
        (Nat.le_of_eq (by rw [hact, withLaunched, withLaunched, hlaunched]))
    rw [hnone, hbegun, hlaunched]

/-- Acts of the runner itself, at the moment of the timeline and under its connection. -/
theorem keptByOwn (hstart : Starts r₀ s) (connections : List Connection) (begun : List Request)
    (t : Timeline) :
    KeptByOwn t.connection t.now fun r ↦ ∃ k, Plays r₀ s
      (connections ++ List.replicate k t.connection) begun 0 { t with runner := r } := by
  rintro r a ⟨k, h⟩ hallowed hown
  obtain ⟨acts, htimed, hopen, hconnections, hbegun⟩ := h.run
  let R := r.withLaunched begun
  have hallowed' : R.Allows a := (r.allows_withLaunched begun hown).2 hallowed
  have hends : a.ends = false := h.held.ends_eq_false hallowed
  have hact : R.act a = (r.act a).withLaunched begun := r.act_withLaunched begun hown
  have hbeat := htimed.onBeat hstart.unfinished hstart.schedule hopen
  -- what the act launches, and under which connection it hands out a request
  obtain ⟨more, j, hmore, hhanded⟩ : ∃ more j, (R.act a).launched = R.launched ++ more ∧
      (handedOut (acts ++ [(t.now, a)])).map (·.2.1) =
        (handedOut acts).map (·.2.1) ++ List.replicate j t.connection := by
    obtain ⟨-, -, hcases⟩ := act_cases hbeat.going hallowed' hends
    rcases hcases with ⟨_, rfl, hlaunched, -⟩ | ⟨connection, request, rfl, -, hlaunched, -⟩ |
      ⟨hnone, hlaunched, -⟩
    · exact ⟨[], 0, by rw [hlaunched, List.append_nil],
        by rw [handedOut_concat_of_none rfl, List.replicate_zero, List.append_nil]⟩
    · obtain rfl : connection = t.connection := hown
      exact ⟨_, 1, hlaunched, by rw [handedOut_append, List.map_append]; rfl⟩
    · exact ⟨[], 0, by rw [hlaunched, List.append_nil],
        by rw [handedOut_concat_of_none hnone, List.replicate_zero, List.append_nil]⟩
  have hlaunched : (r.act a).launched = r.launched ++ more := by
    rw [hact] at hmore
    exact List.append_cancel_left (hmore.trans (List.append_assoc ..))
  have hshown : a.IsShown t.now := by
    cases a with
    | look shown => exact hown
    | _ => trivial
  have htimed' := htimed.snoc hallowed' hshown
  rw [hact] at htimed'
  refine ⟨k + j, ⟨_, htimed', hopen.concat hends, ?_, ?_⟩, h.held.act hown, h.fetches, h.later⟩
  · rw [hhanded, hconnections, List.append_assoc, List.replicate_append_replicate]
  · have hmoments : (more.map (t.now, ·)).map (·.1) = List.replicate more.length t.now := by
      rw [List.map_map]
      exact List.map_const' ..
    calc (launches r₀ (acts ++ [(t.now, a)])).map (·.1)
        = t.begun ++ List.replicate (0 + r.launched.length) t.now ++
            List.replicate more.length t.now := by
          rw [launches, added_concat_of_append htimed (·.launched) hmore, List.map_append,
            ← launches, hbegun, hmoments]
      _ = t.begun ++ List.replicate (0 + (r.act a).launched.length) t.now := by
          rw [List.append_assoc, List.replicate_append_replicate, hlaunched, List.length_append,
            Nat.add_assoc]

theorem going (h : Plays r₀ s connections begun unbegun t) (hstart : Starts r₀ s) :
    t.runner.IsGoing ∧ t.runner.meter.settings = r₀.meter.settings := by
  obtain ⟨acts, htimed, hopen, -⟩ := h.run
  have hbeat := htimed.onBeat hstart.unfinished hstart.schedule hopen
  exact ⟨hbeat.going, hbeat.settings⟩

/-- Every turn arms the runner's timer. -/
theorem turn (h : Plays r₀ s connections begun 0 t) (hstart : Starts r₀ s) :
    ∃ k, Plays r₀ s (connections ++ List.replicate k t.connection) begun 0 t.turn ∧
      t.turn.Armed := by
  let r := t.runner.turn t.connection t.now t.turnLimit
  have hinitial : Plays r₀ s (connections ++ List.replicate 0 t.connection) begun 0 t := by
    rwa [List.replicate_zero, List.append_nil]
  obtain ⟨⟨k, hturned⟩, -⟩ := (keptByOwn hstart connections begun t).turn ⟨0, hinitial⟩
    (fun _ _ ↦ (h.going hstart).1.2) t.turnLimit
  obtain ⟨hgoing, hsettings⟩ := hturned.going hstart
  have hdone : r.meter.schedule.IsDone t.now :=
    isDone_turn hgoing.1 (hsettings ▸ hstart.interval)
  obtain ⟨due, hdue⟩ : ∃ due, r.meter.schedule.due? = some due :=
    Option.isSome_iff_exists.1 ((Schedule.isSome_due? _).trans hgoing.2)
  let others := t.timers.filter fun timer ↦ !timer.2.isRunner
  have hturn : t.turn = { t with runner := r, timers := others ++ [(due, Alarm.runner)] } := by
    have hunfinished : (t.runner.step (.turn t.connection t.now t.turnLimit)).isFinished = false :=
      hgoing.1
    rw [Timeline.turn, hunfinished]
    show { t with
      runner := r, timers := others ++ (r.meter.schedule.due?.map (·, Alarm.runner)).toList } = _
    rw [hdue]
    rfl
  rw [hturn]
  refine ⟨k, ⟨hturned.run, hturned.held, fun moment request outcome hmem ↦ ?_,
    fun timer hmem ↦ ?_⟩, hdone, due, hdue, List.mem_append_right _ List.mem_cons_self⟩
  · rcases List.mem_append.1 hmem with hmem | hmem
    · exact h.fetches moment request outcome (List.mem_of_mem_filter hmem)
    · exact absurd hmem (by simp)
  · rcases List.mem_append.1 hmem with hmem | hmem
    · exact h.later timer (List.mem_of_mem_filter hmem)
    · rw [List.mem_singleton.1 hmem]
      exact hdone.2 due hdue

theorem fetched (h : Plays r₀ s connections begun unbegun t) {request : Request}
    (hbegun : request ∈ begun) (outcome : Except Fault Snapshot) :
    Plays r₀ s connections begun unbegun (t.fetched request outcome) :=
  h.around rfl (List.contains_iff_mem.2 (List.mem_append_left _ hbegun)) (by simp) (by simp)

theorem begin (h : Plays r₀ s connections begun (unbegun + 1) t) {request : Request}
    (hbegun : request ∈ begun) : Plays r₀ s connections begun unbegun (t.begin request) := by
  obtain ⟨acts, htimed, hopen, hconnections, hmoments⟩ := h.run
  have hbegins : Plays r₀ s connections begun unbegun { t with begun := t.begun ++ [t.now] } := by
    refine ⟨⟨acts, htimed, hopen, hconnections, ?_⟩, h.held, h.fetches, h.later⟩
    rw [hmoments, Nat.add_right_comm, List.replicate_succ, List.append_cons]
  rw [Timeline.begin]
  dsimp only
  split
  · exact hbegins
  · exact hbegins.fetched hbegun _
  · rename_i delay hpositive hdelay
    refine ⟨hbegins.run, hbegins.held, fun moment request' outcome hmem ↦ ?_, fun timer hmem ↦ ?_⟩
    · rcases List.mem_append.1 hmem with hmem | hmem
      · exact h.fetches moment request' outcome hmem
      · obtain ⟨-, rfl, -⟩ : moment = _ ∧ request' = request ∧ _ := by simpa using hmem
        exact hbegun
    · rcases List.mem_append.1 hmem with hmem | hmem
      · exact h.later timer hmem
      · rw [List.mem_singleton.1 hmem]
        have hpos : 0 < delay := Nat.pos_of_ne_zero hpositive
        exact Nat.lt_add_of_pos_right hpos

end Plays

/-! ### One moment -/

/-- What a timeline leaves alone: the state of the connection and the limit of a turn. -/
def surroundings (t : Timeline) : Connection × Nat := (t.connection, t.turnLimit)

/-- A timeline that has played so far goes on to play up to `t'`, and all requests that it hands out
meanwhile it hands out under its present connection. -/
def Leads (r₀ : Runner) (s : Nat) (connections : List Connection) (begun : List Request)
    (t t' : Timeline) : Prop :=
  ∃ k more, Plays r₀ s (connections ++ List.replicate k t.connection) (begun ++ more) 0 t' ∧
    t'.surroundings = t.surroundings ∧ (t.Armed → t'.Armed)

section Leads

variable {t'' : Timeline}

theorem Leads.trans (h : Leads r₀ s connections begun t t')
    (h' : ∀ {connections more}, Plays r₀ s connections (begun ++ more) 0 t' →
      Leads r₀ s connections (begun ++ more) t' t'') : Leads r₀ s connections begun t t'' := by
  obtain ⟨k, more, hplays, hsame, harmed⟩ := h
  obtain ⟨k', more', hplays', hsame', harmed'⟩ := h' hplays
  have hconnection : t'.connection = t.connection := congrArg Prod.fst hsame
  rw [hconnection, List.append_assoc, List.replicate_append_replicate, List.append_assoc]
    at hplays'
  exact ⟨k + k', more ++ more', hplays', hsame'.trans hsame, harmed' ∘ harmed⟩

/-- Once armed, the runner stays so. -/
theorem Leads.armed (h : Leads r₀ s connections begun t t')
    (h' : ∀ {connections more}, Plays r₀ s connections (begun ++ more) 0 t' →
      Leads r₀ s connections (begun ++ more) t' t'') (harmed : t'.Armed) : t''.Armed := by
  obtain ⟨_, _, hplays, -⟩ := h
  obtain ⟨_, _, -, -, hkept⟩ := h' hplays
  exact hkept harmed

end Leads

theorem fetched_frame (t : Timeline) (request : Request) (outcome : Except Fault Snapshot) :
    (t.fetched request outcome).runner.launched = t.runner.launched ∧
      (t.Armed → (t.fetched request outcome).Armed) := by
  have hturn : Move.isTurn (.fetched request t.stamp outcome) = false := rfl
  obtain ⟨_, _, _, _, hstep⟩ := t.runner.step_eq_of_not_turn hturn
  rw [Timeline.fetched, hstep]
  exact ⟨rfl, id⟩

theorem begin_frame (t : Timeline) (request : Request) :
    (t.begin request).surroundings = t.surroundings ∧
      (t.begin request).runner.launched = t.runner.launched ∧
      (t.Armed → (t.begin request).Armed) := by
  rw [begin]
  dsimp only
  split
  · exact ⟨rfl, rfl, id⟩
  · exact ⟨rfl, fetched_frame { t with begun := t.begun ++ [t.now] } request _⟩
  · refine ⟨rfl, rfl, ?_⟩
    rintro ⟨hdone, due, hdue, hmem⟩
    exact ⟨hdone, due, hdue, List.mem_append_left _ hmem⟩

theorem foldl_begin_frame (requests : List Request) (t : Timeline) :
    (requests.foldl begin t).surroundings = t.surroundings ∧
      (requests.foldl begin t).runner.launched = t.runner.launched ∧
      (t.Armed → (requests.foldl begin t).Armed) := by
  induction requests generalizing t with
  | nil => exact ⟨rfl, rfl, id⟩
  | cons request rest ih =>
    obtain ⟨hsame, hlaunched, harmed⟩ := t.begin_frame request
    obtain ⟨hsame', hlaunched', harmed'⟩ := ih (t.begin request)
    exact ⟨hsame'.trans hsame, hlaunched'.trans hlaunched, harmed' ∘ harmed⟩

theorem launched_beginAll (t : Timeline) : t.beginAll.runner.launched = [] :=
  (foldl_begin_frame _ _).2.1

theorem launched_round (h : t.runner.launched = []) : t.round.runner.launched = [] := by
  rw [round]
  split
  · exact launched_beginAll _
  · exact h

theorem launched_turns (n : Nat) (h : t.runner.launched = []) :
    (t.turns n).runner.launched = [] := by
  induction n generalizing t with
  | zero => exact h
  | succ n ih => exact ih (launched_round h)

theorem now_advance {deadline : Nat} (h : t.now ≤ deadline) :
    (t.advance deadline).now = deadline := by
  fun_induction Timeline.advance t deadline with
  | case1 t moment _ hnext ih =>
    exact ih (by rw [now_fireAt]; exact hnext.2)
  | case2 => exact Nat.max_eq_right h
  | case3 => exact Nat.max_eq_right h

theorem now_giveWay (t : Timeline) : t.giveWay.now = t.now := by
  rw [giveWay]
  split <;> simp

namespace Plays

theorem foldl_begin {requests : List Request}
    (h : Plays r₀ s connections begun requests.length t) (hbegun : ∀ q ∈ requests, q ∈ begun) :
    Plays r₀ s connections begun 0 (requests.foldl Timeline.begin t) := by
  induction requests generalizing t with
  | nil => exact h
  | cons request rest ih =>
    exact ih (h.begin (hbegun request List.mem_cons_self)) fun q hq ↦
      hbegun q (List.mem_cons_of_mem _ hq)

theorem refl (h : Plays r₀ s connections begun 0 t) : Leads r₀ s connections begun t t := by
  refine ⟨0, [], ?_, rfl, id⟩
  rwa [List.replicate_zero, List.append_nil, List.append_nil]

theorem beginAll (h : Plays r₀ s connections begun 0 t) :
    Leads r₀ s connections begun t t.beginAll := by
  let launched := t.runner.launched
  have hhanded : Plays r₀ s connections (begun ++ launched) launched.length
      { t with runner := { t.runner with launched := [] } } := by
    obtain ⟨acts, htimed, hopen, hconnections, hmoments⟩ := h.run
    refine ⟨⟨acts, ?_, hopen, hconnections, ?_⟩, h.held, fun moment request outcome hmem ↦
      List.mem_append_left _ (h.fetches moment request outcome hmem), h.later⟩
    · rw [withLaunched, List.append_nil]
      exact htimed
    · rw [hmoments, Nat.zero_add]
      rfl
  obtain ⟨hsame, -, harmed⟩ :=
    foldl_begin_frame launched { t with runner := { t.runner with launched := [] } }
  refine ⟨0, launched, ?_, hsame, harmed⟩
  rw [List.replicate_zero, List.append_nil]
  exact hhanded.foldl_begin fun q hq ↦ List.mem_append_right _ hq

section

variable (hstart : Starts r₀ s)

include hstart

theorem turn_leads (h : Plays r₀ s connections begun 0 t) :
    Leads r₀ s connections begun t t.turn ∧ t.turn.Armed := by
  obtain ⟨k, hplays, harmed⟩ := h.turn hstart
  refine ⟨⟨k, [], ?_, rfl, fun _ ↦ harmed⟩, harmed⟩
  rwa [List.append_nil]

/-- A runner that has something to do is armed after its turn. -/
theorem round (h : Plays r₀ s connections begun 0 t) :
    Leads r₀ s connections begun t t.round ∧ (t.runner.isAwaited = true → t.round.Armed) := by
  rw [Timeline.round]
  split
  · obtain ⟨hleads, harmed⟩ := h.turn_leads hstart
    refine ⟨hleads.trans beginAll, fun _ ↦ ?_⟩
    exact (foldl_begin_frame _ { t.turn with
      runner := { t.turn.runner with launched := [] } }).2.2 harmed
  · rename_i hidle
    exact ⟨h.refl, fun hawaited ↦ absurd hawaited hidle⟩

theorem turns (h : Plays r₀ s connections begun 0 t) (n : Nat) :
    Leads r₀ s connections begun t (t.turns n) := by
  induction n generalizing t connections begun with
  | zero => exact h.refl
  | succ n ih => exact (h.round hstart).1.trans ih

theorem settle (h : Plays r₀ s connections begun 0 t) :
    Leads r₀ s connections begun t t.settle ∧ (t.runner.isAwaited = true → t.settle.Armed) := by
  obtain ⟨hleads, harmed⟩ := h.round hstart
  exact ⟨h.turns hstart _, fun hawaited ↦
    hleads.armed (fun hplays ↦ hplays.turns hstart (t.runner.waiting + 2)) (harmed hawaited)⟩

theorem giveWay (h : Plays r₀ s connections begun 0 t) :
    Leads r₀ s connections begun t t.giveWay ∧
      (t.runner.isAwaited = true → t.giveWay.Armed) := by
  obtain ⟨hleads, harmed⟩ := h.round hstart
  rw [Timeline.giveWay]
  split
  · exact ⟨hleads, harmed⟩
  · exact ⟨hleads.trans fun hplays ↦ (hplays.round hstart).1, fun hawaited ↦
      hleads.armed (fun hplays ↦ (hplays.round hstart).1) (harmed hawaited)⟩

/-- Timers fire: the runner's own gives it a turn, the others bring answers. -/
theorem foldl_fire {alarms : List Alarm} (h : Plays r₀ s connections begun 0 t)
    (hbegun : ∀ request outcome, Alarm.fetch request outcome ∈ alarms → request ∈ begun) :
    Leads r₀ s connections begun t (alarms.foldl fire t) ∧
      (Alarm.runner ∈ alarms → (alarms.foldl fire t).Armed) := by
  induction alarms generalizing t connections begun with
  | nil => exact ⟨h.refl, fun hmem ↦ absurd hmem (by simp)⟩
  | cons alarm rest ih =>
    have hfired : Leads r₀ s connections begun t (t.fire alarm) ∧
        (alarm = .runner → (t.fire alarm).Armed) := by
      cases alarm with
      | runner => exact ⟨(h.turn_leads hstart).1, fun _ ↦ (h.turn_leads hstart).2⟩
      | fetch request outcome =>
        have hplays := h.fetched (hbegun request outcome List.mem_cons_self) outcome
        refine ⟨⟨0, [], ?_, rfl, (t.fetched_frame request outcome).2⟩, by simp⟩
        rwa [List.replicate_zero, List.append_nil, List.append_nil]
    have hrest : ∀ {connections more}, Plays r₀ s connections (begun ++ more) 0 (t.fire alarm) →
        Leads r₀ s connections (begun ++ more) (t.fire alarm) (rest.foldl fire (t.fire alarm)) ∧
          (Alarm.runner ∈ rest → (rest.foldl fire (t.fire alarm)).Armed) :=
      fun hplays ↦ ih hplays fun request outcome hmem ↦
        List.mem_append_left _ (hbegun request outcome (List.mem_cons_of_mem _ hmem))
    obtain ⟨hleads, hrunner⟩ := hfired
    refine ⟨hleads.trans fun hplays ↦ (hrest hplays).1, fun hmem ↦ ?_⟩
    rcases List.mem_cons.1 hmem with rfl | hmem
    · exact hleads.armed (fun hplays ↦ (hrest hplays).1) (hrunner rfl)
    · obtain ⟨_, _, hplays, -⟩ := hleads
      exact (hrest hplays).2 hmem

/-- The clock moves on to the next timer, and what is due then happens. -/
theorem fireAt (h : Plays r₀ s connections begun 0 t) (hlaunched : t.runner.launched = [])
    (harmed : t.Armed) {moment : Nat} (hmoment : t.nextMoment? = some moment) :
    Leads r₀ s connections begun t (t.fireAt moment) ∧ (t.fireAt moment).Armed ∧
      (t.fireAt moment).runner.launched = [] ∧ t.now < moment := by
  obtain ⟨hdone, due, hdue, htimer⟩ := harmed
  obtain ⟨hmem, hleast⟩ := List.min?_eq_some_iff.1 hmoment
  have hlater : t.now < moment := by
    obtain ⟨timer, htimer, rfl⟩ := List.mem_map.1 hmem
    exact h.later timer htimer
  have hmomentDue : moment ≤ due := hleast due (List.mem_map.2 ⟨_, htimer, rfl⟩)
  let dueNow := t.timers.filter (·.1 == moment)
  let t' : Timeline := { t with now := moment, timers := t.timers.filter (·.1 != moment) }
  have hwaited : Plays r₀ s connections begun 0 t' := by
    obtain ⟨acts, htimed, hopen, hconnections, hmoments⟩ := h.run
    refine ⟨⟨acts, ?_, hopen, hconnections, ?_⟩, h.held, fun moment request outcome hmem ↦
      h.fetches moment request outcome (List.mem_of_mem_filter hmem), fun timer hmem ↦ ?_⟩
    · refine htimed.wait hlater.le ⟨hdone.1, fun due' hdue' ↦ ?_⟩
      obtain rfl : due = due' := Option.some.inj (hdue.symm.trans hdue')
      exact hmomentDue
    · rw [hmoments, hlaunched]
      rfl
    · have hne : timer.1 ≠ moment := by simpa using List.of_mem_filter hmem
      have hle := hleast timer.1 (List.mem_map_of_mem (List.mem_of_mem_filter hmem))
      exact lt_of_le_of_ne hle hne.symm
  have hbegun : ∀ request outcome, Alarm.fetch request outcome ∈ dueNow.map (·.2) →
      request ∈ begun := by
    intro request outcome hmem
    obtain ⟨timer, htimer, halarm⟩ := List.mem_map.1 hmem
    refine h.fetches timer.1 request outcome ?_
    rw [← halarm]
    exact List.mem_of_mem_filter htimer
  obtain ⟨hfired, hrunner⟩ := hwaited.foldl_fire hstart hbegun
  have hsettled : ∀ {connections more}, Plays r₀ s connections (begun ++ more) 0
      ((dueNow.map (·.2)).foldl fire t') → Leads r₀ s connections (begun ++ more)
      ((dueNow.map (·.2)).foldl fire t') (t.fireAt moment) :=
    fun hplays ↦ hplays.beginAll.trans fun hplays ↦ (hplays.settle hstart).1
  obtain ⟨k, more, hplays, hsame, hkept⟩ := hfired.trans hsettled
  have harmed : (t.fireAt moment).Armed := by
    rcases hmomentDue.eq_or_lt with rfl | hlt
    · -- the runner's own timer fires
      have hmem : Alarm.runner ∈ dueNow.map (·.2) :=
        List.mem_map.2 ⟨_, List.mem_filter.2 ⟨htimer, beq_self_eq_true _⟩, rfl⟩
      exact hfired.armed hsettled (hrunner hmem)
    · refine hkept ⟨⟨hdone.1, fun due' hdue' ↦ ?_⟩, due, hdue, ?_⟩
      · obtain rfl : due = due' := Option.some.inj (hdue.symm.trans hdue')
        exact hlt
      · exact List.mem_filter.2 ⟨htimer, by simpa using hlt.ne'⟩
  exact ⟨⟨k, more, hplays, hsame, fun _ ↦ harmed⟩, harmed,
    launched_turns _ (launched_beginAll _), hlater⟩

omit hstart in
/-- The clock can be set to any moment before that of the next timer. -/
theorem idle {deadline : Nat} (h : Plays r₀ s connections begun 0 t)
    (hlaunched : t.runner.launched = []) (harmed : t.Armed) (hle : t.now ≤ deadline)
    (hlast : ∀ timer ∈ t.timers, deadline < timer.1) :
    Leads r₀ s connections begun t { t with now := deadline } ∧
      Armed { t with now := deadline } := by
  obtain ⟨hdone, due, hdue, htimer⟩ := harmed
  have hdueLast : ∀ due' ∈ t.runner.meter.schedule.due?, deadline < due' := by
    intro due' hdue'
    obtain rfl : due = due' := Option.some.inj (hdue.symm.trans hdue')
    exact hlast _ htimer
  have harmed' : Armed { t with now := deadline } := ⟨⟨hdone.1, hdueLast⟩, due, hdue, htimer⟩
  obtain ⟨acts, htimed, hopen, hconnections, hmoments⟩ := h.run
  refine ⟨⟨0, [], ⟨⟨acts, ?_, hopen, ?_, ?_⟩, h.held, ?_, hlast⟩, rfl, fun _ ↦ harmed'⟩, harmed'⟩
  · rw [List.append_nil]
    exact htimed.wait hle ⟨hdone.1, fun due' hdue' ↦ (hdueLast due' hdue').le⟩
  · rw [hconnections, List.replicate_zero, List.append_nil]
  · rw [hmoments, hlaunched]
    rfl
  · rw [List.append_nil]
    exact h.fetches

/-- The clock runs up to a deadline. -/
theorem advance {deadline : Nat} (h : Plays r₀ s connections begun 0 t)
    (hlaunched : t.runner.launched = []) (harmed : t.Armed) (hle : t.now ≤ deadline) :
    Leads r₀ s connections begun t (t.advance deadline) ∧ (t.advance deadline).Armed ∧
      (t.advance deadline).runner.launched = [] := by
  fun_induction Timeline.advance t deadline generalizing connections begun with
  | case1 t moment hmoment hnext ih =>
    obtain ⟨hleads, harmed', hlaunched', -⟩ := h.fireAt hstart hlaunched harmed hmoment
    have hle' : (t.fireAt moment).now ≤ deadline := by
      rw [now_fireAt]
      exact hnext.2
    refine ⟨hleads.trans fun hplays ↦ (ih hplays hlaunched' harmed' hle').1, ?_⟩
    obtain ⟨_, _, hplays, -⟩ := hleads
    exact (ih hplays hlaunched' harmed' hle').2
  | case2 t moment hmoment hlast =>
    obtain ⟨-, -, -, hlater⟩ := h.fireAt hstart hlaunched harmed hmoment
    have hbeyond : deadline < moment := Nat.lt_of_not_le fun hle ↦ hlast ⟨hlater, hle⟩
    have hidle := h.idle hlaunched harmed hle fun timer hmem ↦ hbeyond.trans_le <|
      (List.min?_eq_some_iff.1 hmoment).2 timer.1 (List.mem_map_of_mem hmem)
    rw [Nat.max_eq_right hle]
    exact ⟨hidle.1, hidle.2, hlaunched⟩
  | case3 t hnone =>
    have htimers : t.timers = [] := List.map_eq_nil_iff.1 (List.min?_eq_none_iff.1 hnone)
    have hidle := h.idle hlaunched harmed hle (by simp [htimers])
    rw [Nat.max_eq_right hle]
    exact ⟨hidle.1, hidle.2, hlaunched⟩

end

/-- What has been played by a runner that leaves nothing to be done. -/
theorem played (h : Plays r₀ s connections begun 0 t) (hstart : Starts r₀ s)
    (hlaunched : t.runner.launched = []) (hwaiting : t.runner.meter.schedule.waiting = []) :
    ∃ acts, Timed r₀ s acts t.now (t.runner.withLaunched begun) ∧ StaysOpen acts ∧
      OnBeat r₀ s acts t.now (t.runner.withLaunched begun) ∧
      (ticks r₀ acts).length = connections.length ∧
      (handedOut acts).map requested = (List.range connections.length).map (beat r₀ s) ∧
      (handedOut acts).map (·.2.1) = connections ∧ (launches r₀ acts).map (·.1) = t.begun := by
  obtain ⟨acts, htimed, hopen, hconnections, hmoments⟩ := h.run
  have hbeat := htimed.onBeat hstart.unfinished hstart.schedule hopen
  have hrequested : (handedOut acts).map requested = ticks r₀ acts := by
    have hnone : (t.runner.withLaunched begun).meter.schedule.waiting = [] := hwaiting
    rw [← hbeat.handed, hnone, List.map_nil, List.append_nil]
  have hlength : (ticks r₀ acts).length = connections.length := by
    rw [← hconnections, ← hrequested, List.length_map, List.length_map]
  refine ⟨acts, htimed, hopen, hbeat, hlength, ?_, hconnections, ?_⟩
  · rw [hrequested, hbeat.ticks_eq, hlength]
  · rw [hmoments, hlaunched]
    exact List.append_nil _

/-- Where the runner is armed, it has had all ticks up to the moment, and no more. -/
theorem reached (h : Plays r₀ s connections begun 0 t) (hstart : Starts r₀ s)
    (hlaunched : t.runner.launched = []) (harmed : t.Armed) :
    (∀ k < connections.length, (beat r₀ s k).1 ≤ t.now) ∧
      t.now < (beat r₀ s connections.length).1 := by
  obtain ⟨acts, -, -, hbeat, hlength, -⟩ := h.played hstart hlaunched harmed.1.1
  rw [← hlength]
  refine ⟨hbeat.reached, harmed.1.2 _ ?_⟩
  have hdue : (t.runner.withLaunched begun).meter.schedule.due? =
      some (beat r₀ s (ticks r₀ acts).length).1 := by
    rw [hbeat.schedule]
    rfl
  exact hdue

end Plays

end Timeline

end MediaTelemetry
