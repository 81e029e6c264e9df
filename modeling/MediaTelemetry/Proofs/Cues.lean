import MediaTelemetry.Proofs.Playing

/-!
# Timelines that follow cues

While a runner goes on, time passes, its connection changes, and statuses are expected of it
(`Timeline.Cue`). Between two of these cues a timeline is `Timeline.OnStage`. Two timelines that
follow the same cues and differ in the answers to their fetches are on the `Timeline.SameBeat`: they
have handed out requests at the same moments, under the same connections.

`Runner.ticks_on_beat` is the result: ticks and fetches of timed runs, and of timelines.
-/

namespace MediaTelemetry

namespace Timeline

open Runner

variable {r₀ : Runner} {s : Nat} {connections : List Connection} {t t' : Timeline}

/-! ### Cues -/

/-- What can happen from outside while a runner goes on. -/
inductive Cue where
  | sleep (millis : Nat)
  | connect (connection : Connection)
  | expect (status : Status)

/-- Follows a cue. -/
def cue (t : Timeline) : Cue → Timeline
  | .sleep millis => t.sleep millis
  | .connect connection => { t with connection }
  | .expect status => { t with runner := t.runner.step (.send (.expect status)) }

/-- Follows cues, one after another. -/
def follow (t : Timeline) (cues : List Cue) : Timeline := cues.foldl cue t

/-- A timeline on which a runner is about to begin. -/
def opening (r₀ : Runner) (s : Nat) (connection : Connection) (turnLimit : Nat)
    (answers : Nat → Answer) (stamp : Nat) : Timeline :=
  { runner := r₀, connection, turnLimit, answers, stamp, now := s }

/-- The time that passes with a cue. -/
def Cue.millis : Cue → Nat
  | .sleep millis => millis
  | _ => 0

theorem now_cue (t : Timeline) (c : Cue) : (t.cue c).now = t.now + c.millis := by
  cases c with
  | connect connection => rfl
  | expect status => rfl
  | sleep millis =>
    show (t.sleep millis).now = t.now + millis
    rw [sleep]
    split
    · rename_i hzero
      subst hzero
      split
      · rfl
      · exact t.now_giveWay
    · refine now_advance ?_
      rw [now_settle]
      exact Nat.le_add_right _ _

theorem now_follow (t : Timeline) (cues : List Cue) :
    (t.follow cues).now = t.now + (cues.map Cue.millis).sum := by
  induction cues generalizing t with
  | nil => rfl
  | cons c rest ih =>
    show ((t.cue c).follow rest).now = _
    rw [ih, now_cue, List.map_cons, List.sum_cons, Nat.add_assoc]

/-- A timeline between two cues: its runner has not begun yet, or is armed. -/
structure OnStage (r₀ : Runner) (s : Nat) (connections : List Connection) (t : Timeline) :
    Prop where
  plays : ∃ begun, Plays r₀ s connections begun 0 t
  launched : t.runner.launched = []
  waiting : t.runner.meter.schedule.waiting = []
  awaits : t.runner.stage = .fresh ∨ t.Armed

/-- After a time the timeline is `t'`, with the runner armed, and meanwhile requests were handed out
under one connection only. -/
def ArmsAfter (r₀ : Runner) (s millis : Nat) (t t' : Timeline) : Prop :=
  ∀ connections, OnStage r₀ s connections t →
    ∃ k, OnStage r₀ s (connections ++ List.replicate k t.connection) t' ∧ t'.Armed ∧
      t'.surroundings = t.surroundings ∧ t'.now = t.now + millis

namespace OnStage

/-- What happens at the moment arms the runner. -/
theorem of_leads (h : OnStage r₀ s connections t)
    (hleads : ∀ {begun}, Plays r₀ s connections begun 0 t →
      Leads r₀ s connections begun t t' ∧ (t.runner.isAwaited = true → t'.Armed))
    (hlaunched : t'.runner.launched = []) :
    ∃ k, OnStage r₀ s (connections ++ List.replicate k t.connection) t' ∧ t'.Armed ∧
      t'.surroundings = t.surroundings := by
  obtain ⟨begun, hplays⟩ := h.plays
  obtain ⟨⟨k, more, hplays', hsame, hkept⟩, hawaited⟩ := hleads hplays
  have harmed : t'.Armed := by
    rcases h.awaits with hfresh | harmed
    · exact hawaited (by rw [isAwaited, hfresh])
    · exact hkept harmed
  exact ⟨k, ⟨⟨_, hplays'⟩, hlaunched, harmed.1.1, .inr harmed⟩, harmed, hsame⟩

/-- The state of the connection can change, and waits can be counted anew. -/
theorem withConnection (h : OnStage r₀ s connections t) (connection : Connection) (waits : Nat) :
    OnStage r₀ s connections { t with connection, waits } := by
  obtain ⟨_, hplays⟩ := h.plays
  exact ⟨⟨_, hplays.run, hplays.held, hplays.fetches, hplays.later⟩, h.launched, h.waiting,
    h.awaits⟩

/-- A status can be expected of the runner. -/
theorem expect (h : OnStage r₀ s connections t) (status : Status) :
    OnStage r₀ s connections (t.cue (.expect status)) := by
  obtain ⟨_, hplays⟩ := h.plays
  have hturn : Move.isTurn (.send (.expect status)) = false := rfl
  obtain ⟨_, _, _, _, hstep⟩ := t.runner.step_eq_of_not_turn hturn
  have hexpected := hplays.around hturn rfl (by simp) (by simp)
  rw [hstep] at hexpected
  rw [Timeline.cue, hstep]
  exact ⟨⟨_, hexpected⟩, h.launched, h.waiting, h.awaits⟩

section

variable (hstart : Starts r₀ s)

include hstart

theorem armsAfter_giveWay (t : Timeline) : ArmsAfter r₀ s 0 t t.giveWay := by
  intro connections h
  have hlaunched : t.giveWay.runner.launched = [] := by
    rw [giveWay]
    split
    · exact launched_round h.launched
    · exact launched_round (launched_round h.launched)
  obtain ⟨k, honStage, harmed, hsame⟩ :=
    h.of_leads (fun hplays ↦ hplays.giveWay hstart) hlaunched
  exact ⟨k, honStage, harmed, hsame, t.now_giveWay⟩

theorem armsAfter_advance (t : Timeline) (millis : Nat) :
    ArmsAfter r₀ s millis t (t.settle.advance (t.now + millis)) := by
  intro connections h
  have hsettled : t.settle.runner.launched = [] := launched_turns _ h.launched
  have hle : t.settle.now ≤ t.now + millis := by
    rw [now_settle]
    exact Nat.le_add_right _ _
  obtain ⟨k, ⟨⟨begun, hplays⟩, -, -, -⟩, harmed, hsame⟩ :=
    h.of_leads (fun hplays ↦ hplays.settle hstart) hsettled
  obtain ⟨⟨k', more, hplays', hsame', -⟩, harmed', hlaunched⟩ :=
    hplays.advance hstart hsettled harmed hle
  have hconnection : t.settle.connection = t.connection := congrArg Prod.fst hsame
  rw [hconnection, List.append_assoc, List.replicate_append_replicate] at hplays'
  exact ⟨k + k', ⟨⟨_, hplays'⟩, hlaunched, harmed'.1.1, .inr harmed'⟩, harmed',
    hsame'.trans hsame, now_advance hle⟩

/-- Two timelines that are armed at the same moment have had as many ticks. -/
theorem length_eq {connections' : List Connection} (h : OnStage r₀ s connections t)
    (h' : OnStage r₀ s connections' t') (harmed : t.Armed) (harmed' : t'.Armed)
    (hnow : t.now = t'.now) : connections.length = connections'.length := by
  obtain ⟨_, hplays⟩ := h.plays
  obtain ⟨_, hplays'⟩ := h'.plays
  obtain ⟨hreached, hahead⟩ := hplays.reached hstart h.launched harmed
  obtain ⟨hreached', hahead'⟩ := hplays'.reached hstart h'.launched harmed'
  rcases Nat.lt_trichotomy connections.length connections'.length with hlt | heq | hlt
  · have := hreached' _ hlt
    omega
  · exact heq
  · have := hreached _ hlt
    omega

end

/-- The connections under which requests were handed out tell which fetches were begun, and when,
and what the schedule is now. -/
theorem begun_eq (hstart : Starts r₀ s) (h : OnStage r₀ s connections t)
    (h' : OnStage r₀ s connections t') :
    t.begun = t'.begun ∧ t.runner.meter.schedule = t'.runner.meter.schedule := by
  obtain ⟨_, hplays⟩ := h.plays
  obtain ⟨_, hplays'⟩ := h'.plays
  obtain ⟨acts, -, -, hbeat, hlength, hrequested, hconnections, hbegun⟩ :=
    hplays.played hstart h.launched h.waiting
  obtain ⟨acts', -, -, hbeat', hlength', hrequested', hconnections', hbegun'⟩ :=
    hplays'.played hstart h'.launched h'.waiting
  have hhanded : handedOut acts = handedOut acts' := by
    have hzip : ∀ handed : List (Nat × Connection × Request),
        handed.map (fun d ↦ (requested d, d.2.1)) =
          (handed.map requested).zip (handed.map (·.2.1)) := fun _ ↦ (List.zip_map' ..).symm
    have hinjective : Function.Injective fun d : Nat × Connection × Request ↦
        (requested d, d.2.1) := by
      rintro ⟨now, connection, request⟩ ⟨now', connection', request'⟩ heq
      obtain ⟨⟨rfl, rfl⟩, rfl⟩ :
          (now = now' ∧ request = request') ∧ connection = connection' := by
        simpa [requested] using heq
      rfl
    refine List.map_injective_iff.2 hinjective ?_
    rw [hzip, hzip, hrequested, hrequested', hconnections, hconnections']
  refine ⟨?_, ?_⟩
  · rw [← hbegun, ← hbegun', hbeat.launched, hbeat'.launched, hhanded]
  · have hschedule := hbeat.schedule
    have hschedule' := hbeat'.schedule
    rw [hlength] at hschedule
    rw [hlength'] at hschedule'
    have hwaiting : t.runner.meter.schedule.waiting = [] := h.waiting
    calc t.runner.meter.schedule = _ := hschedule
      _ = _ := by rw [withLaunched, withLaunched, hwaiting, h'.waiting]
      _ = t'.runner.meter.schedule := hschedule'.symm

end OnStage

/-- Two timelines with the same limit of a turn stand at the same moment, and have handed out
requests under the same connections. -/
structure SameBeat (r₀ : Runner) (s : Nat) (t t' : Timeline) : Prop where
  onStage : ∃ connections, OnStage r₀ s connections t ∧ OnStage r₀ s connections t'
  now : t.now = t'.now
  surroundings : t.surroundings = t'.surroundings
  waits : t.waits = t'.waits

namespace SameBeat

variable (hstart : Starts r₀ s)

include hstart

/-- Where both are armed at the same moment, they have handed out as many requests. -/
theorem of_armsAfter {u u' : Timeline} {millis waits : Nat} (h : SameBeat r₀ s t t')
    (hu : ArmsAfter r₀ s millis t u) (hu' : ArmsAfter r₀ s millis t' u') :
    SameBeat r₀ s { u with waits } { u' with waits } := by
  obtain ⟨connections, honStage, honStage'⟩ := h.onStage
  obtain ⟨k, hon, harmed, hsame, hnow⟩ := hu connections honStage
  obtain ⟨k', hon', harmed', hsame', hnow'⟩ := hu' connections honStage'
  have hmoment : u.now = u'.now := by rw [hnow, hnow', h.now]
  have hconnection : t.connection = t'.connection := congrArg Prod.fst h.surroundings
  have hlength := hon.length_eq hstart hon' harmed harmed' hmoment
  obtain rfl : k = k' := by simpa using hlength
  rw [← hconnection] at hon'
  exact ⟨⟨_, hon.withConnection u.connection waits, hon'.withConnection u'.connection waits⟩,
    hmoment, hsame.trans (h.surroundings.trans hsame'.symm), rfl⟩

theorem cue (h : SameBeat r₀ s t t') (c : Cue) : SameBeat r₀ s (t.cue c) (t'.cue c) := by
  obtain ⟨connections, honStage, honStage'⟩ := h.onStage
  have hlimit : t.turnLimit = t'.turnLimit := congrArg Prod.snd h.surroundings
  cases c with
  | connect connection =>
    exact ⟨⟨connections, honStage.withConnection connection t.waits,
      honStage'.withConnection connection t'.waits⟩, h.now, Prod.ext rfl hlimit, h.waits⟩
  | expect status =>
    exact ⟨⟨connections, honStage.expect status, honStage'.expect status⟩, h.now,
      h.surroundings, h.waits⟩
  | sleep millis =>
    have hyields : (t.waits < t'.turnLimit) = (t.waits < t.turnLimit) := by rw [hlimit]
    rw [Timeline.cue, Timeline.cue, sleep, sleep, ← h.waits]
    simp only [hyields]
    split
    · split
      · exact ⟨⟨connections, honStage.withConnection t.connection _,
          honStage'.withConnection t'.connection _⟩, h.now, h.surroundings, rfl⟩
      · exact h.of_armsAfter hstart (OnStage.armsAfter_giveWay hstart t)
          (OnStage.armsAfter_giveWay hstart t')
    · exact h.of_armsAfter hstart (OnStage.armsAfter_advance hstart t millis)
        (OnStage.armsAfter_advance hstart t' millis)

theorem follow (cues : List Cue) (h : SameBeat r₀ s t t') :
    SameBeat r₀ s (t.follow cues) (t'.follow cues) := by
  induction cues generalizing t t' with
  | nil => exact h
  | cons c rest ih => exact ih (h.cue hstart c)

end SameBeat

theorem onStage_opening (hstart : Starts r₀ s) (hlaunched : r₀.launched = [])
    (hfresh : r₀.stage = .fresh) (hheld : r₀.IsHeld) (connection : Connection)
    (turnLimit : Nat) (answers : Nat → Answer) (stamp : Nat) :
    OnStage r₀ s [] (opening r₀ s connection turnLimit answers stamp) := by
  obtain ⟨_, _, hschedule⟩ := hstart.schedule
  rw [opening]
  refine ⟨⟨[], ⟨[], .start, by simp [StaysOpen], rfl, ?_⟩, hheld, by simp, by simp⟩, hlaunched, ?_,
    .inl hfresh⟩
  · rw [hlaunched]
    rfl
  · rw [hschedule]
    rfl

end Timeline

namespace Runner

open Timeline

/-- A runner for a meter that is started at the moment. -/
def started (m : Meter) (s : Nat) : Runner := { meter := m.step (.start s) }

theorem schedule_started {m : Meter} (hidle : m.isRunning = false) (s : Nat) :
    (started m s).meter.schedule =
      ⟨.running s [], m.schedule.generation + 1, m.schedule.nextNumber⟩ := by
  rw [started, Meter.step, Schedule.start_of_idle hidle]
  rfl

theorem starts_started {c : Settings} {d : Host} {monitor : Monitor} {m : Meter}
    (hm : Meter.new c d monitor = .ok m) {ops : List Meter.Op}
    (hidle : (m.run ops).isRunning = false) (s : Nat) :
    Starts (started (m.run ops) s) s ∧ (started (m.run ops) s).meter.settings = c := by
  have hsettings : (started (m.run ops) s).meter.settings = c := by
    show ((m.run ops).run [.start s]).settings = c
    rw [Meter.settings_run, Meter.settings_run, Meter.settings_of_new hm]
  refine ⟨⟨rfl, ⟨_, _, schedule_started hidle s⟩, ?_⟩, hsettings⟩
  rw [hsettings]
  exact (Meter.isUsable_of_new hm).interval

/-- **The ticks of a runner are on the beat.** Let a new meter be started at `s` after some
operations, and a runner work with it from then on. In every timed run until it is told to stop or
its handle is dropped:

* the tick `k` happens at `s + k * c.interval` exactly, and queues one request;
* the request is handed out at that moment, once, and a fetch is begun for it if the connection can
  be sampled then; no other fetches are begun;
* any two runs have the same ticks before any moment that they have reached, and begin the same
  fetches if the connection can be sampled at the same of these moments.

What timelines play are such runs, and the answers to fetches have no say in their ticks, nor in
when fetches are begun. -/
theorem ticks_on_beat {c : Settings} {d : Host} {monitor : Monitor} {m : Meter}
    (hm : Meter.new c d monitor = .ok m) {ops : List Meter.Op}
    (hidle : (m.run ops).isRunning = false) (s : Nat) :
    let r₀ := started (m.run ops) s
    let tick (k : Nat) : Nat × Request := (s + k * c.interval,
      ⟨(m.run ops).schedule.generation + 1, (m.run ops).schedule.nextNumber + k⟩)
    0 < c.interval ∧
      (∀ acts now r, Timed r₀ s acts now r → StaysOpen acts →
        ∃ n, ticks r₀ acts = (List.range n).map tick ∧ (∀ k < n, s + k * c.interval ≤ now) ∧
          (∀ k, s + k * c.interval < now → k < n) ∧
          (handedOut acts).map requested ++ r.meter.schedule.waiting.map (now, ·) =
            ticks r₀ acts ∧
          launches r₀ acts = (handedOut acts).filterMap sampled?) ∧
      (∀ acts now r acts' now' r', Timed r₀ s acts now r → StaysOpen acts →
        Timed r₀ s acts' now' r' → StaysOpen acts' → ∀ t ≤ now, t ≤ now' →
        (∀ d ∈ handedOut acts, ∀ d' ∈ handedOut acts', d.1 = d'.1 →
          d.2.1.canSample = d'.2.1.canSample) →
        (ticks r₀ acts).filter (·.1 < t) = (ticks r₀ acts').filter (·.1 < t) ∧
          (launches r₀ acts).filter (·.1 < t) = (launches r₀ acts').filter (·.1 < t)) ∧
      ∀ connection limit cues answers stamp,
        let t := (opening r₀ s connection limit answers stamp).follow cues
        t.now = s + (cues.map Cue.millis).sum ∧
          (∃ acts begun, Timed r₀ s acts t.now (t.runner.withLaunched begun) ∧ StaysOpen acts ∧
            (launches r₀ acts).map (·.1) = t.begun) ∧
          ∀ answers' stamp', 
            let t' := (opening r₀ s connection limit answers' stamp').follow cues
            t'.begun = t.begun ∧ t'.runner.meter.schedule = t.runner.meter.schedule := by
  intro r₀ tick
  obtain ⟨hstart, hsettings⟩ := starts_started hm hidle s
  have hbeat : beat r₀ s = tick := by
    funext k
    rw [beat, hsettings, schedule_started hidle]
  refine ⟨(Meter.isUsable_of_new hm).interval, fun acts now r htimed hopen ↦ ?_,
    fun acts now r acts' now' r' htimed hopen htimed' hopen' t ht ht' hconnection ↦ ?_,
    fun connection limit cues answers stamp ↦ ?_⟩
  · have honBeat := htimed.onBeat hstart.unfinished hstart.schedule hopen
    have hreached := honBeat.reached
    have hahead := honBeat.ahead
    refine ⟨_, hbeat ▸ honBeat.ticks_eq, ?_, fun k hk ↦ ?_, honBeat.handed, honBeat.launched⟩
    · rw [hbeat] at hreached
      exact hreached
    · rw [hbeat] at hahead
      by_contra hle
      have hmono : (ticks r₀ acts).length * c.interval ≤ k * c.interval :=
        Nat.mul_le_mul_right _ (Nat.not_lt.1 hle)
      have : now ≤ s + (ticks r₀ acts).length * c.interval := hahead
      omega
  · exact (htimed.onBeat hstart.unfinished hstart.schedule hopen).agree
      (htimed'.onBeat hstart.unfinished hstart.schedule hopen') hstart.interval ht ht' hconnection
  · have hheld : r₀.IsHeld := ⟨by simp [r₀, started], rfl⟩
    have honStage := onStage_opening hstart rfl rfl hheld connection limit
    have hsame : ∀ answers' stamp', SameBeat r₀ s
        ((opening r₀ s connection limit answers stamp).follow cues)
        ((opening r₀ s connection limit answers' stamp').follow cues) := fun answers' stamp' ↦
      SameBeat.follow hstart cues
        ⟨⟨[], honStage answers stamp, honStage answers' stamp'⟩, rfl, rfl, rfl⟩
    refine ⟨now_follow _ cues, ?_, fun answers' stamp' ↦ ?_⟩
    · obtain ⟨connections, honStage, -⟩ := (hsame answers stamp).onStage
      obtain ⟨begun, hplays⟩ := honStage.plays
      obtain ⟨acts, htimed, hopen, -, -, -, -, hbegun⟩ :=
        hplays.played hstart honStage.launched honStage.waiting
      exact ⟨acts, begun, htimed, hopen, hbegun⟩
    · obtain ⟨connections, honStage, honStage'⟩ := (hsame answers' stamp').onStage
      obtain ⟨hbegun, hschedule⟩ := honStage.begun_eq hstart honStage'
      exact ⟨hbegun.symm, hschedule.symm⟩

/-- A meter is started again. Its first fetch takes longer than the interval and then fails; when
the second tick comes, the connection is closed. With the two ticks, the first fetch is all that is
begun. And it makes no difference to a timeline of 20 s whether fetches fail at once or never
end. -/
theorem ticks_of_slow_fetch :
    let m : Meter := { settings := {}, host := {} }
    let r₀ := started (m.run [.start 0, .timeout 0, .stop]) 1000
    let acts : List (Nat × Act) := [(1000, .look 1000), (1000, .dispatch .connected ⟨2, 1⟩),
      (1000, .forward), (1000, .rest .waiting), (6000, .around (.send (.expect {}))),
      (6000, .look 6000), (6000, .dispatch .closed ⟨2, 2⟩), (6000, .take (.command (.expect {}))),
      (8000, .around (.fetched ⟨2, 1⟩ 0 (.error .connectionClosed)))]
    (∃ r, Timed r₀ 1000 acts 8000 r) ∧ ticks r₀ acts = [(1000, ⟨2, 1⟩), (6000, ⟨2, 2⟩)] ∧
      launches r₀ acts = (handedOut acts).filterMap sampled? ∧
      (handedOut acts).filterMap sampled? = [(1000, ⟨2, 1⟩)] ∧
      ((opening r₀ 1000 .connected 128 (fun _ ↦ ⟨some 0, .error .connectionClosed⟩) 0).follow
          [.sleep 20000]).begun =
        ((opening r₀ 1000 .connected 128 (fun _ ↦ ⟨none, .error .connectionClosed⟩) 0).follow
          [.sleep 20000]).begun := by
  intro m r₀ acts
  have hm : Meter.new {} {} = .ok m := rfl
  have hidle : (m.run [.start 0, .timeout 0, .stop]).isRunning = false := rfl
  -- the acts happen one after another
  have hlooked : Timed r₀ 1000 _ 1000 _ := Timed.start.snoc (a := .look 1000) rfl rfl
  have hlaunched := hlooked.snoc (a := .dispatch .connected ⟨2, 1⟩) ⟨rfl, rfl⟩ trivial
  have hforwarded := hlaunched.snoc (a := .forward) rfl trivial
  have hrested := hforwarded.snoc (a := .rest .waiting) ⟨⟨rfl, rfl⟩, by simp⟩ trivial
  have hwaited := hrested.wait (by decide : 1000 ≤ 6000)
    ⟨rfl, fun due hdue ↦ Nat.le_of_eq (Option.some.inj hdue)⟩
  have hsent := hwaited.snoc (a := .around (.send (.expect {}))) ⟨rfl, rfl⟩ trivial
  have hticked := hsent.snoc (a := .look 6000) rfl rfl
  have hskipped := hticked.snoc (a := .dispatch .closed ⟨2, 2⟩) ⟨rfl, rfl⟩ trivial
  have htaken := hskipped.snoc (a := .take (.command (.expect {}))) ⟨⟨rfl, rfl⟩, rfl⟩ trivial
  have hended := htaken.wait (by decide : 6000 ≤ 8000)
    ⟨rfl, fun due hdue ↦ (by decide : 8000 ≤ 11000).trans_eq (Option.some.inj hdue)⟩
  have hrun := hended.snoc (a := .around (.fetched ⟨2, 1⟩ 0 (.error .connectionClosed)))
    ⟨rfl, by decide⟩ trivial
  have hopen : StaysOpen acts := by simp [StaysOpen, acts, Act.ends]
  obtain ⟨-, hruns, -, hplays⟩ := ticks_on_beat hm hidle 1000
  obtain ⟨n, hticks, hreached, hmissed, -, hlaunches⟩ := hruns acts 8000 _ hrun hopen
  obtain rfl : n = 2 := by
    have hsecond := hmissed 1 (by decide)
    by_contra hne
    exact absurd (hreached 2 (by omega)) (by decide)
  obtain ⟨-, -, hsame⟩ := hplays .connected 128 [.sleep 20000]
    (fun _ ↦ ⟨none, .error .connectionClosed⟩) 0
  exact ⟨⟨_, hrun⟩, hticks, hlaunches, rfl, (hsame _ _).1⟩

end Runner

end MediaTelemetry
