import MediaTelemetry.Runner

/-!
# Runners on a virtual clock

A timeline plays a runner and its fetches against a clock that stands still while anything can
happen and then jumps to the next moment at which something is due. Timers fire at their moment,
those of one moment in the order in which they were set. A runner that yields has its next turn when
the fetches it launched are begun. The number of a fetch decides its answer and how long it takes; a
fetch without delay is answered at once.

Whoever waits on the timeline is one of those who share it: after `Timeline.turnLimit` waits in a
row that end without delay, the next one lets the others go first, even if no time is to pass.
-/

namespace MediaTelemetry

/-- How a fetch goes. -/
structure Answer where
  /-- Milliseconds it takes; `none` if it never ends. -/
  delay : Option Nat
  outcome : Except Fault Snapshot

/-- What a timer wakes. -/
inductive Alarm where
  | runner
  | fetch (request : Request) (outcome : Except Fault Snapshot)

/-- The timer belongs to the runner. -/
def Alarm.isRunner : Alarm → Bool
  | .runner => true
  | .fetch .. => false

/-- A runner on a virtual clock. -/
structure Timeline where
  runner : Runner
  connection : Connection := .new
  /-- How many things may be taken in one turn. -/
  turnLimit : Nat
  /-- The answer of each fetch, by number. -/
  answers : Nat → Answer
  /-- The time that samples are stamped with. -/
  stamp : Nat
  now : Nat := 0
  /-- The moments at which fetches were begun, oldest first. -/
  begun : List Nat := []
  /-- Timers in the order in which they were set, with their moments. -/
  timers : List (Nat × Alarm) := []
  /-- How many waits have ended since others last went first. -/
  waits : Nat := 0

namespace Timeline

/-- The fetches begun so far. -/
def fetches (t : Timeline) : Nat := t.begun.length

/-- The runner's turn; its timer is set anew for the moment at which its meter is due. -/
def turn (t : Timeline) : Timeline :=
  let runner := t.runner.step (.turn t.connection t.now t.turnLimit)
  let others := t.timers.filter (!·.2.isRunner)
  let due? := if runner.isFinished then none else runner.meter.schedule.due?
  { t with runner, timers := others ++ (due?.map (·, Alarm.runner)).toList }

/-- A fetch ends. -/
def fetched (t : Timeline) (request : Request) (outcome : Except Fault Snapshot) : Timeline :=
  { t with runner := t.runner.step (.fetched request t.stamp outcome) }

/-- Begins a fetch. -/
def begin (t : Timeline) (request : Request) : Timeline :=
  let answer := t.answers t.fetches
  let t := { t with begun := t.begun ++ [t.now] }
  match answer.delay with
  | none => t
  | some 0 => t.fetched request answer.outcome
  | some delay => { t with timers := t.timers ++ [(t.now + delay, .fetch request answer.outcome)] }

/-- Begins the fetches that the runner has launched. -/
def beginAll (t : Timeline) : Timeline :=
  t.runner.launched.foldl begin { t with runner := { t.runner with launched := [] } }

/-- Gives the runner a turn if it has something to do at this moment, and begins the fetches it
launched. -/
def round (t : Timeline) : Timeline := if t.runner.isAwaited then t.turn.beginAll else t

/-- Lets others go first until the runner yields or waits. A second turn takes the answer to a
request launched in the first. -/
def giveWay (t : Timeline) : Timeline :=
  let t := t.round
  if t.runner.stage = .yielded then t else t.round

/-- Gives the runner up to `n` turns. -/
def turns : Nat → Timeline → Timeline
  | 0, t => t
  | n + 1, t => turns n t.round

/-- Lets everything happen that can happen at this moment. Each turn takes something that waits,
apart from the first, the last, and one for the answer to a request launched in between. -/
def settle (t : Timeline) : Timeline := t.turns (t.runner.waiting + 3)

/-- A timer fires. -/
def fire (t : Timeline) : Alarm → Timeline
  | .runner => t.turn
  | .fetch request outcome => t.fetched request outcome

/-- The next moment at which a timer fires. -/
def nextMoment? (t : Timeline) : Option Nat := (t.timers.map (·.1)).min?

/-- Fires the timers of one moment. -/
def fireAt (t : Timeline) (moment : Nat) : Timeline :=
  let due := t.timers.filter (·.1 == moment)
  let t := { t with now := moment, timers := t.timers.filter (·.1 != moment) }
  ((due.map (·.2)).foldl fire t).beginAll.settle

/-! ### The clock

Nothing that happens at a moment moves the clock, which is why it reaches every deadline. -/

@[simp]
theorem now_turn (t : Timeline) : t.turn.now = t.now := rfl

@[simp]
theorem now_begin (t : Timeline) (request : Request) : (t.begin request).now = t.now := by
  rw [begin]
  dsimp only
  split <;> rfl

@[simp]
theorem now_foldl_begin (t : Timeline) (requests : List Request) :
    (requests.foldl begin t).now = t.now := by
  induction requests generalizing t with
  | nil => rfl
  | cons r rest ih => rw [List.foldl_cons, ih, now_begin]

@[simp]
theorem now_beginAll (t : Timeline) : t.beginAll.now = t.now := by simp [beginAll]

@[simp]
theorem now_round (t : Timeline) : t.round.now = t.now := by
  rw [round]
  split <;> simp

@[simp]
theorem now_turns (n : Nat) (t : Timeline) : (t.turns n).now = t.now := by
  induction n generalizing t with
  | zero => rfl
  | succ n ih =>
    rw [turns, ih, now_round]

@[simp]
theorem now_settle (t : Timeline) : t.settle.now = t.now := by simp [settle]

@[simp]
theorem now_fire (t : Timeline) (alarm : Alarm) : (t.fire alarm).now = t.now := by
  cases alarm <;> rfl

@[simp]
theorem now_foldl_fire (t : Timeline) (alarms : List Alarm) :
    (alarms.foldl fire t).now = t.now := by
  induction alarms generalizing t with
  | nil => rfl
  | cons a rest ih => rw [List.foldl_cons, ih, now_fire]

@[simp]
theorem now_fireAt (t : Timeline) (moment : Nat) : (t.fireAt moment).now = moment := by
  simp [fireAt]

/-- Lets the clock run up to `deadline`. -/
def advance (t : Timeline) (deadline : Nat) : Timeline :=
  match t.nextMoment? with
  | some moment =>
    if _h : t.now < moment ∧ moment ≤ deadline then advance (t.fireAt moment) deadline
    else { t with now := max t.now deadline }
  | none => { t with now := max t.now deadline }
termination_by deadline - t.now
decreasing_by
  rw [now_fireAt]
  omega

/-- Waits for `millis`. Nothing happens while no time passes, unless it is time to let others go
first. -/
def sleep (t : Timeline) (millis : Nat) : Timeline :=
  if millis = 0 then
    if t.waits < t.turnLimit then { t with waits := t.waits + 1 }
    else { t.giveWay with waits := 1 }
  else { t.settle.advance (t.now + millis) with waits := 1 }

/-- Sends the command to stop and waits until everything has happened that can happen at this
moment. -/
def stop (t : Timeline) : Timeline :=
  { { t with runner := t.runner.step (.send .stop) }.settle with waits := 1 }

end Timeline

end MediaTelemetry
