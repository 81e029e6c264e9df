import MediaTelemetry.Runner

/-!
# Runners, one act at a time

`Runner.turn` lets a runner do many things at one moment, with nothing in between. Here they are
taken apart: an `Execution` lists single acts, and between any two of them commands may be sent, the
handle dropped, fetches end, and the clock and the connection change.

An act may happen whenever the state lets it (`Runner.Allows`). That leaves out the order of
preference among what waits, so executions include every order in which a runner and its fetches can
be scheduled, and more. In particular each list of moves is played by one (`execution_of_moves`),
with the same things happening around the runner.
-/

namespace MediaTelemetry

theorem Schedule.waiting_handOut (s : Schedule) : s.handOut.waiting = s.waiting.tail := by
  obtain ⟨phase, generation, nextNumber⟩ := s
  cases phase <;> rfl

namespace Runner

/-! ### Acts -/

/-- The runner has not ended and its meter runs. -/
def IsGoing (r : Runner) : Prop := r.isFinished = false ∧ r.meter.isRunning = true

/-- One thing that happens at a runner. -/
inductive Act where
  /-- Something happens around the runner. -/
  | around (move : Move)
  /-- It looks at the clock. -/
  | look (now : Nat)
  /-- It hands out the next request, of which the state of the connection decides whether it is
  launched. -/
  | dispatch (connection : Connection) (request : Request)
  /-- It passes on all notices. -/
  | forward
  /-- It waits, or yields. -/
  | rest (stage : Stage)
  /-- It takes a command or a sample. -/
  | take (op : Meter.Op)
  /-- It finds that no further command can come, and ends. -/
  | hangUp
  /-- It finds that its meter has stopped, and ends. -/
  | finish
  /-- A command or a sample that waits when it has ended is lost. -/
  | lose (op : Meter.Op)

/-- The command or the sample is the first of its kind that waits. -/
def Offers (r : Runner) : Meter.Op → Prop
  | .command c => r.commands.head? = some c
  | .read s => r.samples.head? = some s
  | _ => False

/-- The runner without the first command that waits, or without the first sample. -/
def without (r : Runner) : Meter.Op → Runner
  | .command _ => { r with commands := r.commands.tail }
  | .read _ => { r with samples := r.samples.tail }
  | _ => r

/-- The runner after an act. -/
def act (r : Runner) : Act → Runner
  | .around move => r.step move
  | .look now => r.perform (.timeout now)
  | .dispatch connection request => r.dispatch connection request
  | .forward => r.forward
  | .rest stage => { r with stage }
  | .take op => (r.without op).perform op
  | .hangUp => (r.write [.handleDropped]).finish
  | .finish => r.finish
  | .lose op => r.without op

theorem act_around (r : Runner) (move : Move) : r.act (.around move) = r.step move := rfl

theorem act_dispatch (r : Runner) (connection : Connection) (request : Request) :
    r.act (.dispatch connection request) = r.dispatch connection request := rfl

/-- The move is a turn of the runner. -/
def Move.isTurn : Move → Bool
  | .turn .. => true
  | _ => false

/-- A fetch that ends has been launched. -/
def Move.isPossible (launched : List Request) : Move → Bool
  | .fetched request .. => launched.contains request
  | _ => true

/-- The act can happen. A runner that goes on takes what waits first in either queue. -/
def Allows (r : Runner) : Act → Prop
  | .around move => move.isTurn = false ∧ move.isPossible r.launched = true
  | .look _ | .forward => r.isFinished = false
  | .dispatch _ request => r.isFinished = false ∧ r.meter.schedule.next? = some request
  | .rest stage => r.IsGoing ∧ stage ≠ .finished
  | .take op => r.IsGoing ∧ r.Offers op
  | .hangUp => r.IsGoing ∧ r.commands = [] ∧ r.dropped = true
  | .finish => r.isFinished = false ∧ r.meter.isRunning = false
  | .lose op => r.isFinished = true ∧ r.Offers op

/-- The acts, in order, can happen one after another and lead from `r₀` to `r`. -/
inductive Execution (r₀ : Runner) : List Act → Runner → Prop
  | start : Execution r₀ [] r₀
  | snoc {acts : List Act} {r : Runner} {a : Act} (before : Execution r₀ acts r)
      (allowed : r.Allows a) : Execution r₀ (acts ++ [a]) (r.act a)

/-- What happens around the runner at an act. -/
def Act.move? : Act → Option Move
  | .around move => some move
  | _ => none

/-- Only fetches that were launched end during the moves. -/
def onlyLaunchedEnd : Runner → List Move → Bool
  | _, [] => true
  | r, move :: moves => move.isPossible r.launched && (r.step move).onlyLaunchedEnd moves

/-- What happens around a runner changes what waits and the journal, and nothing else. -/
theorem step_eq_of_not_turn (r : Runner) {move : Move} (h : move.isTurn = false) :
    ∃ commands dropped samples journal,
      r.step move = { r with commands, dropped, samples, journal } := by
  cases move with
  | send c =>
    rw [step]
    split
    · exact ⟨_, _, _, _, rfl⟩
    · exact ⟨_, _, _, _, rfl⟩
  | drop => exact ⟨_, _, _, _, rfl⟩
  | fetched request time outcome =>
    rw [step]
    cases outcome with
    | error fault => exact ⟨_, _, _, _, rfl⟩
    | ok snapshot =>
      rw [fetched]
      split
      · exact ⟨_, _, _, _, rfl⟩
      · exact ⟨_, _, _, _, rfl⟩
  | turn => exact absurd h (by simp [Move.isTurn])

/-! ### Queues

A runner looks at what waits only when it takes it, so the rest of a queue can be set aside. -/

section Queues

variable (r : Runner) (op : Meter.Op)

@[simp] theorem meter_without : (r.without op).meter = r.meter := by
  cases op <;> rfl

@[simp] theorem isFinished_without : (r.without op).isFinished = r.isFinished := by
  cases op <;> rfl

theorem perform_without (op' : Meter.Op) :
    (r.without op').perform op = (r.perform op).without op' := by
  cases op' <;> rfl

theorem dispatch_without (connection : Connection) (request : Request) :
    (r.without op).dispatch connection request = (r.dispatch connection request).without op := by
  rw [dispatch, dispatch, perform_without]
  split <;> cases op <;> rfl

theorem refresh_without (connection : Connection) (now : Nat) :
    (r.without op).refresh connection now = (r.refresh connection now).without op := by
  have hdispatch : ∀ (requests : List Request) (r : Runner),
      requests.foldl (dispatch connection) (r.without op) =
        (requests.foldl (dispatch connection) r).without op := fun requests r ↦
    List.foldl_hom (fun r : Runner ↦ r.without op) fun r request ↦ r.dispatch_without op ..
  have hforward : ∀ r : Runner, (r.without op).forward = r.forward.without op := by
    intro r
    cases op <;> rfl
  rw [refresh, refresh, perform_without, meter_without, hdispatch, hforward, meter_without]
  split <;> cases op <;> rfl

theorem takeOne_without (op' : Meter.Op) (connection : Connection) (now : Nat) :
    (r.without op').takeOne connection now op = (r.takeOne connection now op).without op' := by
  rw [takeOne, takeOne, isFinished_without, perform_without, refresh_without]
  split <;> rfl

/-- All that waits, and whether more can come. -/
def queues : List Command × List Sample × Bool := (r.commands, r.samples, r.dropped)

theorem meter_dispatch (connection : Connection) (request : Request) :
    (r.dispatch connection request).meter = r.meter.step .nextRequest := by
  rw [dispatch]
  split <;> rfl

theorem queues_dispatch (connection : Connection) (request : Request) :
    (r.dispatch connection request).queues = r.queues := by
  rw [dispatch]
  split <;> rfl

theorem frame_foldl_dispatch (connection : Connection) (requests : List Request) :
    (requests.foldl (dispatch connection) r).queues = r.queues ∧
      (requests.foldl (dispatch connection) r).isFinished = r.isFinished := by
  induction requests generalizing r with
  | nil => exact ⟨rfl, rfl⟩
  | cons request rest ih =>
    have hdispatch : (r.dispatch connection request).isFinished = r.isFinished := by
      rw [dispatch]
      split <;> rfl
    rw [List.foldl_cons, (ih _).1, (ih _).2, queues_dispatch, hdispatch]
    exact ⟨rfl, rfl⟩

theorem queues_refresh (connection : Connection) (now : Nat) :
    (r.refresh connection now).queues = r.queues := by
  have hfold := fun r ↦ frame_foldl_dispatch r connection
  rw [refresh]
  split
  · exact (hfold _ _).1
  · exact (hfold _ _).1

theorem queues_takeOne (connection : Connection) (now : Nat) :
    (r.takeOne connection now op).queues = r.queues := by
  rw [takeOne]
  split
  · rfl
  · exact queues_refresh ..

theorem queues_foldl_takeOne (connection : Connection) (now : Nat) (ops : List Meter.Op) :
    (ops.foldl (takeOne connection now) r).queues = r.queues := by
  induction ops generalizing r with
  | nil => rfl
  | cons op ops ih => rw [List.foldl_cons, ih, queues_takeOne]

/-- The commands or samples wait first in their queue, in this order. -/
def OffersAll : Runner → List Meter.Op → Prop
  | _, [] => True
  | r, op :: ops => r.Offers op ∧ (r.without op).OffersAll ops

theorem OffersAll.congr {r r' : Runner} {ops : List Meter.Op} (h : r.OffersAll ops)
    (hqueues : r'.queues = r.queues) : r'.OffersAll ops := by
  induction ops generalizing r r' with
  | nil => trivial
  | cons op ops ih =>
    obtain ⟨hcommands, hsamples, hdropped⟩ : r'.commands = r.commands ∧ r'.samples = r.samples ∧
        r'.dropped = r.dropped := by
      simpa [queues] using hqueues
    obtain ⟨hoffers, hrest⟩ := h
    refine ⟨?_, ih hrest ?_⟩
    · cases op with
      | command c => exact (congrArg List.head? hcommands).trans hoffers
      | read s => exact (congrArg List.head? hsamples).trans hoffers
      | _ => exact hoffers
    · cases op <;> simp [queues, without, hcommands, hsamples, hdropped]

end Queues

/-- What heads a queue is offered, and taken from it one after another. -/
theorem offersAll_take {α : Type} (queue : List α → Runner) (op : α → Meter.Op)
    (hoffers : ∀ a rest, (queue (a :: rest)).Offers (op a))
    (hwithout : ∀ a rest, (queue (a :: rest)).without (op a) = queue rest) (waiting : List α)
    (limit : Nat) :
    (queue waiting).OffersAll ((waiting.take limit).map op) ∧
      ((waiting.take limit).map op).foldl without (queue waiting) = queue (waiting.drop limit) := by
  induction limit generalizing waiting with
  | zero => exact ⟨trivial, rfl⟩
  | succ limit ih =>
    cases waiting with
    | nil => exact ⟨trivial, rfl⟩
    | cons a rest =>
      obtain ⟨hall, hdrop⟩ := ih rest
      rw [List.take_succ_cons, List.map_cons, List.foldl_cons, hwithout]
      exact ⟨⟨hoffers a rest, (hwithout a rest).symm ▸ hall⟩, hdrop⟩

/-! ### Turns -/

@[simp] theorem isFinished_finish (r : Runner) : r.finish.isFinished = true := rfl

/-- Before it has ended, the meter runs. -/
def IsReady (r : Runner) : Prop := r.isFinished = false → r.meter.isRunning = true

theorem isReady_refresh (r : Runner) (connection : Connection) (now : Nat) :
    (r.refresh connection now).IsReady := by
  intro hunfinished
  rw [refresh] at hunfinished ⊢
  split
  · rename_i hrunning
    exact hrunning
  · rename_i hidle
    rw [if_neg hidle] at hunfinished
    exact absurd hunfinished (by simp)

theorem isReady_takeOne {r : Runner} (h : r.IsReady) (connection : Connection) (now : Nat)
    (op : Meter.Op) : (r.takeOne connection now op).IsReady := by
  rw [takeOne]
  split
  · exact h
  · exact isReady_refresh _ _ _

theorem isReady_foldl_takeOne {r : Runner} (h : r.IsReady) (connection : Connection) (now : Nat)
    (ops : List Meter.Op) : (ops.foldl (takeOne connection now) r).IsReady := by
  induction ops generalizing r with
  | nil => exact h
  | cons op ops ih => exact ih (isReady_takeOne h _ _ _)

/-- Acts of the runner itself at one moment: it is shown that time, and the connection stands. -/
def Act.IsOwn (connection : Connection) (now : Nat) : Act → Prop
  | .around _ => False
  | .look shown => shown = now
  | .dispatch seen _ => seen = connection
  | _ => True

/-- What the runner does itself at the moment leads from `P` to `P` again. -/
def KeptByOwn (connection : Connection) (now : Nat) (P : Runner → Prop) : Prop :=
  ∀ r a, P r → r.Allows a → a.IsOwn connection now → P (r.act a)

namespace KeptByOwn

variable {connection : Connection} {now : Nat} {P : Runner → Prop} {r : Runner}
  (hP : KeptByOwn connection now P)

include hP

theorem dispatchAll (h : P r) (hunfinished : r.isFinished = false) :
    P (r.meter.schedule.waiting.foldl (dispatch connection) r) := by
  generalize hwaiting : r.meter.schedule.waiting = waiting
  induction waiting generalizing r with
  | nil => exact h
  | cons request rest ih =>
    have hrest : (r.dispatch connection request).meter.schedule.waiting = rest := by
      rw [meter_dispatch]
      exact (Schedule.waiting_handOut _).trans (by rw [hwaiting, List.tail_cons])
    have hnext : r.meter.schedule.next? = some request := by
      rw [Schedule.next?, hwaiting, List.head?_cons]
    refine ih (hP r (.dispatch connection request) h ⟨hunfinished, hnext⟩ rfl) ?_ hrest
    exact ((frame_foldl_dispatch r connection [request]).2).trans hunfinished

theorem refresh (h : P r) (hunfinished : r.isFinished = false) : P (r.refresh connection now) := by
  have hlooked := hP r (.look now) h hunfinished rfl
  have hunfinished' := (frame_foldl_dispatch (r.perform (.timeout now)) connection
    (r.perform (.timeout now)).meter.schedule.waiting).2.trans hunfinished
  have hforwarded := hP _ .forward (hP.dispatchAll hlooked hunfinished) hunfinished' trivial
  rw [Runner.refresh]
  split
  · rename_i hrunning
    exact hP _ (.rest .waiting) hforwarded ⟨⟨hunfinished', hrunning⟩, by simp⟩ trivial
  · rename_i hidle
    exact hP _ .finish hforwarded ⟨hunfinished', Bool.eq_false_iff.2 hidle⟩ trivial

/-- What is taken from a runner that has ended is lost. -/
theorem takeOne (h : P r) (hready : r.IsReady) {op : Meter.Op} (hoffers : r.Offers op) :
    P ((r.without op).takeOne connection now op) := by
  rw [Runner.takeOne, isFinished_without]
  split
  · rename_i hfinished
    exact hP r (.lose op) h ⟨hfinished, hoffers⟩ trivial
  · rename_i hunfinished
    rw [Bool.not_eq_true] at hunfinished
    have htaken := hP r (.take op) h ⟨⟨hunfinished, hready hunfinished⟩, hoffers⟩ trivial
    exact hP.refresh htaken ((r.isFinished_without op).trans hunfinished)

/-- Taking many at once is taking them one after another. -/
theorem takeAll {ops : List Meter.Op} (h : P r) (hready : r.IsReady) (hoffers : r.OffersAll ops) :
    P (ops.foldl (Runner.takeOne connection now) (ops.foldl without r)) := by
  induction ops generalizing r with
  | nil => exact h
  | cons op ops ih =>
    have hcommute : (ops.foldl without (r.without op)).takeOne connection now op =
        ops.foldl without ((r.without op).takeOne connection now op) :=
      (List.foldl_hom (fun r : Runner ↦ r.takeOne connection now op) fun r op' ↦
        (r.takeOne_without op op' ..).symm).symm
    rw [List.foldl_cons, List.foldl_cons, hcommute]
    have hready' : (r.without op).IsReady := by
      rwa [IsReady, isFinished_without, meter_without]
    exact ih (hP.takeOne h hready hoffers.1) (isReady_takeOne hready' _ _ _)
      (hoffers.2.congr (queues_takeOne ..))

theorem takeWaiting (h : P r) (hready : r.IsReady) (limit : Nat) :
    P (r.takeWaiting connection now limit) ∧ (r.takeWaiting connection now limit).IsReady := by
  let r' := r.takeCommands connection now limit
  obtain ⟨hoffers, hdrop⟩ := offersAll_take (fun commands ↦ { r with commands }) .command
    (fun _ _ ↦ rfl) (fun _ _ ↦ rfl) r.commands limit
  have hkept : P r' := by
    have htaken := hP.takeAll h hready hoffers
    rwa [hdrop] at htaken
  have hready' : r'.IsReady :=
    isReady_foldl_takeOne (r := { r with commands := r.commands.drop limit }) hready _ _ _
  have hqueues : r'.queues = (r.commands.drop limit, r.samples, r.dropped) :=
    queues_foldl_takeOne ..
  obtain ⟨hcommands, hsamples, hdropped⟩ : r'.commands = r.commands.drop limit ∧
      r'.samples = r.samples ∧ r'.dropped = r.dropped := by
    simpa [queues] using hqueues
  rw [Runner.takeWaiting]
  split
  · exact ⟨hkept, hready'⟩
  · rename_i hmore
    obtain ⟨hunfinished, hleft⟩ : r'.isFinished = false ∧ limit - r.commands.length ≠ 0 := by
      simpa using hmore
    split
    · -- commands are left only where the limit was reached
      rename_i hclosed
      have hnone : r'.commands = [] := by
        rw [hcommands, List.drop_eq_nil_iff]
        omega
      refine ⟨hP r' .hangUp hkept ⟨⟨hunfinished, hready' hunfinished⟩, hnone, hclosed⟩ trivial, ?_⟩
      intro hfinished
      exact absurd hfinished (by simp)
    · obtain ⟨hoffers', hdrop'⟩ := offersAll_take (fun samples ↦ { r' with samples }) .read
        (fun _ _ ↦ rfl) (fun _ _ ↦ rfl) r'.samples (limit - r.commands.length)
      have htaken := hP.takeAll hkept hready' hoffers'
      rw [hdrop'] at htaken
      exact ⟨htaken, isReady_foldl_takeOne
        (r := { r' with samples := r'.samples.drop (limit - r.commands.length) }) hready' _ _ _⟩

/-- **What every single act of a turn keeps, the turn keeps.** -/
theorem turn (h : P r) (hready : r.stage ≠ .fresh → r.IsReady) (limit : Nat) :
    P (r.turn connection now limit) ∧ (r.turn connection now limit).IsReady := by
  rw [Runner.turn]
  split
  · rename_i hfinished
    exact ⟨h, fun hunfinished ↦ absurd hfinished (by simp [hunfinished])⟩
  · rename_i hunfinished
    rw [Bool.not_eq_true] at hunfinished
    dsimp only
    have hlooked : P (if r.stage = .fresh then r.refresh connection now else r) ∧
        (if r.stage = .fresh then r.refresh connection now else r).IsReady := by
      split
      · exact ⟨hP.refresh h hunfinished, isReady_refresh _ _ _⟩
      · rename_i hstage
        exact ⟨h, hready hstage⟩
    generalize (if r.stage = .fresh then r.refresh connection now else r) = r' at hlooked ⊢
    obtain ⟨htaken, hready'⟩ := hP.takeWaiting hlooked.1 hlooked.2 limit
    split
    · exact ⟨htaken, hready'⟩
    · rename_i hunfinished'
      rw [Bool.not_eq_true] at hunfinished'
      have hrefreshed := hP.refresh htaken hunfinished'
      have hready'' := isReady_refresh (r'.takeWaiting connection now limit) connection now
      split
      · rename_i hyields
        have hgoes := Bool.not_eq_true' _ ▸ (Bool.and_eq_true_iff.1 hyields).2
        exact ⟨hP _ (.rest .yielded) hrefreshed ⟨⟨hgoes, hready'' hgoes⟩, by simp⟩ trivial,
          fun _ ↦ hready'' hgoes⟩
      · exact ⟨hrefreshed, hready''⟩

end KeptByOwn

/-- Some execution in which nothing but `moves` happens around the runner leads to `r`. -/
def Reaches (r₀ : Runner) (moves : List Move) (r : Runner) : Prop :=
  ∃ acts, Execution r₀ acts r ∧ acts.filterMap Act.move? = moves

namespace Reaches

variable {r₀ r : Runner} {moves : List Move}

theorem act (h : Reaches r₀ moves r) {a : Act} (hallowed : r.Allows a) :
    Reaches r₀ (moves ++ a.move?.toList) (r.act a) := by
  obtain ⟨acts, hacts, rfl⟩ := h
  refine ⟨acts ++ [a], hacts.snoc hallowed, ?_⟩
  rw [List.filterMap_append]
  cases a <;> rfl

/-- What the runner does itself leaves the moves as they are. -/
theorem keptByOwn (connection : Connection) (now : Nat) :
    KeptByOwn connection now (Reaches r₀ moves) := by
  intro r a h hallowed hown
  have hmove : a.move? = none := by
    cases a with
    | around move => exact hown.elim
    | _ => rfl
  simpa [hmove] using h.act hallowed

/-- Whatever else happens around the runner is an act of its own. -/
theorem around (h : Reaches r₀ moves r) {move : Move} (hturn : move.isTurn = false)
    (hpossible : move.isPossible r.launched = true) :
    Reaches r₀ (moves ++ [move]) (r.step move) :=
  h.act (a := .around move) ⟨hturn, hpossible⟩

theorem playAll {moves' : List Move} (h : Reaches r₀ moves r)
    (hready : r.stage ≠ .fresh → r.IsReady) (hmoves : r.onlyLaunchedEnd moves' = true) :
    Reaches r₀ (moves ++ moves'.filter (!·.isTurn)) (moves'.foldl step r) := by
  induction moves' generalizing moves r with
  | nil => simpa using h
  | cons move moves' ih =>
    obtain ⟨hpossible, hrest⟩ := Bool.and_eq_true_iff.1 hmoves
    rw [List.foldl_cons]
    cases hturn : move.isTurn with
    | true =>
      obtain ⟨connection, now, limit, rfl⟩ :
          ∃ connection now limit, move = .turn connection now limit := by
        cases move with
        | turn connection now limit => exact ⟨connection, now, limit, rfl⟩
        | _ => exact absurd hturn (by simp [Move.isTurn])
      obtain ⟨hturned, hready'⟩ := (keptByOwn connection now).turn h hready limit
      rw [List.filter_cons_of_neg (by simp [hturn])]
      exact ih hturned (fun _ ↦ hready') hrest
    | false =>
      rw [List.filter_cons_of_pos (by simp [hturn]), ← List.singleton_append, ← List.append_assoc]
      refine ih (h.around hturn hpossible) ?_ hrest
      obtain ⟨_, _, _, _, hstep⟩ := r.step_eq_of_not_turn hturn
      rw [hstep]
      exact hready

end Reaches

/-- **Every list of moves is played by an execution**, with the same happening around the runner. -/
theorem execution_of_moves {m : Meter} {moves : List Move}
    (hmoves : onlyLaunchedEnd { meter := m } moves = true) :
    ∃ acts, Execution { meter := m } acts (moves.foldl step { meter := m }) ∧
      acts.filterMap Act.move? = moves.filter (!·.isTurn) :=
  Reaches.playAll ⟨[], .start, rfl⟩ (fun hfresh ↦ absurd rfl hfresh) hmoves

end Runner

end MediaTelemetry
