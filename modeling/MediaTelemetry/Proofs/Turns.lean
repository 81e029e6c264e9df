import MediaTelemetry.Proofs.TimedRuns

/-!
# What turns leave

A turn that a runner survives ends with a look at the clock, so it leaves nothing to be done at the
moment (`Runner.isDone_turn`). What else a runner does depends neither on fetches that were launched
before (`Runner.act_withLaunched`), nor does it end a runner that is held (`Runner.IsHeld`).
-/

namespace MediaTelemetry

namespace Schedule

@[simp] theorem due?_handOut (s : Schedule) : s.handOut.due? = s.due? := by
  obtain ⟨phase, generation, number⟩ := s
  cases phase <;> rfl

/-- Nothing is left to be done at the moment. -/
def IsDone (s : Schedule) (now : Nat) : Prop := s.waiting = [] ∧ ∀ due ∈ s.due?, now < due

theorem isDone_close (s : Schedule) (now : Nat) : s.close.IsDone now :=
  ⟨rfl, fun due hdue ↦ by simp [close, due?] at hdue⟩

/-- After a look at the clock the next tick is still to come. -/
theorem lt_due_tick (s : Schedule) {interval now : Nat} (hinterval : 0 < interval) :
    ∀ due ∈ (s.tick interval now).due?, now < due := by
  obtain ⟨phase, generation, number⟩ := s
  cases phase with
  | idle => simp [tick, due?]
  | running due waiting =>
    rw [tick]
    dsimp only
    split
    · rename_i hlt
      simpa [due?] using hlt
    · simpa [due?] using hinterval

end Schedule

namespace Runner

/-! ### Turns -/

theorem schedule_foldl_dispatch (connection : Connection) {waiting : List Request} {r : Runner}
    (hwaiting : r.meter.schedule.waiting = waiting) :
    (waiting.foldl (dispatch connection) r).meter.schedule.waiting = [] ∧
      (waiting.foldl (dispatch connection) r).meter.schedule.due? = r.meter.schedule.due? := by
  induction waiting generalizing r with
  | nil => exact ⟨hwaiting, rfl⟩
  | cons request rest ih =>
    have hschedule : (r.dispatch connection request).meter.schedule = r.meter.schedule.handOut := by
      rw [meter_dispatch]
      rfl
    have hrest : (r.dispatch connection request).meter.schedule.waiting = rest := by
      rw [hschedule, Schedule.waiting_handOut, hwaiting, List.tail_cons]
    obtain ⟨hnone, hdue⟩ := ih hrest
    refine ⟨hnone, ?_⟩
    rw [List.foldl_cons, hdue, hschedule, Schedule.due?_handOut]

theorem settings_foldl_dispatch (connection : Connection) (requests : List Request) (r : Runner) :
    (requests.foldl (dispatch connection) r).meter.settings = r.meter.settings := by
  induction requests generalizing r with
  | nil => rfl
  | cons request rest ih =>
    rw [List.foldl_cons, ih, meter_dispatch]
    rfl

theorem settings_refresh (r : Runner) (connection : Connection) (now : Nat) :
    (r.refresh connection now).meter.settings = r.meter.settings := by
  rw [refresh]
  split <;> exact settings_foldl_dispatch connection _ (r.perform (.timeout now))

theorem isDone_refresh {r : Runner} {connection : Connection} {now : Nat}
    (hinterval : 0 < r.meter.settings.interval) :
    (r.refresh connection now).meter.schedule.IsDone now := by
  obtain ⟨hnone, hdue⟩ := schedule_foldl_dispatch connection
    (r := r.perform (.timeout now)) rfl
  rw [refresh]
  split
  · refine ⟨hnone, fun due hmem ↦ ?_⟩
    exact r.meter.schedule.lt_due_tick hinterval due (hdue ▸ hmem)
  · exact Schedule.isDone_close _ _

/-- A turn that the runner survives ends with a look at the clock. -/
theorem isDone_turn {r : Runner} {connection : Connection} {now limit : Nat}
    (hgoes : (r.turn connection now limit).isFinished = false)
    (hinterval : 0 < (r.turn connection now limit).meter.settings.interval) :
    (r.turn connection now limit).meter.schedule.IsDone now := by
  rw [turn] at hgoes hinterval ⊢
  split at hgoes
  · rename_i hfinished
    exact absurd hgoes (by simp [hfinished])
  · rename_i hunfinished
    rw [if_neg hunfinished] at hinterval ⊢
    dsimp only at hgoes hinterval ⊢
    generalize ((if r.stage = .fresh then r.refresh connection now else r).takeWaiting connection
      now limit) = taken at hgoes hinterval ⊢
    split at hgoes
    · rename_i hfinished
      exact absurd hgoes (by simp [hfinished])
    · rename_i hunfinished
      rw [if_neg hunfinished] at hinterval ⊢
      have hsettings := taken.settings_refresh connection now
      split at hinterval
      · rename_i hyields
        rw [if_pos hyields]
        exact isDone_refresh (hsettings ▸ hinterval)
      · rename_i hyields
        rw [if_neg hyields]
        exact isDone_refresh (hsettings ▸ hinterval)

/-! ### Fetches launched before -/

/-- The runner as if it had launched fetches before those it has. -/
def withLaunched (r : Runner) (earlier : List Request) : Runner :=
  { r with launched := earlier ++ r.launched }

/-- What was launched before has no say in what the runner does itself. -/
theorem act_withLaunched (r : Runner) (earlier : List Request) {a : Act}
    {connection : Connection} {now : Nat} (hown : a.IsOwn connection now) :
    (r.withLaunched earlier).act a = (r.act a).withLaunched earlier := by
  cases a with
  | around move => exact hown.elim
  | dispatch connection request =>
    rw [act_dispatch, act_dispatch, dispatch, dispatch]
    split
    · exact congrArg (fun launched ↦ { r.perform .nextRequest with launched })
        (List.append_assoc earlier r.launched [request])
    · rfl
  | take op => cases op <;> rfl
  | lose op => cases op <;> rfl
  | _ => rfl

theorem allows_withLaunched (r : Runner) (earlier : List Request) {a : Act}
    {connection : Connection} {now : Nat} (hown : a.IsOwn connection now) :
    (r.withLaunched earlier).Allows a ↔ r.Allows a := by
  cases a with
  | around move => exact hown.elim
  | take op => cases op <;> rfl
  | lose op => cases op <;> rfl
  | _ => rfl

/-- Nor has it in what happens around it. -/
theorem step_withLaunched (r : Runner) (earlier : List Request) {move : Move}
    (hturn : move.isTurn = false) :
    (r.withLaunched earlier).step move = (r.step move).withLaunched earlier := by
  have hfinished : (r.withLaunched earlier).isFinished = r.isFinished := rfl
  cases move with
  | send c =>
    rw [step, step, hfinished]
    split <;> rfl
  | drop => rfl
  | fetched request time outcome =>
    cases outcome with
    | error fault => rfl
    | ok snapshot =>
      rw [step, step, fetched, fetched, hfinished]
      split <;> rfl
  | turn => exact absurd hturn (by simp [Move.isTurn])

/-! ### Runners that are held -/

/-- Nothing that waits ends the runner: no command to stop it, and its handle is held. -/
def IsHeld (r : Runner) : Prop := (∀ c ∈ r.commands, c ≠ .stop) ∧ r.dropped = false

namespace IsHeld

variable {r : Runner} {a : Act} {move : Move}

/-- What happens around a runner leaves it held, but for the two moves that do not. -/
theorem step (h : r.IsHeld) (hturn : move.isTurn = false) (hsend : move ≠ .send .stop)
    (hdrop : move ≠ .drop) : (r.step move).IsHeld := by
  cases move with
  | send c =>
    rw [Runner.step]
    split
    · exact h
    · refine ⟨fun c' hc' ↦ ?_, h.2⟩
      rcases List.mem_append.1 hc' with hc' | hc'
      · exact h.1 c' hc'
      · obtain rfl := List.mem_singleton.1 hc'
        rintro rfl
        exact hsend rfl
  | drop => exact absurd rfl hdrop
  | fetched request time outcome =>
    rw [Runner.step]
    cases outcome with
    | error fault => exact h
    | ok snapshot =>
      rw [fetched]
      split <;> exact h
  | turn => exact absurd hturn (by simp [Move.isTurn])

theorem ends_eq_false (h : r.IsHeld) (hallowed : r.Allows a) : a.ends = false := by
  cases a with
  | take op =>
    cases op with
    | command c =>
      cases c with
      | expect status => rfl
      | stop => exact absurd rfl (h.1 .stop (List.mem_of_mem_head? hallowed.2))
    | _ => rfl
  | hangUp => exact absurd (h.2.symm.trans hallowed.2.2) (by simp)
  | _ => rfl

/-- The runner itself only takes from what waits. -/
theorem act (h : r.IsHeld) {connection : Connection} {now : Nat}
    (hown : a.IsOwn connection now) : (r.act a).IsHeld := by
  have hwithout : ∀ op, (r.without op).IsHeld := by
    intro op
    cases op with
    | command c => exact ⟨fun c' hc' ↦ h.1 c' (List.mem_of_mem_tail hc'), h.2⟩
    | _ => exact h
  cases a with
  | around move => exact hown.elim
  | dispatch connection request =>
    rw [act_dispatch, dispatch]
    split <;> exact h
  | take op => exact hwithout op
  | lose op => exact hwithout op
  | _ => exact h

end IsHeld

end Runner

end MediaTelemetry
