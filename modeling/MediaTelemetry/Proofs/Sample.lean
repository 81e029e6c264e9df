import MediaTelemetry.Proofs.History
import MediaTelemetry.Proofs.Sweep

/-!
# A sample, line by line

The stages of a sample after the sweep only decorate what the sweep left: rates, silence and the
samples of a closed window are set on entries that are listed, and neither the counters of a line
nor its request flags nor the number it was last seen at change (`SameBooks`). So the ledger after a
sample has the counters that the sweep gave it (`countersAt_take`).

Since the mark of the previous sample is captured at its very end, it always holds the counters that
the ledger still has (`Coherent`): measuring against the mark is measuring against the ledger as the
sample found it.
-/

namespace MediaTelemetry

/-! ### What decoration keeps -/

/-- Two entries agree on all that is counted or compared: counters, and the notes on when the line
was seen and whether it is requested. -/
structure Entry.SameBooks (e e' : Entry) : Prop where
  counters : e.counters = e'.counters
  lastSeen : e.notes.lastSeen = e'.notes.lastSeen
  requested : e.notes.requested = e'.notes.requested
  requestedAt : e.notes.requestedAt = e'.notes.requestedAt

namespace Entry

theorem SameBooks.trans {a b c : Entry} (h : a.SameBooks b) (h' : b.SameBooks c) :
    a.SameBooks c where
  counters := h.counters.trans h'.counters
  lastSeen := h.lastSeen.trans h'.lastSeen
  requested := h.requested.trans h'.requested
  requestedAt := h.requestedAt.trans h'.requestedAt

theorem SameBooks.isActiveAt {e e' : Entry} (h : e.SameBooks e') (now recency : Nat) :
    e.notes.isActiveAt now recency = e'.notes.isActiveAt now recency := by
  rw [Notes.isActiveAt, Notes.isActiveAt, Notes.requestedRecently, Notes.requestedRecently,
    h.requested, h.requestedAt]

theorem SameBooks.isRequestedAt {e e' : Entry} (h : e.SameBooks e') (now recency : Nat) :
    e.notes.isRequestedAt now recency = e'.notes.isRequestedAt now recency := by
  rw [Notes.isRequestedAt, Notes.isRequestedAt, Notes.requestedRecently, Notes.requestedRecently,
    h.requested, h.requestedAt]

variable (e : Entry) (line : Line) (mark : Option Mark) (elapsed : Span)

theorem counters_setTickRates : (e.setTickRates line mark elapsed).counters = e.counters := by
  obtain ⟨send, receive, notes⟩ := e
  rw [setTickRates]
  split
  · cases send <;> rfl
  · cases receive <;> rfl

theorem notes_setTickRates : (e.setTickRates line mark elapsed).notes = e.notes := by
  rw [setTickRates]
  split <;> rfl

theorem sameBooks_setTickRates : (e.setTickRates line mark elapsed).SameBooks e where
  counters := counters_setTickRates ..
  lastSeen := by rw [notes_setTickRates]
  requested := by rw [notes_setTickRates]
  requestedAt := by rw [notes_setTickRates]

/-- Rates are set against counters that setting them does not change, so once is enough. -/
theorem setTickRates_setTickRates :
    (e.setTickRates line mark elapsed).setTickRates line mark elapsed =
      e.setTickRates line mark elapsed := by
  have hgrowth : (e.setTickRates line mark elapsed).growth line mark = e.growth line mark := by
    rw [growth, counters_setTickRates, growth]
  rw [setTickRates, hgrowth]
  unfold setTickRates
  cases line.direction <;> rfl

theorem sameBooks_note (w : Watch) : (w.note line e).SameBooks e := by
  rw [Watch.note]
  split <;> exact ⟨rfl, rfl, rfl, rfl⟩

theorem sameBooks_clearSamples :
    ({ e with notes := e.notes.clearSamples } : Entry).SameBooks e :=
  ⟨rfl, rfl, rfl, rfl⟩

end Entry

/-! ### Marks -/

/-- The counters of a line in a ledger, if it is listed. -/
def Ledger.countersAt (ledger : Ledger) (line : Line) : Option Counters :=
  (ledger.get? line).map (·.counters)

theorem Mark.of?_mark (ledger : Ledger) (tick time : Nat) (line : Line) :
    Mark.of? (some (Ledger.mark ledger tick time)) line = ledger.countersAt line := by
  rw [Mark.of?, Option.bind_some, Ledger.mark, KeyMap.get?_map, Ledger.countersAt]

theorem Ledger.get?_setTickRates (lines : List Line) (mark : Option Mark) (elapsed : Span)
    (line : Line) :
    ∀ ledger : Ledger, (Ledger.setTickRates ledger lines mark elapsed).get? line =
      if line ∈ lines then (ledger.get? line).map fun e ↦ e.setTickRates line mark elapsed
      else ledger.get? line := by
  unfold Ledger.setTickRates
  induction lines with
  | nil => intro ledger; simp
  | cons other rest ih =>
    intro ledger
    rw [List.foldl_cons, ih]
    by_cases heq : other = line
    · subst heq
      rw [Ledger.get?_modify_self]
      -- a line listed again gets the same rates once more
      by_cases hmem : other ∈ rest
      · simp [hmem, Option.map_map, Function.comp_def, Entry.setTickRates_setTickRates]
      · simp [hmem]
    · rw [Ledger.get?_modify_of_ne _ heq]
      simp [List.mem_cons, Ne.symm heq]

namespace Measurement

variable (m : Measurement) (c : Settings) (now : Nat) (s : Snapshot) (line : Line)

/-! ### The stages -/

theorem get?_swept :
    (m.pass c now s).swept.get? line =
      (s.at? line).elim (m.ledger.get? line) fun r ↦
        r.update line (m.ticks + 1) (m.ledger.get? line) :=
  Ledger.get?_sweep ..

theorem mem_seen :
    line ∈ (m.pass c now s).sweep.seen ↔ ∃ r, s.at? line = some r ∧ r.concerns line :=
  Ledger.mem_seen_sweep

/-- Sets the rates of a line that was seen. -/
def rate (e : Entry) : Entry :=
  if line ∈ (m.pass c now s).sweep.seen then
    e.setTickRates line m.previous (elapsedSince (m.previous.map (·.time)) now c.tick)
  else e

/-- Sets the rates of a line and notes its silence. -/
def rateAndNote (e : Entry) : Entry := (m.pass c now s).watch.note line (m.rate c now s line e)

/-- All that a sample does to an entry after the sweep. -/
def finish (e : Entry) : Entry :=
  let noted := m.rateAndNote c now s line e
  if (m.pass c now s).closes then { noted with notes := noted.notes.clearSamples } else noted

theorem rated_eq :
    (m.pass c now s).rated =
      Ledger.setTickRates (m.pass c now s).swept (m.pass c now s).sweep.seen m.previous
        (elapsedSince (m.previous.map (·.time)) now c.tick) :=
  rfl

theorem noted_eq : (m.pass c now s).noted = (m.pass c now s).watch.noteAll (m.pass c now s).rated :=
  rfl

theorem window_eq :
    (m.pass c now s).window =
      elapsedSince (some (m.windowStart.getD (now - c.interval))) now c.tick :=
  rfl

theorem closes_eq : (m.pass c now s).closes = closesWindow c (m.pass c now s).window := rfl

theorem reported_take :
    (m.take c now s).reported =
      if (m.pass c now s).closes then some (Ledger.mark (m.pass c now s).noted (m.ticks + 1) now)
      else m.reported :=
  rfl

theorem windowStart_take :
    (m.take c now s).windowStart =
      some (if (m.pass c now s).closes then now else m.windowStart.getD (now - c.interval)) :=
  rfl

theorem get?_rated :
    (m.pass c now s).rated.get? line =
      ((m.pass c now s).swept.get? line).map (m.rate c now s line) := by
  rw [rated_eq, Ledger.get?_setTickRates]
  unfold rate
  split
  · rfl
  · rw [Option.map_id']

theorem get?_noted :
    (m.pass c now s).noted.get? line =
      ((m.pass c now s).swept.get? line).map (m.rateAndNote c now s line) := by
  rw [noted_eq, Watch.noteAll, KeyMap.get?_map, get?_rated, Option.map_map]
  rfl

theorem get?_take :
    (m.take c now s).ledger.get? line =
      ((m.pass c now s).swept.get? line).map (m.finish c now s line) := by
  show (closed (m.pass c now s)).get? line = _
  unfold closed finish
  split
  · rw [KeyMap.get?_map, get?_noted, Option.map_map]
    rfl
  · exact m.get?_noted c now s line

theorem sameBooks_rate (e : Entry) : (m.rate c now s line e).SameBooks e := by
  unfold rate
  split
  · exact e.sameBooks_setTickRates ..
  · exact ⟨rfl, rfl, rfl, rfl⟩

theorem sameBooks_rateAndNote (e : Entry) : (m.rateAndNote c now s line e).SameBooks e :=
  (Entry.sameBooks_note ..).trans (m.sameBooks_rate c now s line e)

theorem sameBooks_finish (e : Entry) : (m.finish c now s line e).SameBooks e := by
  unfold finish
  split
  · exact (Entry.sameBooks_clearSamples _).trans (m.sameBooks_rateAndNote c now s line e)
  · exact m.sameBooks_rateAndNote c now s line e

/-- Noting silence and clearing samples leaves the records alone. -/
theorem records_finish (e : Entry) :
    (m.finish c now s line e).send = (m.rate c now s line e).send ∧
      (m.finish c now s line e).receive = (m.rate c now s line e).receive := by
  have hnoted : (m.rateAndNote c now s line e).send = (m.rate c now s line e).send ∧
      (m.rateAndNote c now s line e).receive = (m.rate c now s line e).receive := by
    rw [rateAndNote, Watch.note]
    split <;> exact ⟨rfl, rfl⟩
  rw [finish]
  split <;> exact hnoted

/-! ### Counters -/

theorem countersAt_noted :
    Ledger.countersAt (m.pass c now s).noted line = (m.pass c now s).swept.countersAt line := by
  rw [Ledger.countersAt, get?_noted, Option.map_map]
  exact Option.map_congr fun e _ ↦ (m.sameBooks_rateAndNote c now s line e).counters

/-- **A sample ends with the counters that the sweep found.** -/
theorem countersAt_take :
    (m.take c now s).ledger.countersAt line = (m.pass c now s).swept.countersAt line := by
  rw [Ledger.countersAt, get?_take, Option.map_map]
  exact Option.map_congr fun e _ ↦ (m.sameBooks_finish c now s line e).counters

/-- The mark of the previous sample holds the counters that the ledger still has. -/
def Coherent (m : Measurement) : Prop :=
  ∀ line, Mark.of? m.previous line = m.ledger.countersAt line

theorem coherent_initial (monitor : Monitor) : Coherent { monitor } := fun _ ↦ rfl

theorem coherent_take : (m.take c now s).Coherent := fun line ↦ Mark.of?_mark _ _ _ line

end Measurement

namespace Taking

variable {t : Taking} {c : Settings} {line : Line}

theorem get?_noted :
    (t.pass c).noted.get? line =
      ((t.pass c).swept.get? line).map
        (t.before.rateAndNote c t.sample.time t.sample.snapshot line) :=
  t.before.get?_noted ..

theorem get?_after :
    (t.after c).ledger.get? line =
      ((t.pass c).swept.get? line).map (t.before.finish c t.sample.time t.sample.snapshot line) :=
  t.before.get?_take ..

/-- A line that a sample sees is listed afterwards. -/
theorem exists_swept_of_seen (h : line ∈ (t.pass c).sweep.seen) :
    ∃ e, (t.pass c).swept.get? line = some e := by
  obtain ⟨r, hr, hconcerns⟩ := (t.before.mem_seen c _ _ line).1 h
  rw [pass, Measurement.get?_swept, hr, Option.elim_some, LineReport.update, if_pos hconcerns]
  exact ⟨_, rfl⟩

end Taking

/-- **Every sample finds the mark of the one before it in step with the ledger.** -/
theorem Meter.coherent_history {c : Settings} {d : Host} {monitor : Monitor} {m : Meter}
    (hm : Meter.new c d monitor = .ok m) (ops : List Op) :
    (∀ t ∈ m.history ops, t.before.Coherent) ∧ (m.run ops).measurement.Coherent := by
  obtain rfl := eq_of_new hm
  refine history_induction (P := fun ts before ↦ (∀ t ∈ ts, t.before.Coherent) ∧ before.Coherent)
    _ ⟨by simp, Measurement.coherent_initial monitor⟩ ?_ ?_ ops
  · rintro ts before status ⟨hall, hbefore⟩
    exact ⟨hall, hbefore⟩
  · rintro ts t ⟨hall, hbefore⟩
    refine ⟨fun t' ht' ↦ ?_, Measurement.coherent_take _ _ _ _⟩
    rcases List.mem_append.1 ht' with ht' | ht'
    · exact hall t' ht'
    · rw [List.mem_singleton.1 ht']
      exact hbefore

end MediaTelemetry
