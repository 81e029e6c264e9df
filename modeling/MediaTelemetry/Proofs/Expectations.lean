import MediaTelemetry.Proofs.Marks

/-!
# What is expected has no say in what is told

Which media are expected decides on remarks about silence and on nothing else. The two notes that
watching for silence leaves on a line are read by the watch alone, unless the monitor should look at
them, which the usual one does not (`Monitor.IgnoresSilence`). So a measurement without them, and
without expectations (`Measurement.unwatched`), tells the same of every sample (`told_unwatched`)
and stays the measurement without them (`unwatched_take`).

This is shown stage by stage: taking the notes away commutes with everything a sample does to an
entry, and whatever is read off an entry is read off the rest of it.
-/

namespace MediaTelemetry

/-- The map with both functions applied to each value in turn. -/
theorem KeyMap.map_map {α β γ δ : Type} [Ord α] (m : KeyMap α β) (f : α → β → γ)
    (g : α → γ → δ) : (m.map f).map g = m.map fun key value ↦ g key (f key value) := by
  simp only [map, List.map_map, Function.comp_def]

/-! ### Entries -/

namespace Entry

/-- The entry without the notes on its silence. -/
def unwatched (e : Entry) : Entry :=
  { e with notes := { e.notes with packetsSilent := false, framesSilent := false } }

variable (e : Entry) (line : Line) (report : List Fragment)

theorem unwatched_takeLocal :
    e.unwatched.takeLocal line report = (e.takeLocal line report).unwatched := by
  have hsources : ∀ sources : List MediaSource,
      sources.foldl takeSource e.unwatched = (sources.foldl takeSource e).unwatched :=
    fun _ ↦ List.foldl_hom unwatched fun _ _ ↦ rfl
  have hlayers : ∀ e : Entry, e.unwatched.takeLayers (Fragment.outbounds report) =
      (e.takeLayers (Fragment.outbounds report)).unwatched := by
    intro e
    rw [takeLayers, takeLayers]
    split <;> rfl
  rw [takeLocal, takeLocal]
  split
  · dsimp only
    rw [hsources, hlayers]
  · exact List.foldl_hom unwatched fun _ _ ↦ rfl

theorem unwatched_takeFar :
    e.unwatched.takeFar line report = (e.takeFar line report).unwatched := by
  rw [takeFar, takeFar]
  split
  · exact List.foldl_hom unwatched fun _ _ ↦ rfl
  · refine List.foldl_hom unwatched fun _ t ↦ ?_
    cases t <;> rfl

theorem unwatched_takeReport (tick : Nat) :
    e.unwatched.takeReport line report tick = (e.takeReport line report tick).unwatched := by
  rw [takeReport, unwatched_takeLocal, unwatched_takeFar]
  rfl

theorem unwatched_setTickRates (mark : Option Mark) (elapsed : Span) :
    e.unwatched.setTickRates line mark elapsed = (e.setTickRates line mark elapsed).unwatched := by
  rw [setTickRates, setTickRates]
  split <;> rfl

/-- All that watching a line does is to note its silence. -/
theorem unwatched_note (w : Watch) : (w.note line e).unwatched = e.unwatched := by
  rw [Watch.note]
  split <;> rfl

end Entry

theorem LineReport.update_unwatched (r : LineReport) (line : Line) (tick : Nat)
    (before : Option Entry) :
    r.update line tick (before.map Entry.unwatched) =
      (r.update line tick before).map Entry.unwatched := by
  have hannotate : ∀ e : Entry,
      ({ e.unwatched with notes := r.annotate e.unwatched.notes } : Entry) =
        ({ e with notes := r.annotate e.notes } : Entry).unwatched := by
    intro e
    cases r <;> rfl
  have hnew : (before.map Entry.unwatched).getD (.new line.direction) =
      (before.getD (.new line.direction)).unwatched := by
    cases before with
    | none => cases line.direction <;> rfl
    | some e => rfl
  rw [update, update, Option.map_map]
  split
  · rw [hnew, Entry.unwatched_takeReport]
    exact congrArg some (hannotate _)
  · rw [Option.map_map]
    exact Option.map_congr fun e _ ↦ hannotate e

/-! ### Ledgers -/

namespace Ledger

/-- The ledger without the notes on silence. -/
def unwatched (ledger : Ledger) : Ledger := ledger.map fun _ e ↦ e.unwatched

variable (ledger : Ledger)

theorem get?_unwatched (line : Line) :
    ledger.unwatched.get? line = (ledger.get? line).map Entry.unwatched :=
  KeyMap.get?_map ..

theorem unwatched_noteAll (w : Watch) : (w.noteAll ledger).unwatched = ledger.unwatched := by
  rw [unwatched, Watch.noteAll, KeyMap.map_map]
  simp only [Entry.unwatched_note]
  rfl

theorem mark_unwatched (tick time : Nat) :
    ledger.unwatched.mark tick time = ledger.mark tick time := by
  rw [mark, unwatched, KeyMap.map_map]
  rfl

theorem isLive_unwatched (mark : Option Mark) (now recency : Nat) (g : Group) :
    ledger.unwatched.isLive mark (fun _ e ↦ e.notes.isActiveAt now recency) g =
      ledger.isLive mark (fun _ e ↦ e.notes.isActiveAt now recency) g := by
  rw [isLive, unwatched, KeyMap.map, List.any_map]
  rfl

/-- What a sweep finds beside the figures of the lines does not come from the ledger. -/
theorem sweep_snd (ledger' : Ledger) (s : Snapshot) (tick : Nat) :
    (Ledger.sweep ledger s tick).2 = (Ledger.sweep ledger' s tick).2 := by
  have hadd : ∀ (l : List (Line × LineReport)) (state : Ledger × Sweep),
      (l.foldl (Sweep.step tick) state).2 =
        l.foldl (fun found r ↦ found.add r.1 r.2.report) state.2 := by
    intro l
    induction l with
    | nil => intro state; rfl
    | cons r rest ih => intro state; exact ih _
  rw [Ledger.sweep, Ledger.sweep, hadd, hadd]

end Ledger

/-! ### Monitors -/

namespace Monitor

/-- The monitor does not look at the notes on silence. -/
def IgnoresSilence (u : Monitor) : Prop :=
  ∀ state ledger r, u.judge state (Ledger.unwatched ledger) r = u.judge state ledger r

/-- The usual monitor looks at what is lost, and at no notes. -/
theorem ignoresSilence_threshold (l : Limits) (scores : Scores) :
    (threshold l scores).IgnoresSilence := by
  intro state ledger r
  have hindicators : Indicators.of (Ledger.unwatched ledger) r.1 r.2 = .of ledger r.1 r.2 := by
    rw [Indicators.of, Indicators.of, Ledger.get?_unwatched, Option.bind_map]
    rfl
  simp only [threshold, hindicators]

theorem IgnoresSilence.judgeAll_unwatched {u : Monitor} (h : u.IgnoresSilence) (ledger : Ledger)
    (reports : List FarReport) :
    u.judgeAll ledger.unwatched reports = u.judgeAll ledger reports := by
  induction reports generalizing u with
  | nil => rfl
  | cons r rest ih =>
    have hnext : u.next ledger.unwatched r = u.next ledger r := by rw [next, next, h]
    have hverdict : u.verdict? ledger.unwatched r = u.verdict? ledger r := by
      rw [verdict?, verdict?, h]
    have hrest : (u.next ledger r).IgnoresSilence := h
    rw [judgeAll, judgeAll, hnext, hverdict, ih hrest]

end Monitor

theorem Window.report_unwatched (w : Window) (ledger : Ledger) :
    w.report ledger.unwatched = w.report ledger := by
  have hmetadata : w.metadata ledger.unwatched = w.metadata ledger := by
    simp only [metadata, Ledger.peripheral, Ledger.get?_unwatched, Option.bind_map]
    rfl
  rw [report, report, hmetadata]
  simp only [Ledger.unwatched, KeyMap.map, List.filterMap_map]
  rfl

/-! ### Measurements -/

namespace Measurement

/-- The measurement without expectations and the notes on silence that they led to. -/
def unwatched (m : Measurement) : Measurement :=
  { m with ledger := m.ledger.unwatched, status := {} }

variable (m : Measurement) (c : Settings) (d : Host) (now : Nat) (s : Snapshot)

theorem sweep_unwatched : (m.unwatched.pass c now s).sweep = (m.pass c now s).sweep :=
  Ledger.sweep_snd ..

theorem swept_unwatched : (m.unwatched.pass c now s).swept = (m.pass c now s).swept.unwatched := by
  refine KeyMap.ext_get? fun line ↦ ?_
  rw [Ledger.get?_unwatched, get?_swept, get?_swept]
  show (s.at? line).elim (m.ledger.unwatched.get? line) (fun r ↦
    r.update line (m.ticks + 1) (m.ledger.unwatched.get? line)) = _
  rw [Ledger.get?_unwatched]
  cases s.at? line with
  | none => rfl
  | some r => exact r.update_unwatched ..

theorem judgeAll_unwatched (h : m.monitor.IgnoresSilence) :
    (m.unwatched.pass c now s).monitor = (m.pass c now s).monitor ∧
      (m.unwatched.pass c now s).verdicts = (m.pass c now s).verdicts := by
  have hjudge : m.monitor.judgeAll (m.unwatched.pass c now s).swept
        (m.unwatched.pass c now s).sweep.remoteReports =
      m.monitor.judgeAll (m.pass c now s).swept (m.pass c now s).sweep.remoteReports := by
    rw [swept_unwatched, sweep_unwatched, h.judgeAll_unwatched]
  exact ⟨congrArg Prod.fst hjudge, congrArg Prod.snd hjudge⟩

theorem rated_unwatched : (m.unwatched.pass c now s).rated = (m.pass c now s).rated.unwatched := by
  refine KeyMap.ext_get? fun line ↦ ?_
  have hrate : ∀ e : Entry, m.unwatched.rate c now s line e.unwatched =
      (m.rate c now s line e).unwatched := by
    intro e
    rw [rate, rate, sweep_unwatched]
    split
    · exact e.unwatched_setTickRates ..
    · rfl
  rw [Ledger.get?_unwatched, get?_rated, get?_rated, swept_unwatched, Ledger.get?_unwatched,
    Option.map_map, Option.map_map]
  exact Option.map_congr fun e _ ↦ hrate e

theorem noted_unwatched :
    (m.unwatched.pass c now s).noted.unwatched = (m.pass c now s).noted.unwatched := by
  rw [noted_eq, noted_eq, Ledger.unwatched_noteAll, Ledger.unwatched_noteAll, rated_unwatched]
  exact KeyMap.map_map ..

theorem live_unwatched : (m.unwatched.pass c now s).live = (m.pass c now s).live := by
  funext g
  show Ledger.isLive (m.unwatched.pass c now s).rated m.previous
      (fun _ e ↦ e.notes.isActiveAt now c.recency) g =
    Ledger.isLive (m.pass c now s).rated m.previous
      (fun _ e ↦ e.notes.isActiveAt now c.recency) g
  rw [rated_unwatched]
  exact Ledger.isLive_unwatched ..

theorem path_unwatched :
    (m.unwatched.pass c now s).address = (m.pass c now s).address ∧
      (m.unwatched.pass c now s).transport = (m.pass c now s).transport := by
  constructor
  · show ((m.unwatched.pass c now s).sweep.path.map (·.address)).getD m.address = _
    rw [sweep_unwatched]
    rfl
  · show ((m.unwatched.pass c now s).sweep.path.bind (·.transport)).getD m.transport = _
    rw [sweep_unwatched]
    rfl

/-- **Expectations have no say in what is told of a sample.** -/
theorem told_unwatched (h : m.monitor.IgnoresSilence) :
    m.unwatched.told c d now s = m.told c d now s := by
  have hwindow : m.unwatched.qualityWindow c d (m.unwatched.pass c now s) =
      m.qualityWindow c d (m.pass c now s) := by
    rw [qualityWindow, qualityWindow, (m.path_unwatched c now s).1, (m.path_unwatched c now s).2]
    rfl
  -- the two noted ledgers differ by notes on silence, which no report reads
  have hreport : ∀ w : Window,
      w.report (m.unwatched.pass c now s).noted = w.report (m.pass c now s).noted := by
    intro w
    rw [← Window.report_unwatched, noted_unwatched, Window.report_unwatched]
  rw [told, told, notices, notices, report?, report?, hwindow, hreport,
    (m.judgeAll_unwatched c now s h).2, live_unwatched]
  rfl

theorem closed_unwatched :
    (closed (m.unwatched.pass c now s)).unwatched = (closed (m.pass c now s)).unwatched := by
  -- clearing the samples of a window and taking the notes away commute
  have hclosed : ∀ p : Pass, (closed p).unwatched =
      if p.closes then
        p.noted.unwatched.map fun _ e ↦ { e with notes := e.notes.clearSamples }
      else p.noted.unwatched := by
    intro p
    rw [closed]
    split
    · rw [Ledger.unwatched, Ledger.unwatched, KeyMap.map_map, KeyMap.map_map]
      rfl
    · rfl
  rw [hclosed, hclosed, noted_unwatched]
  rfl

/-- Expectations have no say in what is left of a sample, but for notes on silence. -/
theorem unwatched_take (h : m.monitor.IgnoresSilence) :
    (m.unwatched.take c now s).unwatched = (m.take c now s).unwatched := by
  let p := m.pass c now s
  let p' := m.unwatched.pass c now s
  have hledger : (closed p').unwatched = (closed p).unwatched := m.closed_unwatched c now s
  have hprevious : (closed p').mark p'.tick p'.now = (closed p).mark p.tick p.now := by
    rw [← Ledger.mark_unwatched, hledger, Ledger.mark_unwatched]
    rfl
  have hreported : p'.noted.mark p'.tick p'.now = p.noted.mark p.tick p.now := by
    rw [← Ledger.mark_unwatched, noted_unwatched, Ledger.mark_unwatched]
    rfl
  have hlive : p'.live = p.live := m.live_unwatched c now s
  have hmonitor : p'.monitor = p.monitor := (m.judgeAll_unwatched c now s h).1
  obtain ⟨haddress, htransport⟩ : p'.address = p.address ∧ p'.transport = p.transport :=
    m.path_unwatched c now s
  show (m.unwatched.after p').unwatched = (m.after p).unwatched
  simp only [after, unwatched, hledger, hprevious, hreported, hlive, hmonitor, haddress, htransport]
  rfl

end Measurement

end MediaTelemetry
