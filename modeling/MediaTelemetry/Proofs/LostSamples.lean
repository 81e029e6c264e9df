import Mathlib.Data.List.InsertIdx
import MediaTelemetry.Proofs.Complete
import MediaTelemetry.Proofs.Listing

/-!
# A lost sample costs resolution, never totals

Two meters take samples of the same call, in which the same lines are always carried and counted
completely (`Snapshot.Carries`); the second misses some samples, but none at which the first reports
a quality window. Then both report at the same samples, and what their reports have from counters
and from the clock is the same (`reports_of_lost_samples`).

The two runs differ in almost everything that a sample leaves: its number, the mark of the previous
sample, rates, states of groups, notes of silence. What a window's figures are made of is less:

* the start of the window, which only its first sample and a report set;
* the counters at that start, which are those of the sample that set it (`counters_takeReport`);
* that each line was seen since, which holds at every sample that carries it.

`SameWindow` keeps exactly these. A sample that both take keeps it, and so does a sample that only
the first takes inside a window. That samples can go missing at all, in any pattern, is
`Meter.Lags.exists_losesAnswers`: what a meter asks for does not depend on the answers.
-/

namespace MediaTelemetry

/-! ### What reports have from counters -/

/-- The figures that come from counters, all others blanked. -/
def CommonFigures.counted (f : CommonFigures) : CommonFigures :=
  { f with transport := default, ssrc := none, roundTrip := (0, 0), jitter := (0, 0) }

/-- The figures that come from counters, all others blanked. -/
def TransmitFigures.counted (f : TransmitFigures) : TransmitFigures :=
  { f with
    frameWidth := 0
    frameHeight := 0
    frameSize := 0
    requestedBitrate := 0
    requestedFrameSize := 0
    trackLabel := none }

/-- The figures that come from counters, all others blanked. -/
def ReceiveFigures.counted (f : ReceiveFigures) : ReceiveFigures :=
  { f with
    frameWidth := 0
    frameHeight := 0
    frameSize := 0
    activeSpeaker := false
    requestedBitrate := 0 }

/-- The line of an entry and its figures that come from counters. -/
def QualityEntry.counted {φ : Type} (blank : φ → φ) (q : QualityEntry φ) : QualityEntry φ :=
  { q with common := q.common.counted, stream := blank q.stream }

/-- The lines listed and their figures that come from counters, with the length of the window. -/
def QualityReport.counted (r : QualityReport) : QualityReport where
  metadata := { (default : QualityMetadata) with seconds := r.metadata.seconds }
  audioTransmit := r.audioTransmit.map (·.counted TransmitFigures.counted)
  audioReceive := r.audioReceive.map (·.counted ReceiveFigures.counted)
  videoTransmit := r.videoTransmit.map (·.counted TransmitFigures.counted)
  videoReceive := r.videoReceive.map (·.counted ReceiveFigures.counted)

namespace Window

variable {w w' : Window} {line : Line} {e e' : Entry}

/-- Two windows that end on a line with the same counters, requested alike. -/
structure Agree (w w' : Window) (line : Line) (e e' : Entry) : Prop where
  span : w'.span = w.span
  start : Mark.of? w'.start line = Mark.of? w.start line
  lists : w'.lists e' = w.lists e
  counters : e'.counters = e.counters
  own : e.IsOf line.direction
  own' : e'.IsOf line.direction

theorem Agree.growth (h : Agree w w' line e e') :
    e'.growth line w'.start = e.growth line w.start := by
  rw [Entry.growth, Entry.growth, h.counters, h.start]

theorem Agree.rates (h : Agree w w' line e e') : w'.rates line e' = w.rates line e := by
  rw [Window.rates, Window.rates, h.growth, h.span]

theorem Agree.transmit (h : Agree w w' line e e') (audio : Bool) :
    (w'.transmit? audio (line, e')).map (·.counted TransmitFigures.counted) =
      (w.transmit? audio (line, e)).map (·.counted TransmitFigures.counted) := by
  rw [transmit?, transmit?, h.lists]
  split
  · rename_i hlisted
    have hd : line.direction = .send := by
      rw [Bool.and_eq_true, Bool.and_eq_true] at hlisted
      exact beq_iff_eq.1 hlisted.1.1
    have hown := h.own
    have hown' := h.own'
    rw [hd] at hown hown'
    obtain ⟨s, hs⟩ := Option.isSome_iff_exists.1 hown.1
    obtain ⟨s', hs'⟩ := Option.isSome_iff_exists.1 hown'.1
    rw [hs, hs', Option.map_some, Option.map_some, Option.map_some, Option.map_some]
    simp only [QualityEntry.counted, transmitEntry, common, CommonFigures.counted,
      TransmitFigures.counted, h.rates, h.growth]
  · rfl

theorem Agree.receive (h : Agree w w' line e e') (audio : Bool) :
    (w'.receive? audio (line, e')).map (·.counted ReceiveFigures.counted) =
      (w.receive? audio (line, e)).map (·.counted ReceiveFigures.counted) := by
  rw [receive?, receive?, h.lists]
  split
  · rename_i hlisted
    have hd : line.direction = .receive := by
      rw [Bool.and_eq_true, Bool.and_eq_true, Line.isSend] at hlisted
      cases hd : line.direction with
      | send => rw [hd] at hlisted; exact absurd hlisted.1.1 (by decide)
      | receive => rfl
    have hown := h.own
    have hown' := h.own'
    rw [hd] at hown hown'
    obtain ⟨r, hr⟩ := Option.isSome_iff_exists.1 hown.2
    obtain ⟨r', hr'⟩ := Option.isSome_iff_exists.1 hown'.2
    rw [hr, hr', Option.map_some, Option.map_some, Option.map_some, Option.map_some]
    simp only [QualityEntry.counted, receiveEntry, common, CommonFigures.counted,
      ReceiveFigures.counted, h.rates, h.growth]
  · rfl

/-- Windows that agree on every line listed by either ledger have reports that agree on what comes
from counters. -/
theorem counted_report {ledger ledger' : Ledger} (hspan : w'.span = w.span)
    (hlines : ∀ line, (ledger.get? line = none ∧ ledger'.get? line = none) ∨
      ∃ e e', ledger.get? line = some e ∧ ledger'.get? line = some e' ∧ Agree w w' line e e') :
    (w'.report ledger').counted = (w.report ledger).counted := by
  have hwalk : ∀ {φ : Type} (f g : Line × Entry → Option φ),
      (∀ line e e', Agree w w' line e e' → f (line, e') = g (line, e)) →
        ledger'.entries.filterMap f = ledger.entries.filterMap g := by
    intro φ f g hfg
    refine KeyMap.filterMap_entries_congr (f := fun l e ↦ f (l, e)) (g := fun l e ↦ g (l, e))
      fun line ↦ ?_
    rcases hlines line with ⟨h, h'⟩ | ⟨e, e', h, h', hagree⟩
    · rw [h, h']
      rfl
    · rw [h, h', Option.map_some, Option.map_some, hfg line e e' hagree]
  have htransmit : ∀ audio,
      (ledger'.entries.filterMap (w'.transmit? audio)).map (·.counted TransmitFigures.counted) =
        (ledger.entries.filterMap (w.transmit? audio)).map (·.counted TransmitFigures.counted) := by
    intro audio
    rw [List.map_filterMap, List.map_filterMap]
    exact hwalk _ _ fun _ _ _ h ↦ h.transmit audio
  have hreceive : ∀ audio,
      (ledger'.entries.filterMap (w'.receive? audio)).map (·.counted ReceiveFigures.counted) =
        (ledger.entries.filterMap (w.receive? audio)).map (·.counted ReceiveFigures.counted) := by
    intro audio
    rw [List.map_filterMap, List.map_filterMap]
    exact hwalk _ _ fun _ _ _ h ↦ h.receive audio
  simp only [QualityReport.counted, report, metadata, htransmit, hreceive, hspan]

end Window

/-! ### One sample -/

/-- The snapshot carries the given lines and gives every counter of each. -/
structure Snapshot.Carries (s : Snapshot) (lines : List Line) : Prop where
  lines : s.lines.map (·.1) = lines
  complete : ∀ r ∈ s.lines, r.2.IsComplete r.1

namespace Snapshot.Carries

variable {s : Snapshot} {lines : List Line} {line : Line}

theorem at?_of_mem (h : s.Carries lines) (hline : line ∈ lines) :
    ∃ r, s.at? line = some r ∧ r.IsComplete line := by
  rw [← h.lines] at hline
  obtain ⟨⟨line, r⟩, hr, rfl⟩ := List.mem_map.1 hline
  exact ⟨r, mem_lines_iff.1 hr, h.complete _ hr⟩

theorem at?_of_not_mem (h : s.Carries lines) (hline : line ∉ lines) : s.at? line = none := by
  cases hr : s.at? line with
  | none => rfl
  | some r =>
    rw [← h.lines] at hline
    exact absurd (List.mem_map.2 ⟨_, mem_lines_iff.2 hr, rfl⟩) hline

end Snapshot.Carries

/-- The entry is as a complete report leaves it at sample `tick`, whatever was known before. -/
structure Entry.SetBy (e : Entry) (r : LineReport) (line : Line) (tick : Nat) : Prop where
  own : e.IsOf line.direction
  counters : e.counters = ((Entry.new line.direction).takeReport line r.report 0).counters
  lastSeen : e.notes.lastSeen = tick
  requested : e.notes.requested = (r.annotate {}).requested
  requestedAt : e.notes.requestedAt = (r.annotate {}).requestedAt

/-- What a run of samples that carry the same lines keeps: only these are listed, and the last
reported window ended at a sample that has been taken. -/
structure Measurement.Follows (m : Measurement) (lines : List Line) : Prop where
  own : m.OwnRecords
  listed : ∀ line, line ∉ lines → m.ledger.get? line = none
  reported : m.ReportedAtSample

namespace Measurement.Follows

variable {m : Measurement} {lines : List Line} {c : Settings} {now : Nat} {s : Snapshot}
  {line : Line}

theorem swept_of_mem (h : m.Follows lines) {r : LineReport} (hr : s.at? line = some r)
    (hcomplete : r.IsComplete line) :
    ∃ e, (m.pass c now s).swept.get? line = some e ∧ e.SetBy r line (m.ticks + 1) := by
  have hbefore : ((m.ledger.get? line).getD (.new line.direction)).IsOf line.direction := by
    cases he : m.ledger.get? line with
    | none => exact Entry.isOf_new _
    | some e => exact h.own line e he
  let e := ((m.ledger.get? line).getD (.new line.direction)).takeReport line r.report (m.ticks + 1)
  have hswept : (m.pass c now s).swept.get? line =
      some { e with notes := r.annotate e.notes } := by
    rw [get?_swept, hr, Option.elim_some, LineReport.update, if_pos hcomplete.concerns,
      Option.map_some]
  refine ⟨_, hswept, (hbefore.takeReport r.report (m.ticks + 1)).notes _, ?_, ?_, ?_, ?_⟩
  · exact LineReport.counters_takeReport hcomplete hbefore (Entry.isOf_new _) (m.ticks + 1) 0
  · cases r <;> rfl
  · cases r <;> rfl
  · cases r <;> rfl

/-- After the sample a line that is carried is as its report leaves it. -/
theorem noted_of_mem (h : m.Follows lines) {r : LineReport} (hr : s.at? line = some r)
    (hcomplete : r.IsComplete line) :
    ∃ e, (m.pass c now s).noted.get? line = some e ∧ e.SetBy r line (m.ticks + 1) := by
  obtain ⟨e, he, hset⟩ : ∃ e, (m.pass c now s).swept.get? line = some e ∧
      e.SetBy r line (m.ticks + 1) :=
    h.swept_of_mem hr hcomplete
  have hnoted : (m.pass c now s).noted.get? line = some (m.rateAndNote c now s line e) := by
    rw [get?_noted, he, Option.map_some]
  have hbooks := m.sameBooks_rateAndNote c now s line e
  exact ⟨_, hnoted, h.own.rateAndNote _ hnoted, hbooks.counters.trans hset.counters,
    hbooks.lastSeen.trans hset.lastSeen, hbooks.requested.trans hset.requested,
    hbooks.requestedAt.trans hset.requestedAt⟩

theorem noted_of_not_mem (h : m.Follows lines) (hs : s.Carries lines) (hline : line ∉ lines) :
    (m.pass c now s).noted.get? line = none := by
  rw [get?_noted, get?_swept, hs.at?_of_not_mem hline, Option.elim_none, h.listed line hline,
    Option.map_none]

/-- A line seen at the closing sample is listed if it is requested. -/
theorem lists_of_setBy {d : Host} {e : Entry} {r : LineReport} (h : m.Follows lines)
    (hset : e.SetBy r line (m.ticks + 1)) :
    (m.qualityWindow c d (m.pass c now s)).lists e = e.notes.isRequestedAt now c.recency := by
  -- the last window ended at an earlier sample than this
  have hmisses : (m.qualityWindow c d (m.pass c now s)).misses e = false := by
    show m.reported.any (fun mark ↦ e.notes.lastSeen ≤ mark.tick) = false
    rw [Option.any_eq_false]
    intro mark hmark
    have htick := h.reported mark hmark
    have hseen := hset.lastSeen
    rw [decide_eq_false_iff_not]
    omega
  rw [Window.lists, hmisses]
  rfl

theorem take (h : m.Follows lines) (hs : s.Carries lines) : (m.take c now s).Follows lines where
  own := h.own.take
  listed line hline := by
    rw [get?_take, get?_swept, hs.at?_of_not_mem hline, Option.elim_none, h.listed line hline,
      Option.map_none]
  reported := h.reported.take

end Measurement.Follows

/-! ### Two runs -/

/-- Two measurements stand in the same quality window. -/
structure SameWindow (lines : List Line) (m m' : Measurement) : Prop where
  follows : m.Follows lines
  follows' : m'.Follows lines
  windowStart : m'.windowStart = m.windowStart
  marks : ∀ line, Mark.of? m'.reported line = Mark.of? m.reported line

namespace SameWindow

variable {lines : List Line} {m m' : Measurement} {c : Settings} {d : Host} {now : Nat}
  {s : Snapshot}

theorem initial (lines : List Line) (monitor : Monitor) :
    SameWindow lines { monitor } { monitor } := by
  have hfollows : Measurement.Follows { monitor } lines :=
    ⟨fun _ _ h ↦ absurd h (by simp), fun _ _ ↦ rfl, fun _ h ↦ absurd h (by simp)⟩
  exact ⟨hfollows, hfollows, rfl, fun _ ↦ rfl⟩

theorem expect (h : SameWindow lines m m') (status status' : Status) :
    SameWindow lines { m with status } { m' with status := status' } where
  follows := ⟨h.follows.own, h.follows.listed, h.follows.reported⟩
  follows' := ⟨h.follows'.own, h.follows'.listed, h.follows'.reported⟩
  windowStart := h.windowStart
  marks := h.marks

theorem window (h : SameWindow lines m m') :
    (m'.pass c now s).window = (m.pass c now s).window := by
  rw [Measurement.window_eq, Measurement.window_eq, h.windowStart]

theorem closes (h : SameWindow lines m m') :
    (m'.pass c now s).closes = (m.pass c now s).closes := by
  rw [Measurement.closes_eq, Measurement.closes_eq, h.window]

/-- A sample that both take leaves both ledgers with the same counters. -/
theorem noted (h : SameWindow lines m m') (d : Host) (hs : s.Carries lines) (line : Line) :
    ((m.pass c now s).noted.get? line = none ∧ (m'.pass c now s).noted.get? line = none) ∨
      ∃ e e', (m.pass c now s).noted.get? line = some e ∧
        (m'.pass c now s).noted.get? line = some e' ∧
        (m.qualityWindow c d (m.pass c now s)).Agree
          (m'.qualityWindow c d (m'.pass c now s)) line e e' := by
  by_cases hline : line ∈ lines
  · obtain ⟨r, hr, hcomplete⟩ := hs.at?_of_mem hline
    obtain ⟨e, he, hset⟩ : ∃ e, (m.pass c now s).noted.get? line = some e ∧
        e.SetBy r line (m.ticks + 1) := h.follows.noted_of_mem hr hcomplete
    obtain ⟨e', he', hset'⟩ : ∃ e', (m'.pass c now s).noted.get? line = some e' ∧
        e'.SetBy r line (m'.ticks + 1) := h.follows'.noted_of_mem hr hcomplete
    have hwindow : (m'.pass c now s).window = (m.pass c now s).window := h.window
    refine .inr ⟨e, e', he, he', hwindow, h.marks line, ?_, ?_, hset.own, hset'.own⟩
    · rw [h.follows.lists_of_setBy hset, h.follows'.lists_of_setBy hset', Notes.isRequestedAt,
        Notes.isRequestedAt, Notes.requestedRecently, Notes.requestedRecently, hset.requested,
        hset'.requested, hset.requestedAt, hset'.requestedAt]
    · rw [hset.counters, hset'.counters]
  · exact .inl ⟨h.follows.noted_of_not_mem hs hline, h.follows'.noted_of_not_mem hs hline⟩

/-- What two reports of the same sample have from counters is the same. -/
theorem report (h : SameWindow lines m m') (hs : s.Carries lines) :
    ((m'.qualityWindow c d (m'.pass c now s)).report (m'.pass c now s).noted).counted =
      ((m.qualityWindow c d (m.pass c now s)).report (m.pass c now s).noted).counted := by
  have hwindow : (m'.pass c now s).window = (m.pass c now s).window := h.window
  exact Window.counted_report hwindow (h.noted d hs)

/-- **A sample that both take** leaves them in the same window again. -/
theorem take (h : SameWindow lines m m') (hs : s.Carries lines) :
    SameWindow lines (m.take c now s) (m'.take c now s) where
  follows := h.follows.take hs
  follows' := h.follows'.take hs
  windowStart := by
    rw [Measurement.windowStart_take, Measurement.windowStart_take, h.closes, h.windowStart]
  marks line := by
    rw [Measurement.reported_take, Measurement.reported_take, h.closes]
    split
    · rw [Mark.of?_mark, Mark.of?_mark, Ledger.countersAt, Ledger.countersAt]
      rcases h.noted {} hs line with ⟨he, he'⟩ | ⟨e, e', he, he', hagree⟩
      · rw [he, he']
      · rw [he, he', Option.map_some, Option.map_some, hagree.counters]
    · exact h.marks line

/-- **A sample that only the first takes**, inside a window, leaves them in the same window. -/
theorem lose (h : SameWindow lines m m') (hs : s.Carries lines) (hopen : m.windowStart.isSome)
    (hcloses : (m.pass c now s).closes = false) : SameWindow lines (m.take c now s) m' where
  follows := h.follows.take hs
  follows' := h.follows'
  windowStart := by
    obtain ⟨start, hstart⟩ := Option.isSome_iff_exists.1 hopen
    rw [Measurement.windowStart_take, hcloses, h.windowStart, hstart]
    rfl
  marks line := by
    rw [Measurement.reported_take, hcloses]
    exact h.marks line

end SameWindow

namespace Taking

variable {lines : List Line} {c : Settings} {t t' : Taking}

/-- **A sample that both take** leaves them in the same window again, and tells reports that agree
on what comes from counters. -/
theorem both_take (h : SameWindow lines t.before t'.before)
    (hs : t.sample.snapshot.Carries lines) (htime : t'.sample.time = t.sample.time)
    (hsnapshot : t'.sample.snapshot = t.sample.snapshot) (d : Host) :
    SameWindow lines (t.after c) (t'.after c) ∧
      (t'.reports c d).map QualityReport.counted = (t.reports c d).map QualityReport.counted := by
  have hpass : t'.pass c = t'.before.pass c t.sample.time t.sample.snapshot := by
    rw [pass, htime, hsnapshot]
  have hafter : t'.after c = t'.before.take c t.sample.time t.sample.snapshot := by
    rw [after, htime, hsnapshot]
  have hcloses : (t'.pass c).closes = (t.pass c).closes := by
    rw [hpass]
    exact h.closes
  constructor
  · rw [hafter]
    exact h.take hs
  · rw [reports_eq, reports_eq, hcloses]
    split
    · rw [List.map_singleton, List.map_singleton, hpass]
      exact congrArg List.singleton (h.report hs)
    · rfl

end Taking

/-- **Two runs**, of which the second misses samples inside windows, tell reports that agree on what
comes from counters. -/
theorem counted_reports_of_chain {c : Settings} {lines : List Line} {full kept : List Taking}
    (hkept : kept.Sublist full) (d : Host) :
    ∀ {m m' : Measurement} {thinned : List Taking}, SameWindow lines m m' →
      m.windowStart.isSome ∨ kept.head? = full.head? → Chain c m full → Chain c m' thinned →
      thinned.map (fun t ↦ (t.sample.time, t.sample.snapshot)) =
        kept.map (fun t ↦ (t.sample.time, t.sample.snapshot)) →
      (∀ t ∈ full, t.sample.snapshot.Carries lines) → full.Nodup →
      (∀ t ∈ full, (t.pass c).closes = true → t ∈ kept) →
      thinned.map (fun t ↦ (t.reports c d).map QualityReport.counted) =
        kept.map (fun t ↦ (t.reports c d).map QualityReport.counted) := by
  induction hkept with
  | slnil =>
    intro m m' thinned _ _ _ _ hsame _ _ _
    rw [List.map_nil, List.map_eq_nil_iff] at hsame
    rw [hsame]
  | @cons kept full t hkept ih =>
    -- only the first run takes `t`, so it closes no window
    intro m m' thinned h hopen hfull hthinned hsame hcarries hnodup hclosing
    obtain ⟨ht, hnodup⟩ := List.nodup_cons.1 hnodup
    have hlost : (t.pass c).closes = false := by
      rw [Bool.eq_false_iff]
      exact fun hcloses ↦ ht (hkept.subset (hclosing t List.mem_cons_self hcloses))
    obtain ⟨⟨status, hfound⟩, hrest⟩ := hfull.of_cons
    have hbefore : SameWindow lines t.before m' := by
      rw [hfound]
      exact h.expect status m'.status
    have hopened : t.before.windowStart.isSome := by
      rw [hfound]
      exact hopen.resolve_right fun hhead ↦ ht (hkept.subset (List.mem_of_head? hhead))
    have hlose := hbefore.lose (hcarries t List.mem_cons_self) hopened hlost
    exact ih hlose (.inl rfl) hrest hthinned hsame
      (fun u hu ↦ hcarries u (List.mem_cons_of_mem _ hu)) hnodup
      fun u hu ↦ hclosing u (List.mem_cons_of_mem _ hu)
  | @cons_cons kept full t hkept ih =>
    -- both take `t`
    intro m m' thinned h hopen hfull hthinned hsame hcarries hnodup hclosing
    obtain ⟨ht, hnodup⟩ := List.nodup_cons.1 hnodup
    obtain ⟨t', thinned, rfl, htsame, hsame⟩ := List.map_eq_cons_iff.1 hsame
    obtain ⟨htime, hsnapshot⟩ := Prod.mk.inj htsame
    obtain ⟨⟨status, hfound⟩, hrest⟩ := hfull.of_cons
    obtain ⟨⟨status', hfound'⟩, hrest'⟩ := hthinned.of_cons
    have hbefore : SameWindow lines t.before t'.before := by
      rw [hfound, hfound']
      exact h.expect status status'
    obtain ⟨hafter, hreports⟩ :=
      Taking.both_take (c := c) hbefore (hcarries t List.mem_cons_self) htime hsnapshot d
    rw [List.map_cons, List.map_cons, hreports]
    congr 1
    refine ih hafter (.inl rfl) hrest hrest' hsame
      (fun u hu ↦ hcarries u (List.mem_cons_of_mem _ hu)) hnodup fun u hu hcloses ↦ ?_
    rcases List.mem_cons.1 (hclosing u (List.mem_cons_of_mem _ hu) hcloses) with rfl | hmem
    · exact absurd hu ht
    · exact hmem

/-! ### Losing answers -/

namespace Meter

/-- The second operations are the first without some samples. -/
inductive LosesAnswers : List Op → List Op → Prop
  | nil : LosesAnswers [] []
  | keep {ops ops' : List Op} (op : Op) (rest : LosesAnswers ops ops') :
      LosesAnswers (op :: ops) (op :: ops')
  | lose {ops ops' : List Op} (s : Sample) (rest : LosesAnswers ops ops') :
      LosesAnswers (.read s :: ops) ops'

/-- Both meters ask for the same samples, and the second accepts all that the first does. -/
structure Lags (m m' : Meter) : Prop where
  settings : m'.settings = m.settings
  schedule : m'.schedule = m.schedule
  inOrder : ∀ r, m.isInOrder r = true → m'.isInOrder r = true

namespace Lags

variable {m m' : Meter} {s : Sample}

theorem accepts (h : Lags m m') {r : Request} (hr : m.accepts r = true) :
    m'.accepts r = true := by
  obtain ⟨hcurrent, hinOrder⟩ := Bool.and_eq_true_iff.1 hr
  rw [isCurrent, isRunning, ← h.schedule] at hcurrent
  exact Bool.and_eq_true_iff.2 ⟨hcurrent, h.inOrder r hinOrder⟩

theorem scheduled (h : Lags m m') (outcome : Except Fault Schedule) :
    Lags (m.scheduled outcome) (m'.scheduled outcome) := by
  cases outcome with
  | ok schedule => exact ⟨h.settings, rfl, h.inOrder⟩
  | error fault => exact h

/-- An operation other than a sample does the same to both. -/
theorem step (h : Lags m m') {op : Op} (hop : ∀ s, op ≠ .read s) :
    Lags (m.step op) (m'.step op) := by
  cases op with
  | start now => rw [Meter.step, Meter.step, h.schedule]; exact h.scheduled _
  | stop => rw [Meter.step, Meter.step, h.schedule]; exact h.scheduled _
  | close => exact ⟨h.settings, congrArg Schedule.close h.schedule, h.inOrder⟩
  | command c =>
    cases c with
    | expect status => exact ⟨h.settings, h.schedule, h.inOrder⟩
    | stop => rw [Meter.step, Meter.step, h.schedule]; exact h.scheduled _
  | expect status => exact ⟨h.settings, h.schedule, h.inOrder⟩
  | timeout now =>
    refine ⟨h.settings, ?_, h.inOrder⟩
    rw [Meter.step, Meter.step, h.schedule, h.settings]
  | nextRequest => exact ⟨h.settings, congrArg Schedule.handOut h.schedule, h.inOrder⟩
  | read s => exact absurd rfl (hop s)
  | nextNotice => exact ⟨h.settings, h.schedule, h.inOrder⟩

/-- A sample that both take puts them level. -/
theorem take (h : Lags m m') (hs : m.accepts s.request = true) :
    Lags (m.step (.read s)) (m'.step (.read s)) := by
  rw [Meter.step, Meter.step, read, read, if_pos hs, if_pos (h.accepts hs)]
  exact ⟨h.settings, h.schedule, fun r hr ↦ hr⟩

/-- A sample that only the first takes lets the second accept no less: it comes after all that the
first took before. -/
theorem lose (h : Lags m m') (hs : m.accepts s.request = true) :
    Lags (m.step (.read s)) m' := by
  rw [Meter.step, read, if_pos hs]
  refine ⟨h.settings, h.schedule, fun r hr ↦ h.inOrder r ?_⟩
  -- the sample came after all that the first had taken, and `r` is to come after the sample
  have hlate : s.request.number < r.number := by
    simpa [isInOrder] using hr
  have htaken := (Bool.and_eq_true_iff.1 hs).2
  rw [isInOrder] at htaken ⊢
  cases hlast : m.lastTaken with
  | none => rfl
  | some last =>
    rw [hlast, Option.all_some, decide_eq_true_eq] at htaken
    rw [Option.all_some, decide_eq_true_eq]
    exact Nat.lt_trans htaken hlate

/-- **Any samples can be lost**: whichever of the samples taken are kept, they are the samples taken
when the answers to all other requests are lost. -/
theorem exists_losesAnswers (h : Lags m m') {ops : List Op} {kept : List Taking}
    (hkept : kept.Sublist (m.history ops)) :
    ∃ ops', LosesAnswers ops ops' ∧
      (m'.history ops').map (·.sample) = kept.map (·.sample) := by
  induction ops generalizing m m' kept with
  | nil =>
    obtain rfl := List.sublist_nil.1 hkept
    exact ⟨[], .nil, rfl⟩
  | cons op rest ih =>
    rw [history] at hkept
    cases hop : m.taking? op with
    | some t =>
      obtain ⟨rfl, -, haccepts⟩ := taking?_eq_some_iff.1 hop
      rw [hop, Option.toList_some, List.singleton_append] at hkept
      cases hkept with
      | cons _ hkept =>
        -- `t` is not kept: its answer is lost
        obtain ⟨ops', hloses, hsamples⟩ := ih (h.lose haccepts) hkept
        exact ⟨ops', hloses.lose _, hsamples⟩
      | cons_cons _ hkept =>
        -- `t` is kept, and the second still accepts it
        obtain ⟨ops', hloses, hsamples⟩ := ih (h.take haccepts) hkept
        refine ⟨.read t.sample :: ops', hloses.keep _, ?_⟩
        rw [history, taking?, if_pos (h.accepts haccepts), Option.toList_some,
          List.singleton_append, List.map_cons, List.map_cons, hsamples]
    | none =>
      rw [hop, Option.toList_none, List.nil_append] at hkept
      by_cases hread : ∃ s, op = .read s
      · -- a sample that the first rejects is lost, as the second might take it
        obtain ⟨s, rfl⟩ := hread
        have hrejects : ¬ m.accepts s.request = true := fun hs ↦ by simp [taking?, hs] at hop
        rw [Meter.step, read, if_neg hrejects] at hkept
        obtain ⟨ops', hloses, hsamples⟩ := ih h hkept
        exact ⟨ops', hloses.lose s, hsamples⟩
      · have hother : ∀ s, op ≠ .read s := fun s hs ↦ hread ⟨s, hs⟩
        obtain ⟨ops', hloses, hsamples⟩ := ih (h.step hother) hkept
        refine ⟨op :: ops', hloses.keep op, ?_⟩
        have hnone : m'.taking? op = none := by
          cases op with
          | read s => exact absurd rfl (hother s)
          | _ => rfl
        rw [history, hnone, Option.toList_none, List.nil_append, hsamples]

end Lags

end Meter

namespace Meter

variable {c : Settings} {d : Host} {monitor : Monitor} {m : Meter}

/-- **A lost sample costs resolution, never totals.** Let the samples that a new meter takes during
some operations all carry the same lines and count them completely. Keep some of these, with the
first and with all at which a quality report was told. Then the meter can lose the answers that
bring the others; and whenever it takes the samples kept and no others, it tells quality reports at
the same samples as before, which list the same lines and agree on all that comes from counters and
on the length of the window. -/
theorem reports_of_lost_samples (hm : Meter.new c d monitor = .ok m) {ops : List Op}
    {kept : List Taking} {lines : List Line}
    (hcarries : ∀ t ∈ m.history ops, t.sample.snapshot.Carries lines)
    (hkept : kept.Sublist (m.history ops)) (hfirst : kept.head? = (m.history ops).head?)
    (hreports : ∀ t ∈ m.history ops, t.reports c d ≠ [] → t ∈ kept) :
    (∃ ops', LosesAnswers ops ops' ∧
      (m.history ops').map (·.sample) = kept.map (·.sample)) ∧
    ∀ ops', (m.history ops').map (fun t ↦ (t.sample.time, t.sample.snapshot)) =
        kept.map (fun t ↦ (t.sample.time, t.sample.snapshot)) →
      (m.history ops').map (fun t ↦ (t.reports c d).map QualityReport.counted) =
        kept.map fun t ↦ (t.reports c d).map QualityReport.counted := by
  refine ⟨Lags.exists_losesAnswers ⟨rfl, rfl, fun _ h ↦ h⟩ hkept, fun ops' hsame ↦ ?_⟩
  have hchain := chain_history m ops
  have hchain' := chain_history m ops'
  rw [settings_of_new hm, measurement_of_new hm] at hchain hchain'
  refine counted_reports_of_chain hkept d (.initial lines monitor) (.inr hfirst) hchain hchain'
    hsame hcarries (history_nodup m ops) fun t ht hcloses ↦ hreports t ht ?_
  rw [Taking.reports_eq, if_pos hcloses]
  exact List.cons_ne_nil _ _

/-- A microphone is sampled four times, in two quality windows. It sends nine packets in the first.
In the second its counter starts anew and comes to three; the sample before that is lost. -/
theorem reports_without_third_sample :
    let c : Settings := { interval := 2000, qualityInterval := 4000 }
    let m : Meter := { settings := c, host := {} }
    let sent (n : UInt64) (lost : Int64) : Snapshot :=
      { audio := { senders := [{ requested := some true, report := [
        .outboundRtp {
          packetsSent := some n, bytesSent := some (100 * n), framesSent := some 0,
          keyFramesEncoded := some 0, nackCount := some 0, pliCount := some 0 },
        .remoteInboundRtp { packetsLost := some lost }] }] } }
    let asked (now : Nat) : List Op := [.timeout now, .nextRequest]
    let firstWindow : List Op := .start 0 ::
      asked 0 ++ [.read ⟨⟨1, 0⟩, 2000, sent 5 0⟩] ++
      asked 2000 ++ [.read ⟨⟨1, 1⟩, 4000, sent 9 1⟩]
    let ops := firstWindow ++ asked 4000 ++ [.read ⟨⟨1, 2⟩, 6000, sent 14 2⟩] ++
      asked 6000 ++ [.read ⟨⟨1, 3⟩, 8000, sent 3 3⟩]
    let ops' := firstWindow ++ asked 4000 ++ asked 6000 ++ [.read ⟨⟨1, 3⟩, 8000, sent 3 3⟩]
    let kept := (m.history ops).eraseIdx 2
    let counted (ts : List Taking) := ts.map fun t ↦ (t.reports c {}).map QualityReport.counted
    let figures (rs : List QualityReport) := rs.flatMap fun r ↦ r.audioTransmit.map fun q ↦
      (q.line, q.common.rates.packets, q.common.rates.lost, q.common.rates.bitrate)
    Meter.new c {} = .ok m ∧
      (∀ t ∈ m.history ops, t.sample.snapshot.Carries [.send .audio 0]) ∧
      kept.Sublist (m.history ops) ∧ kept.head? = (m.history ops).head? ∧
      (∀ t ∈ m.history ops, t.reports c {} ≠ [] → t ∈ kept) ∧
      (m.history ops').map (fun t ↦ (t.sample.time, t.sample.snapshot)) =
        kept.map (fun t ↦ (t.sample.time, t.sample.snapshot)) ∧
      counted (m.history ops') = counted kept ∧
      (counted (m.history ops')).flatMap figures =
        [(.send .audio 0, 9, 1, 1800.0), (.send .audio 0, 3, 2, 600.0)] := by
  intro c m sent asked firstWindow ops ops' kept counted figures
  have hm : Meter.new { interval := 2000, qualityInterval := 4000 } {} = .ok m := rfl
  have hcomplete : ∀ n lost, (sent n lost).Carries [.send .audio 0] := by
    intro n lost
    refine ⟨rfl, fun r hr ↦ ?_⟩
    obtain rfl := List.mem_singleton.1 hr
    exact ⟨⟨_, .head _, rfl⟩, ⟨_, .head _, rfl⟩, ⟨_, .head _, rfl⟩, ⟨_, .head _, rfl⟩,
      ⟨_, .head _, rfl⟩, ⟨_, .head _, rfl⟩, ⟨_, .head _, rfl⟩⟩
  have hsamples : (m.history ops).map (fun t ↦ (t.sample.time, t.sample.snapshot)) =
      [(2000, sent 5 0), (4000, sent 9 1), (6000, sent 14 2), (8000, sent 3 3)] := by rfl
  have hcarries : ∀ t ∈ m.history ops, t.sample.snapshot.Carries [.send .audio 0] := by
    intro t ht
    have hmem := List.mem_map_of_mem (f := fun t ↦ (t.sample.time, t.sample.snapshot)) ht
    rw [hsamples] at hmem
    simp only [List.mem_cons, List.not_mem_nil, or_false, Prod.mk.injEq] at hmem
    rcases hmem with ⟨-, h⟩ | ⟨-, h⟩ | ⟨-, h⟩ | ⟨-, h⟩ <;> rw [h] <;> exact hcomplete _ _
  have hkept : kept.Sublist (m.history ops) := List.eraseIdx_sublist _ _
  have hfirst : kept.head? = (m.history ops).head? := by
    cases h : m.history ops with
    | nil => simp [kept, h]
    | cons t ts => simp [kept, h]
  have hreports : ∀ t ∈ m.history ops, t.reports c {} ≠ [] → t ∈ kept := by
    have hthird : ∀ t ∈ (m.history ops)[2]?, (t.pass c).closes = false := by decide +kernel
    intro t ht hreported
    obtain ⟨i, hi⟩ := List.mem_iff_getElem?.1 ht
    refine List.mem_eraseIdx_iff_getElem?.2 ⟨i, ?_, hi⟩
    rintro rfl
    rw [Taking.reports_eq, hthird t hi] at hreported
    exact hreported rfl
  have hsame : (m.history ops').map (fun t ↦ (t.sample.time, t.sample.snapshot)) =
      kept.map (fun t ↦ (t.sample.time, t.sample.snapshot)) := by
    have hsamples' : (m.history ops').map (fun t ↦ (t.sample.time, t.sample.snapshot)) =
        [(2000, sent 5 0), (4000, sent 9 1), (8000, sent 3 3)] := by rfl
    rw [hsamples', ← List.eraseIdx_map, hsamples]
    rfl
  have hcounted : counted (m.history ops') = counted kept :=
    (reports_of_lost_samples hm hcarries hkept hfirst hreports).2 ops' hsame
  refine ⟨hm, hcarries, hkept, hfirst, hreports, hsame, hcounted, ?_⟩
  rw [hcounted]
  decide +kernel

end Meter

end MediaTelemetry
