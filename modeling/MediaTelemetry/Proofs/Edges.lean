import MediaTelemetry.Proofs.Sample

/-!
# Announcements are the edges of liveness

A group of lines is live at a sample when a line of it that is active then moved
(`Taking.IsLive`): its liveness count grew from the ledger that the sample found to the ledger with
the sample swept in. The meter measures against the mark of the previous sample instead, which is
the same because the mark is always in step with the ledger (`live_iff`).

So the state of a group is a function of its liveness so far (`FlowState.after`), and what is
announced is read off two successive samples (`changes_are_edges`). Nothing is said about groups
that have no line: they are not live, like a group whose lines all rest.

The sound of a shared screen belongs to no group. `history_withoutShareAudio` states this about
whole runs: taking such lines out of every sample changes no announcement, although they stay in the
ledger and are counted like all others.
-/

namespace MediaTelemetry

/-! ### The announcements of one group -/

namespace FlowChange

/-- The other announcement. -/
def other : FlowChange → FlowChange
  | .started => .stopped
  | .stopped => .started

/-- The announcements come in turn, the given one first. -/
def Alternate : FlowChange → List FlowChange → Prop
  | _, [] => True
  | first, change :: rest => change = first ∧ Alternate first.other rest

end FlowChange

namespace FlowState

/-- The state after samples at which the group was live or not. -/
def after (lives : List Bool) : FlowState := lives.foldl next .notStarted

/-- The announcement that can come next. -/
def upcoming : FlowState → FlowChange
  | .started => .stopped
  | .notStarted | .stopped => .started

theorem after_concat (lives : List Bool) (live : Bool) :
    after (lives ++ [live]) = (after lives).next live := by
  simp only [after, List.foldl_append, List.foldl_cons, List.foldl_nil]

theorem next_eq_started_iff {f : FlowState} {live : Bool} : f.next live = .started ↔ live := by
  cases f <;> cases live <;> decide

theorem next_eq_stopped_iff {f : FlowState} {live : Bool} :
    f.next live = .stopped ↔ live = false ∧ f ≠ .notStarted := by
  cases f <;> cases live <;> decide

theorem next_eq_notStarted_iff {f : FlowState} {live : Bool} :
    f.next live = .notStarted ↔ f = .notStarted ∧ live = false := by
  cases f <;> cases live <;> decide

theorem change?_eq_started_iff {f : FlowState} {live : Bool} :
    f.change? live = some .started ↔ live ∧ f ≠ .started := by
  cases f <;> cases live <;> decide

theorem change?_eq_stopped_iff {f : FlowState} {live : Bool} :
    f.change? live = some .stopped ↔ live = false ∧ f = .started := by
  cases f <;> cases live <;> decide

/-- A group has started if it was live at the last sample. -/
theorem after_eq_started_iff {lives : List Bool} :
    after lives = .started ↔ true ∈ lives.getLast? := by
  induction lives using List.reverseRecOn with
  | nil => simp [after]
  | append_singleton lives live _ =>
    rw [after_concat, next_eq_started_iff, List.getLast?_concat, Option.mem_some]

/-- A group has never started if it was never live. -/
theorem after_eq_notStarted_iff {lives : List Bool} : after lives = .notStarted ↔ true ∉ lives := by
  induction lives using List.reverseRecOn with
  | nil => simp [after]
  | append_singleton lives live ih =>
    rw [after_concat, next_eq_notStarted_iff, ih, List.mem_append, not_or, List.mem_singleton]
    cases live <;> simp

theorem alternate_step {f : FlowState} {live : Bool} {later : List FlowChange}
    (h : FlowChange.Alternate (f.next live).upcoming later) :
    FlowChange.Alternate f.upcoming ((f.change? live).toList ++ later) := by
  cases f <;> cases live <;> first | exact h | exact ⟨rfl, h⟩

end FlowState

/-! ### What a sample announces -/

namespace Notice

/-- What a notice announces about a group, if anything. -/
def changeOf? (g : Group) : Notice → Option FlowChange
  | .flow g' change => if g' = g then some change else none
  | _ => none

end Notice

namespace Taking

variable (t : Taking) (c : Settings) (d : Host) (g : Group)

/-- Some line of the group that the ledger lists once the sample is swept in is active, and its
liveness count grew over the ledger that the sample found. -/
def IsLive : Prop :=
  ∃ line e, (t.pass c).swept.get? line = some e ∧ Group.of? line = some g ∧
    e.notes.isActiveAt t.sample.time c.recency = true ∧
    0 < grown (e.counters.liveness line)
      ((t.before.ledger.get? line).elim 0 (·.counters.liveness line))

/-- What the sample announces about a group. -/
def changes : List FlowChange := (t.told c d).filterMap (Notice.changeOf? g)

theorem flow_mem_told_iff {change : FlowChange} :
    .flow g change ∈ t.told c d ↔ change ∈ t.changes c d g := by
  rw [changes, List.mem_filterMap]
  constructor
  · intro h
    exact ⟨_, h, if_pos rfl⟩
  · rintro ⟨notice, hnotice, hchange⟩
    cases notice with
    | flow g' change' =>
      rw [Notice.changeOf?, Option.ite_none_right_eq_some] at hchange
      obtain ⟨rfl, hchange⟩ := hchange
      rwa [← Option.some.inj hchange]
    | _ => exact absurd hchange (by simp [Notice.changeOf?])

/-- What is announced about a group depends on its own state and liveness only. -/
theorem changes_eq :
    t.changes c d g = ((t.before.flows g).change? ((t.pass c).live g)).toList := by
  have hnodup : Group.all.Nodup := by decide
  have hg : g ∈ Group.all := by
    obtain ⟨medium, side⟩ := g
    cases medium <;> cases side <;> decide
  rw [changes, filterMap_told, Flows.changes, List.filterMap_filterMap,
    filterMap_eq_toList hnodup hg]
  · have hverdicts : (t.pass c).verdicts.filterMap
        (fun v ↦ (Notice.uplink v).changeOf? g) = [] :=
      List.filterMap_eq_nil_iff.2 fun _ _ ↦ rfl
    have hquality : (t.before.report? c d (t.pass c)).toList.filterMap
        (fun r ↦ (Notice.quality r).changeOf? g) = [] :=
      List.filterMap_eq_nil_iff.2 fun _ _ ↦ rfl
    rw [hverdicts, hquality, List.nil_append, List.append_nil]
    cases (t.before.flows g).change? ((t.pass c).live g) <;> simp [Notice.changeOf?]
  · intro g' _ hne
    cases (t.before.flows g').change? ((t.pass c).live g') <;> simp [Notice.changeOf?, hne]

end Taking

/-! ### Liveness -/

theorem Measurement.live_iff {m : Measurement} {c : Settings} {now : Nat} {s : Snapshot}
    {g : Group} :
    (m.pass c now s).live g = true ↔
      ∃ line e, (m.pass c now s).rated.get? line = some e ∧ Group.of? line = some g ∧
        e.notes.isActiveAt now c.recency = true ∧ 0 < e.livenessGrowth line m.previous := by
  have hlive : (m.pass c now s).live g =
      Ledger.isLive (m.pass c now s).rated m.previous
        (fun _ e ↦ e.notes.isActiveAt now c.recency) g :=
    rfl
  rw [hlive, Ledger.isLive, List.any_eq_true]
  simp only [Prod.exists, KeyMap.mem_entries_iff, Bool.and_eq_true, beq_iff_eq, decide_eq_true_eq,
    and_assoc]

/-- Where the mark is in step with the ledger, a line moves since the mark as it moves over the
ledger. -/
theorem Measurement.Coherent.livenessGrowth {m : Measurement} (h : m.Coherent) (e : Entry)
    (line : Line) :
    e.livenessGrowth line m.previous =
      grown (e.counters.liveness line)
        ((m.ledger.get? line).elim 0 (·.counters.liveness line)) := by
  rw [Entry.livenessGrowth, h line, Ledger.countersAt]
  cases m.ledger.get? line with
  | none => unfold Counters.liveness; cases line.direction <;> cases line.medium.isAudio <;> rfl
  | some e' => rfl

/-- **The meter sees a group live when it is.** -/
theorem Taking.live_iff {t : Taking} (h : t.before.Coherent) (c : Settings) (g : Group) :
    (t.pass c).live g = true ↔ t.IsLive c g := by
  have hbooks : ∀ line e,
      (t.before.rate c t.sample.time t.sample.snapshot line e).SameBooks e := fun line e ↦
    t.before.sameBooks_rate c t.sample.time t.sample.snapshot line e
  rw [Taking.pass, Measurement.live_iff, Taking.IsLive, Taking.pass]
  constructor
  · rintro ⟨line, e, he, hg, hactive, hmoved⟩
    rw [Measurement.get?_rated, Option.map_eq_some_iff] at he
    obtain ⟨e, he, rfl⟩ := he
    rw [(hbooks line e).isActiveAt] at hactive
    rw [h.livenessGrowth, (hbooks line e).counters] at hmoved
    exact ⟨line, e, he, hg, hactive, hmoved⟩
  · rintro ⟨line, e, he, hg, hactive, hmoved⟩
    refine ⟨line, t.before.rate c t.sample.time t.sample.snapshot line e, ?_, hg, ?_, ?_⟩
    · rw [Measurement.get?_rated, he, Option.map_some]
    · rwa [(hbooks line e).isActiveAt]
    · rwa [h.livenessGrowth, (hbooks line e).counters]

namespace Meter

variable {c : Settings} {d : Host} {monitor : Monitor} {m : Meter}

/-- The state of a group is that after its liveness at the samples taken. -/
theorem flows_run (hm : Meter.new c d monitor = .ok m) (ops : List Op) (g : Group) :
    (m.run ops).measurement.flows g =
      .after ((m.history ops).map fun t ↦ (t.pass c).live g) := by
  obtain rfl := eq_of_new hm
  refine history_induction
    (P := fun ts before ↦ before.flows g = .after (ts.map fun t ↦ (t.pass c).live g))
    _ rfl ?_ ?_ ops
  · intro ts before status h
    exact h
  · intro ts t h
    rw [List.map_append, List.map_singleton, FlowState.after_concat, ← h]
    rfl

/-- What is announced about a group comes in turn. -/
theorem alternate_changes {before : Measurement} {ts : List Taking} (h : Chain c before ts)
    (d : Host) (g : Group) :
    FlowChange.Alternate (before.flows g).upcoming (ts.flatMap (·.changes c d g)) := by
  induction h with
  | nil => trivial
  | @cons before t ts found rest ih =>
    obtain ⟨status, hfound⟩ := found
    have hflows : t.before.flows = before.flows := by rw [hfound]
    rw [List.flatMap_cons, Taking.changes_eq, ← hflows]
    exact FlowState.alternate_step ih

theorem alternate_history (hm : Meter.new c d monitor = .ok m) (ops : List Op) (g : Group) :
    FlowChange.Alternate .started ((m.history ops).flatMap (·.changes c d g)) := by
  have hchain := chain_history m ops
  rw [settings_of_new hm, measurement_of_new hm] at hchain
  exact alternate_changes hchain d g

end Meter

/-! ### The sound of shared screens -/

/-- The snapshot without the lines of shared sound. -/
def Snapshot.withoutShareAudio (s : Snapshot) : Snapshot := { s with shareAudio := {} }

/-- The operation with the lines of shared sound taken out of its sample. -/
def Meter.Op.withoutShareAudio : Op → Op
  | .read s => .read { s with snapshot := s.snapshot.withoutShareAudio }
  | op => op

theorem Snapshot.at?_withoutShareAudio (s : Snapshot) {line : Line}
    (h : line.medium ≠ .shareAudio) : s.withoutShareAudio.at? line = s.at? line := by
  have hmedium : s.withoutShareAudio.medium line.medium = s.medium line.medium := by
    cases hm : line.medium with
    | shareAudio => exact absurd hm h
    | _ => rfl
  rw [at?, at?, hmedium]

/-- No group has a line of shared sound. -/
theorem Group.medium_ne_shareAudio {line : Line} {g : Group} (h : Group.of? line = some g) :
    line.medium ≠ .shareAudio := by
  intro hmedium
  rw [Group.of?, hmedium] at h
  exact absurd h (by simp [Medium.announced?])

theorem Entry.setTickRates_congr {mark mark' : Option Mark} {line : Line}
    (h : Mark.of? mark' line = Mark.of? mark line) (e : Entry) (elapsed : Span) :
    e.setTickRates line mark' elapsed = e.setTickRates line mark elapsed := by
  simp only [setTickRates, growth, h]

theorem Watch.note_congr {mark mark' : Option Mark} {line : Line}
    (h : Mark.of? mark' line = Mark.of? mark line) (status : Status) (tick now recency : Nat)
    (e : Entry) :
    (Watch.mk status tick now recency mark').note line e =
      (Watch.mk status tick now recency mark).note line e := by
  have hpackets : (Watch.mk status tick now recency mark').lacksPackets line e =
      (Watch.mk status tick now recency mark).lacksPackets line e := by
    rw [lacksPackets, lacksPackets, Entry.packetGrowth, Entry.packetGrowth, h]
  have hframes : (Watch.mk status tick now recency mark').lacksFrames line e =
      (Watch.mk status tick now recency mark).lacksFrames line e := by
    rw [lacksFrames, lacksFrames, Entry.livenessGrowth, Entry.livenessGrowth, h]
  rw [note, note, hpackets, hframes]
  rfl

/-- The second measurement knows the same as the first about all lines but those of shared sound.
Uplinks and the path in use may differ. -/
structure Measurement.SameButShareAudio (m m' : Measurement) : Prop where
  ledger : ∀ line, line.medium ≠ .shareAudio → m'.ledger.get? line = m.ledger.get? line
  marks : ∀ line, line.medium ≠ .shareAudio → Mark.of? m'.previous line = Mark.of? m.previous line
  time : m'.previous.map (·.time) = m.previous.map (·.time)
  windowStart : m'.windowStart = m.windowStart
  flows : m'.flows = m.flows
  ticks : m'.ticks = m.ticks
  status : m'.status = m.status

namespace Measurement.SameButShareAudio

variable {m m' : Measurement} (h : m.SameButShareAudio m') (c : Settings) (now : Nat) (s : Snapshot)

include h

theorem swept {line : Line} (hline : line.medium ≠ .shareAudio) :
    (m'.pass c now s.withoutShareAudio).swept.get? line = (m.pass c now s).swept.get? line := by
  rw [get?_swept, get?_swept, s.at?_withoutShareAudio hline, h.ledger line hline, h.ticks]

theorem rate {line : Line} (hline : line.medium ≠ .shareAudio) (e : Entry) :
    m'.rate c now s.withoutShareAudio line e = m.rate c now s line e := by
  have hseen : line ∈ (m'.pass c now s.withoutShareAudio).sweep.seen ↔
      line ∈ (m.pass c now s).sweep.seen := by
    rw [mem_seen, mem_seen, s.at?_withoutShareAudio hline]
  rw [Measurement.rate, Measurement.rate, h.time,
    Entry.setTickRates_congr (h.marks line hline)]
  simp only [hseen]

theorem closes : (m'.pass c now s.withoutShareAudio).closes = (m.pass c now s).closes := by
  rw [closes_eq, closes_eq, window_eq, window_eq, h.windowStart]

theorem finish {line : Line} (hline : line.medium ≠ .shareAudio) (e : Entry) :
    m'.finish c now s.withoutShareAudio line e = m.finish c now s line e := by
  have hnote : m'.rateAndNote c now s.withoutShareAudio line e = m.rateAndNote c now s line e := by
    show (Watch.mk m'.status (m'.ticks + 1) now c.recency m'.previous).note line _ =
      (Watch.mk m.status (m.ticks + 1) now c.recency m.previous).note line _
    rw [h.rate c now s hline, h.status, h.ticks, Watch.note_congr (h.marks line hline)]
  rw [Measurement.finish, Measurement.finish, hnote, h.closes]

theorem live (g : Group) :
    (m'.pass c now s.withoutShareAudio).live g = (m.pass c now s).live g := by
  rw [Bool.eq_iff_iff, live_iff, live_iff]
  refine exists_congr fun line ↦ exists_congr fun e ↦ ?_
  -- only lines of the group count, and none of them is one of shared sound
  by_cases hg : Group.of? line = some g
  · have hline := Group.medium_ne_shareAudio hg
    have hrate : m'.rate c now s.withoutShareAudio line = m.rate c now s line :=
      funext (h.rate c now s hline)
    rw [get?_rated, get?_rated, h.swept c now s hline, hrate, Entry.livenessGrowth,
      Entry.livenessGrowth, h.marks line hline]
  · simp [hg]

/-- A sample keeps the two in step. -/
theorem take :
    (m.take c now s).SameButShareAudio (m'.take c now s.withoutShareAudio) := by
  have hledger : ∀ line, line.medium ≠ .shareAudio →
      (m'.take c now s.withoutShareAudio).ledger.get? line = (m.take c now s).ledger.get? line := by
    intro line hline
    have hfinish : m'.finish c now s.withoutShareAudio line = m.finish c now s line :=
      funext (h.finish c now s hline)
    rw [get?_take, get?_take, h.swept c now s hline, hfinish]
  refine ⟨hledger, fun line hline ↦ ?_, rfl, ?_, ?_, ?_, h.status⟩
  · rw [m'.coherent_take c now _ line, m.coherent_take c now s line, Ledger.countersAt,
      Ledger.countersAt, hledger line hline]
  · rw [windowStart_take, windowStart_take, h.closes, h.windowStart]
  · show m'.flows.next _ = m.flows.next _
    rw [h.flows, funext (h.live c now s)]
  · show m'.ticks + 1 = m.ticks + 1
    rw [h.ticks]

end Measurement.SameButShareAudio

namespace Meter

/-- The second meter is the first, but for what it knows about lines of shared sound, uplinks and
the path in use, and for what it has still to tell. -/
structure SameButShareAudio (m m' : Meter) : Prop where
  settings : m'.settings = m.settings
  schedule : m'.schedule = m.schedule
  lastTaken : m'.lastTaken = m.lastTaken
  measurement : m.measurement.SameButShareAudio m'.measurement

namespace SameButShareAudio

variable {m m' : Meter}

theorem refl (m : Meter) : m.SameButShareAudio m where
  settings := rfl
  schedule := rfl
  lastTaken := rfl
  measurement := ⟨fun _ _ ↦ rfl, fun _ _ ↦ rfl, rfl, rfl, rfl, rfl, rfl⟩

theorem accepts (h : m.SameButShareAudio m') (r : Request) : m'.accepts r = m.accepts r := by
  rw [Meter.accepts, Meter.accepts, isCurrent, isCurrent, isInOrder, isInOrder, isRunning,
    isRunning, h.schedule, h.lastTaken]

theorem scheduled (h : m.SameButShareAudio m') (outcome : Except Fault Schedule) :
    (m.scheduled outcome).SameButShareAudio (m'.scheduled outcome) := by
  cases outcome with
  | ok schedule => exact ⟨h.settings, rfl, h.lastTaken, h.measurement⟩
  | error fault => exact h

theorem expect (h : m.SameButShareAudio m') (status : Status) :
    (m.expect status).SameButShareAudio (m'.expect status) where
  settings := h.settings
  schedule := h.schedule
  lastTaken := h.lastTaken
  measurement := ⟨h.measurement.ledger, h.measurement.marks, h.measurement.time,
    h.measurement.windowStart, h.measurement.flows, h.measurement.ticks, rfl⟩

theorem step (h : m.SameButShareAudio m') (op : Op) :
    (m.step op).SameButShareAudio (m'.step op.withoutShareAudio) := by
  have hstop : (m.scheduled m.schedule.stop).SameButShareAudio
      (m'.scheduled m'.schedule.stop) := by
    rw [h.schedule]
    exact h.scheduled _
  cases op with
  | start now =>
    show (m.scheduled (m.schedule.start now)).SameButShareAudio
      (m'.scheduled (m'.schedule.start now))
    rw [h.schedule]
    exact h.scheduled _
  | stop => exact hstop
  | close => exact ⟨h.settings, congrArg Schedule.close h.schedule, h.lastTaken, h.measurement⟩
  | command command =>
    cases command with
    | expect status => exact h.expect status
    | stop => exact hstop
  | expect status => exact h.expect status
  | timeout now =>
    refine ⟨h.settings, ?_, h.lastTaken, h.measurement⟩
    show m'.schedule.tick m'.settings.interval now = m.schedule.tick m.settings.interval now
    rw [h.schedule, h.settings]
  | nextRequest =>
    exact ⟨h.settings, congrArg Schedule.handOut h.schedule, h.lastTaken, h.measurement⟩
  | read s =>
    rw [Op.withoutShareAudio, Meter.step, Meter.step, read, read, h.accepts]
    split
    · refine ⟨h.settings, h.schedule, rfl, ?_⟩
      dsimp only
      rw [h.settings]
      exact h.measurement.take _ _ _
    · exact h
  | nextNotice => exact ⟨h.settings, h.schedule, h.lastTaken, h.measurement⟩

/-- Both take the same samples, and announce the same at each. -/
theorem changes (h : m.SameButShareAudio m') (d : Host) (g : Group) (ops : List Op) :
    (m'.history (ops.map Op.withoutShareAudio)).map (·.changes m.settings d g) =
      (m.history ops).map (·.changes m.settings d g) := by
  induction ops generalizing m m' with
  | nil => rfl
  | cons op rest ih =>
    have hrest := ih (h.step op)
    rw [(m.setup_step op).1] at hrest
    rw [List.map_cons, history, history, List.map_append, List.map_append, hrest]
    congr 1
    cases op with
    | read s =>
      rw [Op.withoutShareAudio, taking?, taking?, h.accepts]
      split
      · simp only [Option.toList_some, List.map_singleton, Taking.changes_eq, Taking.pass]
        rw [h.measurement.live, h.measurement.flows]
      · rfl
    | _ => rfl

end SameButShareAudio

variable {c : Settings} {d : Host} {monitor : Monitor} {m : Meter}

/-- **Lines of shared sound have no say in announcements.** -/
theorem history_withoutShareAudio (hm : Meter.new c d monitor = .ok m) (ops : List Op) (g : Group) :
    (m.history (ops.map Op.withoutShareAudio)).map (·.changes c d g) =
      (m.history ops).map (·.changes c d g) := by
  have hchanges := (SameButShareAudio.refl m).changes d g ops
  rwa [settings_of_new hm] at hchanges

/-! ### The edges -/

/-- A group has started if it was live at the last sample taken. -/
theorem flows_eq_started_iff (hm : Meter.new c d monitor = .ok m) (ops : List Op) (g : Group) :
    (m.run ops).measurement.flows g = .started ↔
      ∃ t ∈ (m.history ops).getLast?, t.IsLive c g := by
  rw [flows_run hm, FlowState.after_eq_started_iff, List.getLast?_map, Option.mem_def,
    Option.map_eq_some_iff]
  refine exists_congr fun t ↦ and_congr_right fun ht ↦ ?_
  exact Taking.live_iff ((coherent_history hm ops).1 t (List.mem_of_getLast? ht)) c g

/-- A group has not started if it was live at no sample taken. -/
theorem flows_eq_notStarted_iff (hm : Meter.new c d monitor = .ok m) (ops : List Op) (g : Group) :
    (m.run ops).measurement.flows g = .notStarted ↔ ∀ t ∈ m.history ops, ¬ t.IsLive c g := by
  have hlive : ∀ t ∈ m.history ops, (t.pass c).live g = true ↔ t.IsLive c g := fun t ht ↦
    Taking.live_iff ((coherent_history hm ops).1 t ht) c g
  rw [flows_run hm, FlowState.after_eq_notStarted_iff, List.mem_map]
  constructor
  · intro h t ht htl
    exact h ⟨t, ht, (hlive t ht).2 htl⟩
  · rintro h ⟨t, ht, htl⟩
    exact h t ht ((hlive t ht).1 htl)

/-- **Announcements are the edges of liveness.** Let a sample be taken after any operations on a new
meter. It is announced that a group started if the group is live and was not at the sample taken
before, and that it stopped if it is not live and was; no group is announced twice. The group has
started then if it is live, stopped if it is not but was once, and not started otherwise. So all
announcements of a group come in turn, a start first; and they are the same if the samples had no
lines of shared sound. -/
theorem changes_are_edges (hm : Meter.new c d monitor = .ok m) {ops : List Op} {s : Sample}
    (hs : (m.run ops).accepts s.request = true) (g : Group) :
    let t : Taking := ⟨(m.run ops).measurement, s⟩
    let m' := m.run (ops ++ [Op.read s])
    m.history (ops ++ [Op.read s]) = m.history ops ++ [t] ∧
      m'.notices = (m.run ops).notices ++ t.told c d ∧
      (.flow g .started ∈ t.told c d ↔
        t.IsLive c g ∧ ∀ u ∈ (m.history ops).getLast?, ¬ u.IsLive c g) ∧
      (.flow g .stopped ∈ t.told c d ↔
        ¬ t.IsLive c g ∧ ∃ u ∈ (m.history ops).getLast?, u.IsLive c g) ∧
      (t.changes c d g).length ≤ 1 ∧
      (m'.measurement.flows g = .started ↔ t.IsLive c g) ∧
      (m'.measurement.flows g = .stopped ↔
        ¬ t.IsLive c g ∧ ∃ u ∈ m.history ops, u.IsLive c g) ∧
      (m'.measurement.flows g = .notStarted ↔
        ¬ t.IsLive c g ∧ ∀ u ∈ m.history ops, ¬ u.IsLive c g) ∧
      FlowChange.Alternate .started ((m.history (ops ++ [Op.read s])).flatMap (·.changes c d g)) ∧
      (m.history ((ops ++ [Op.read s]).map Op.withoutShareAudio)).map (·.changes c d g) =
        (m.history (ops ++ [Op.read s])).map (·.changes c d g) := by
  intro t m'
  have htaking : (m.run ops).taking? (.read s) = some t := if_pos hs
  have hhistory : m.history (ops ++ [Op.read s]) = m.history ops ++ [t] := by
    rw [history_concat, htaking, Option.toList_some]
  have hlive : (t.pass c).live g = true ↔ t.IsLive c g :=
    Taking.live_iff (coherent_history hm ops).2 c g
  -- the state that the sample finds tells of the samples before it
  have hstarted : t.before.flows g = .started ↔
      ∃ u ∈ (m.history ops).getLast?, u.IsLive c g := flows_eq_started_iff hm ops g
  have hnever : t.before.flows g = .notStarted ↔ ∀ u ∈ m.history ops, ¬ u.IsLive c g :=
    flows_eq_notStarted_iff hm ops g
  have hnotLive : (t.pass c).live g = false ↔ ¬ t.IsLive c g := by
    rw [← hlive, Bool.not_eq_true]
  have hstep : m' = (m.run ops).step (.read s) := run_concat m ops _
  have hnext : m'.measurement.flows g = (t.before.flows g).next ((t.pass c).live g) := by
    rw [hstep, measurement_step_of_taking htaking, settings_run, settings_of_new hm]
    rfl
  have hnotices : m'.notices = (m.run ops).notices ++ t.told c d := by
    rw [hstep, step, read, if_pos hs]
    dsimp only
    rw [settings_run, host_run, settings_of_new hm, host_of_new hm]
    rfl
  -- what is announced is the way from that state to the next one
  have hchanges : ∀ change, .flow g change ∈ t.told c d ↔
      (t.before.flows g).change? ((t.pass c).live g) = some change := by
    intro change
    rw [t.flow_mem_told_iff, t.changes_eq, Option.mem_toList]
  refine ⟨hhistory, hnotices, ?_, ?_, ?_, ?_, ?_, ?_, alternate_history hm _ g,
    history_withoutShareAudio hm _ g⟩
  · rw [hchanges, FlowState.change?_eq_started_iff, hlive, Ne, hstarted]
    simp only [not_exists, not_and]
  · rw [hchanges, FlowState.change?_eq_stopped_iff, hnotLive, hstarted]
  · rw [t.changes_eq]
    exact Option.length_toList_le
  · rw [hnext, FlowState.next_eq_started_iff, hlive]
  · rw [hnext, FlowState.next_eq_stopped_iff, hnotLive, Ne, hnever]
    simp only [not_forall, not_not, exists_prop]
  · rw [hnext, FlowState.next_eq_notStarted_iff, hnotLive, hnever, and_comm]

/-- A microphone sends packets until the second sample. The meter is started anew before the third,
at which the counter has not moved: the group stops then, once. -/
theorem stopped_after_second_sample :
    let m : Meter := { settings := {}, host := {} }
    let sent (n : UInt64) : Snapshot :=
      { audio := { senders := [{ report := [.outboundRtp { packetsSent := some n }] }] } }
    let asked (now : Nat) : List Op := [.timeout now, .nextRequest]
    let ops : List Op := .start 0 :: asked 0 ++ [.read ⟨⟨1, 0⟩, 5000, sent 5⟩] ++
      asked 5000 ++ [.read ⟨⟨1, 1⟩, 10000, sent 9⟩] ++ .stop :: .start 15000 :: asked 15000
    let s : Sample := ⟨⟨2, 2⟩, 15000, sent 9⟩
    let t : Taking := ⟨(m.run ops).measurement, s⟩
    let g : Group := ⟨.audio, .near⟩
    Meter.new {} {} = .ok m ∧ (m.run ops).accepts s.request = true ∧
      (m.history ops).length = 2 ∧ (∃ u ∈ (m.history ops).getLast?, u.IsLive {} g) ∧
      ¬ t.IsLive {} g ∧ .flow g .stopped ∈ t.told {} {} ∧
      (m.run (ops ++ [.read s])).measurement.flows g = .stopped ∧
      (m.history (ops ++ [.read s])).flatMap (·.changes {} {} g) = [.started, .stopped] := by
  intro m sent asked ops s t g
  have hm : Meter.new {} {} = .ok m := rfl
  have hs : (m.run ops).accepts s.request = true := by decide +kernel
  have hchange : .flow g .stopped ∈ t.told {} {} := by
    rw [Taking.flow_mem_told_iff]
    decide +kernel
  obtain ⟨-, -, -, hstopped, -, -, hflow, -⟩ := changes_are_edges hm hs g
  obtain ⟨hnot, u, hu, hlive⟩ := hstopped.1 hchange
  refine ⟨hm, hs, by decide +kernel, ⟨u, hu, hlive⟩, hnot, hchange, ?_, by decide +kernel⟩
  exact hflow.2 ⟨hnot, u, List.mem_of_getLast? hu, hlive⟩

end Meter

end MediaTelemetry
