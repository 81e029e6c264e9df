import MediaTelemetry.Proofs.Packets

/-!
# What the marks hold

A meter measures growth from two marks, and both are captures of the ledger at known samples
(`Measurement.Marked`): the one of the last sample taken, which is of the ledger as it still is, and
the one of the last sample that told a quality report, which also opened the present window.

The ledger changes at several places of one sample, and the two marks are captured at different
ones. It makes no difference, because a mark holds counters only and these are settled once the
snapshot is swept in (`Ledger.mark_congr`).

So what a sample counts on a line that it saw is the difference of the packet counts in the ledgers
before and after it, and a line that it did not see keeps its records (`records_of_not_seen`).
-/

namespace MediaTelemetry

/-- The last of the samples that told a quality report. -/
def lastReported (c : Settings) (d : Host) (ts : List Taking) : Option Taking :=
  (ts.filter fun t ↦ !(t.reports c d).isEmpty).getLast?

/-- A mark holds the counters of a ledger and nothing else of it. -/
theorem Ledger.mark_congr {ledger ledger' : Ledger}
    (h : ∀ line, ledger.countersAt line = ledger'.countersAt line) (tick time : Nat) :
    Ledger.mark ledger tick time = Ledger.mark ledger' tick time := by
  have hcounters : ledger.map (fun _ e ↦ e.counters) = ledger'.map (fun _ e ↦ e.counters) := by
    refine KeyMap.ext_get? fun line ↦ ?_
    rw [KeyMap.get?_map, KeyMap.get?_map]
    exact h line
  rw [Ledger.mark, Ledger.mark, hcounters]

namespace Taking

variable {t : Taking} {c : Settings} {d : Host} {line : Line}

theorem isEmpty_reports : (t.reports c d).isEmpty = !(t.pass c).closes := by
  rw [reports_eq]
  split
  · rename_i hcloses
    rw [hcloses]
    rfl
  · rename_i hcloses
    rw [Bool.eq_false_iff.2 hcloses]
    rfl

/-- A line that a sample does not see keeps its records. -/
theorem records_of_not_seen (h : line ∉ (t.pass c).sweep.seen) :
    ((t.after c).ledger.get? line).map (fun e ↦ (e.send, e.receive)) =
      (t.before.ledger.get? line).map fun e ↦ (e.send, e.receive) := by
  have hfinish : ∀ e, ((t.before.finish c t.sample.time t.sample.snapshot line e).send,
      (t.before.finish c t.sample.time t.sample.snapshot line e).receive) =
        (e.send, e.receive) := by
    intro e
    obtain ⟨hsend, hreceive⟩ := t.before.records_finish c t.sample.time t.sample.snapshot line e
    rw [hsend, hreceive, Measurement.rate,
      if_neg (show line ∉ (t.before.pass c _ _).sweep.seen from h)]
  have hswept : ((t.pass c).swept.get? line).map (fun e ↦ (e.send, e.receive)) =
      (t.before.ledger.get? line).map fun e ↦ (e.send, e.receive) := by
    rw [Taking.pass, Measurement.mem_seen] at h
    rw [Taking.pass, Measurement.get?_swept]
    cases hr : t.sample.snapshot.at? line with
    | none => rfl
    | some r =>
      have hconcerns : ¬ r.concerns line = true := fun hc ↦ h ⟨r, hr, hc⟩
      rw [Option.elim_some, LineReport.update, if_neg hconcerns, Option.map_map]
      rfl
  rw [get?_after, Option.map_map, ← hswept]
  exact Option.map_congr fun e _ ↦ hfinish e

/-- A line that a sample sees is listed afterwards, with the packets since the sample before. -/
theorem packetsPerTick_of_mem_seen (hcoherent : t.before.Coherent)
    (h : line ∈ (t.pass c).sweep.seen) :
    ((t.after c).ledger.get? line).map (·.packetsPerTick line) =
      some (grown ((t.after c).ledger.packetsAt line) (t.before.ledger.packetsAt line)) := by
  obtain ⟨e, he⟩ := exists_swept_of_seen h
  have hcount := packetsPerTick_of_seen he h
  rw [Entry.packetGrowth, hcoherent line, Counters.packets_getD, ← packetsAt_of_swept he,
    packetsPerTick, get?_after, he, Option.map_some, Option.elim_some] at hcount
  rw [get?_after, he, Option.map_some, Option.map_some, hcount]

end Taking

theorem lastReported_concat (c : Settings) (d : Host) (ts : List Taking) (t : Taking) :
    lastReported c d (ts ++ [t]) =
      if (t.pass c).closes then some t else lastReported c d ts := by
  rw [lastReported, List.filter_append, List.filter_singleton, Taking.isEmpty_reports,
    Bool.not_not, lastReported]
  cases (t.pass c).closes with
  | true => rw [cond_true, List.getLast?_concat, if_pos rfl]
  | false => rw [cond_false, List.append_nil, if_neg Bool.false_ne_true]

theorem mem_of_lastReported {c : Settings} {d : Host} {ts : List Taking} {t : Taking}
    (h : lastReported c d ts = some t) : t ∈ ts :=
  (List.mem_filter.1 (List.mem_of_getLast? h)).1

theorem lastReported_eq_none_iff {c : Settings} {d : Host} {ts : List Taking} :
    lastReported c d ts = none ↔ ∀ t ∈ ts, t.reports c d = [] := by
  rw [lastReported, List.getLast?_eq_none_iff, List.filter_eq_nil_iff]
  simp

/-! ### The marks of a run -/

/-- Which ledgers and samples the marks of a measurement are of, after samples. -/
structure Measurement.Marked (c : Settings) (d : Host) (ts : List Taking) (m : Measurement) :
    Prop where
  ticks : m.ticks = ts.length
  /-- The samples taken before were counted. -/
  counted : ∀ t ∈ ts, t.before.ticks < ts.length
  /-- The first mark is of the present ledger. -/
  previous : m.previous = ts.getLast?.map fun t ↦ m.ledger.mark ts.length t.sample.time
  /-- The second mark is of the ledger that the last report left. -/
  reported : m.reported = (lastReported c d ts).map fun t ↦
    (t.after c).ledger.mark (t.before.ticks + 1) t.sample.time
  /-- The window started with the last report; the first one a sample's length before it. -/
  windowStart : m.windowStart = ((lastReported c d ts).map (·.sample.time)).or
    (ts.head?.map (·.sample.time - c.interval))

namespace Measurement.Marked

variable {c : Settings} {d : Host} {ts : List Taking} {m : Measurement} {t : Taking}

theorem initial (c : Settings) (d : Host) (monitor : Monitor) : Marked c d [] { monitor } :=
  ⟨rfl, fun _ h ↦ absurd h (by simp), rfl, rfl, rfl⟩

theorem expect (h : m.Marked c d ts) (status : Status) :
    ({ m with status } : Measurement).Marked c d ts :=
  ⟨h.ticks, h.counted, h.previous, h.reported, h.windowStart⟩

/-- **A sample captures its own marks**, the second one if it tells a report. -/
theorem take (h : t.before.Marked c d ts) : (t.after c).Marked c d (ts ++ [t]) := by
  have hticks : (ts ++ [t]).length = t.before.ticks + 1 := by
    rw [List.length_append, List.length_singleton, h.ticks]
  refine ⟨hticks.symm, ?_, ?_, ?_, ?_⟩
  · intro u hu
    rw [hticks, h.ticks]
    rcases List.mem_append.1 hu with hu | hu
    · exact Nat.lt_succ_of_lt (h.counted u hu)
    · rw [List.mem_singleton.1 hu, h.ticks]
      exact Nat.lt_succ_self _
  · rw [List.getLast?_concat, Option.map_some, hticks]
    rfl
  · -- between the capture and the end of the sample no counter changes
    have hledger : ∀ line, Ledger.countersAt (t.pass c).noted line =
        (t.after c).ledger.countersAt line := fun line ↦
      (t.before.countersAt_noted c _ _ line).trans (t.before.countersAt_take c _ _ line).symm
    have hreported : (t.after c).reported =
        if (t.pass c).closes then
          some (Ledger.mark (t.pass c).noted (t.before.ticks + 1) t.sample.time)
        else t.before.reported :=
      t.before.reported_take ..
    rw [hreported, lastReported_concat]
    split
    · rw [Option.map_some, Ledger.mark_congr hledger]
    · exact h.reported
  · have hstart : (t.after c).windowStart = some (if (t.pass c).closes then t.sample.time
        else t.before.windowStart.getD (t.sample.time - c.interval)) :=
      t.before.windowStart_take ..
    rw [hstart, lastReported_concat]
    split
    · rfl
    · rw [h.windowStart]
      cases hlast : lastReported c d ts with
      | some u => rfl
      | none => cases ts <;> rfl

end Measurement.Marked

namespace Meter

variable {c : Settings} {d : Host} {monitor : Monitor} {m : Meter}

theorem marked_run (hm : Meter.new c d monitor = .ok m) (ops : List Op) :
    (m.run ops).measurement.Marked c d (m.history ops) := by
  refine history_induction (P := fun ts before ↦ before.Marked c d ts) m ?_
    (fun _ _ status h ↦ h.expect status) ?_ ops
  · rw [measurement_of_new hm]
    exact .initial c d monitor
  · intro ts t h
    rw [settings_of_new hm]
    exact h.take

/-- Each sample found the marks as the samples before it left them. -/
theorem marked_of_split (hm : Meter.new c d monitor = .ok m) {ops : List Op}
    {earlier later : List Taking} {t : Taking} (h : m.history ops = earlier ++ t :: later) :
    t.before.Marked c d earlier := by
  obtain ⟨ops', rfl, hbefore⟩ := m.history_split h
  exact hbefore ▸ marked_run hm ops'

/-- **What the marks hold.** After any operations on a new meter, the mark of the previous sample is
that of the present ledger, with the number of samples taken and the time of the last one. There is
a mark of a reported window exactly if a quality report was told; it is that of the ledger which the
last such sample left, and its time is the start of the present window. So what each sample counted
on a line it saw is the growth of the line's packet count over the ledger before it, and the
figure of a line that it did not see was left as it was. -/
theorem marks_hold (hm : Meter.new c d monitor = .ok m) (ops : List Op) :
    let ts := m.history ops
    let m' := (m.run ops).measurement
    m'.previous = (ts.getLast?.map fun t ↦ m'.ledger.mark ts.length t.sample.time) ∧
      (m'.reported = none ↔ ∀ t ∈ ts, t.reports c d = []) ∧
      (∀ t ∈ lastReported c d ts, ∃ tick ≤ ts.length,
        m'.reported = some ((t.after c).ledger.mark tick t.sample.time) ∧
          m'.windowStart = some t.sample.time) ∧
      ∀ t ∈ ts, ∀ line,
        (line ∈ (t.pass c).sweep.seen →
          ((t.after c).ledger.get? line).map (·.packetsPerTick line) =
            some (grown ((t.after c).ledger.packetsAt line) (t.before.ledger.packetsAt line))) ∧
        (line ∉ (t.pass c).sweep.seen →
          ((t.after c).ledger.get? line).map (·.packetsPerTick line) =
            (t.before.ledger.get? line).map (·.packetsPerTick line)) := by
  intro ts m'
  have hmarked : m'.Marked c d ts := marked_run hm ops
  refine ⟨hmarked.previous, ?_, ?_, ?_⟩
  · rw [hmarked.reported, Option.map_eq_none_iff, lastReported_eq_none_iff]
  · intro t ht
    have hlast : lastReported c d ts = some t := ht
    refine ⟨t.before.ticks + 1, hmarked.counted t (mem_of_lastReported hlast), ?_, ?_⟩
    · rw [hmarked.reported, hlast, Option.map_some]
    · rw [hmarked.windowStart, hlast]
      rfl
  · intro t ht line
    refine ⟨Taking.packetsPerTick_of_mem_seen ((coherent_history hm ops).1 t ht), fun hunseen ↦ ?_⟩
    -- the figure is part of the records
    have hrecords := congrArg (Option.map fun r : Option SendRecord × Option ReceiveRecord ↦
      (Entry.mk r.1 r.2 {}).packetsPerTick line) (Taking.records_of_not_seen hunseen)
    rw [Option.map_map, Option.map_map] at hrecords
    exact hrecords

/-- A microphone sends five packets until the first sample and seven until the second, which closes
the first window: both marks are of the second sample then. -/
theorem marks_of_second_sample :
    let m : Meter := { settings := {}, host := {} }
    let sent (n : UInt64) : Snapshot :=
      { audio := { senders := [{ report := [.outboundRtp { packetsSent := some n }] }] } }
    let ops : List Op := [.start 0, .timeout 0, .nextRequest, .read ⟨⟨1, 0⟩, 5000, sent 5⟩,
      .timeout 60000, .nextRequest, .read ⟨⟨1, 1⟩, 60000, sent 12⟩]
    let line : Line := .send .audio 0
    Meter.new {} {} = .ok m ∧
      (m.run ops).measurement.previous.map (fun k ↦ (k.tick, k.time)) = some (2, 60000) ∧
      (m.run ops).measurement.reported.isSome ∧
      ∀ t ∈ (m.history ops).getLast?,
        ((t.after {}).ledger.get? line).map (·.packetsPerTick line) = some 7 := by
  intro m sent ops line
  have hm : Meter.new {} {} = .ok m := rfl
  obtain ⟨hprevious, hreported, -, hlines⟩ := marks_hold hm ops
  refine ⟨hm, ?_, ?_, fun t ht ↦ ?_⟩
  · rw [hprevious]
    decide +kernel
  · rw [Option.isSome_iff_ne_none, Ne, hreported]
    decide +kernel
  · have hseen : ∀ t ∈ (m.history ops).getLast?, line ∈ (t.pass {}).sweep.seen := by
      decide +kernel
    rw [(hlines t (List.mem_of_getLast? ht) line).1 (hseen t ht)]
    revert t
    decide +kernel

end Meter

end MediaTelemetry
