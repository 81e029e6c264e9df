import MediaTelemetry.Proofs.Appearances
import MediaTelemetry.Proofs.Edges

/-!
# Lines that a sample does not describe

Taking a sample works on the whole ledger: it is swept, rated, watched and asked for live groups,
and the samples of a window that closes are emptied. All of these pass over a line that the sample
does not describe, whether the line is missing from the snapshot or listed there with a report that
has nothing to say about it.

* `Taking.get?_after_of_not_describes` is the whole entry of such a line afterwards: its records are
  the same, and its notes differ by what the snapshot says beside the report (`Taking.annotated`)
  and by the emptied samples only.
* `Taking.live_iff_described` is the other side: what makes a group live is a line that the sample
  describes.

Two invariants of a run are needed. No line was last seen at a sample still to come, so the watch
does not take a line that was passed over for one just seen; and the mark of the previous sample is
in step with the ledger, so a line whose counters stay has not moved.
-/

namespace MediaTelemetry

/-- A report that says nothing about its line only annotates it. -/
theorem LineReport.update_of_not_concerns {r : LineReport} {line : Line}
    (h : ¬ r.concerns line = true) (tick : Nat) (before : Option Entry) :
    r.update line tick before = before.map fun e ↦ { e with notes := r.annotate e.notes } := by
  rw [update, if_neg h]

/-- A look passes over a line that was not seen at its sample. -/
theorem Watch.note_of_not_seen {w : Watch} {e : Entry} (h : e.notes.lastSeen ≠ w.tick)
    (line : Line) : w.note line e = e := by
  have hcovers : w.covers line e = false := by
    rw [covers, beq_false_of_ne h, Bool.false_and, Bool.false_and]
  rw [note, hcovers, if_neg Bool.false_ne_true]

/-- The track label that is given with a report, if any. -/
def LineReport.trackLabel? : LineReport → Option String
  | .sender r => r.trackLabel
  | .receiver _ => none

namespace Taking

variable (t : Taking) (c : Settings) (line : Line)

/-- The notes of a line with what the snapshot says about it beside fragments. -/
def annotated (n : Notes) : Notes := (t.sample.snapshot.at? line).elim n fun r ↦ r.annotate n

/-- The line makes the group live: it is of the group, active, and has moved since the mark. -/
def Drives (g : Group) : Prop :=
  ∃ e, (t.pass c).rated.get? line = some e ∧ Group.of? line = some g ∧
    e.notes.isActiveAt t.sample.time c.recency = true ∧ 0 < e.livenessGrowth line t.before.previous

variable {t c line}

theorem live_iff_exists_drives {g : Group} :
    (t.pass c).live g = true ↔ ∃ line, t.Drives c line g :=
  Measurement.live_iff

/-- An annotation leaves alone what is known from samples. -/
theorem annotated_lastSeen (n : Notes) : (t.annotated line n).lastSeen = n.lastSeen := by
  rw [annotated]
  rcases t.sample.snapshot.at? line with _ | ⟨_ | _⟩ <;> rfl

/-! ### The stages of a sample -/

section NotDescribed

variable (h : ¬ t.Describes line)

include h

/-- The sweep passes over the line. -/
theorem get?_swept_of_not_describes :
    (t.pass c).swept.get? line =
      (t.before.ledger.get? line).map fun e ↦ { e with notes := t.annotated line e.notes } := by
  rw [describes_iff (c := c), pass, Measurement.mem_seen] at h
  rw [pass, Measurement.get?_swept]
  unfold annotated
  cases hr : t.sample.snapshot.at? line with
  | none => simp only [Option.elim_none, Option.map_id']
  | some r =>
    have hconcerns : ¬ r.concerns line = true := fun hc ↦ h ⟨r, hr, hc⟩
    exact LineReport.update_of_not_concerns hconcerns _ _

/-- No rates are set on the line. -/
theorem rate_of_not_describes (e : Entry) :
    t.before.rate c t.sample.time t.sample.snapshot line e = e := by
  rw [describes_iff (c := c)] at h
  exact if_neg h

/-- The look passes over the line, so what is left of it is what a closed window leaves. -/
theorem finish_of_not_describes {e : Entry} (hseen : e.notes.lastSeen ≤ t.before.ticks) :
    t.before.finish c t.sample.time t.sample.snapshot line e =
      if (t.pass c).closes then { e with notes := e.notes.clearSamples } else e := by
  have htick : e.notes.lastSeen ≠ (t.pass c).watch.tick := Nat.ne_of_lt (Nat.lt_succ_of_le hseen)
  have hnoted : t.before.rateAndNote c t.sample.time t.sample.snapshot line e = e := by
    rw [Measurement.rateAndNote, rate_of_not_describes h]
    exact Watch.note_of_not_seen htick line
  rw [Measurement.finish, hnoted]
  rfl

/-- **What a sample leaves of a line that it does not describe.** -/
theorem get?_after_of_not_describes (hseen : t.before.SeenBySamples) :
    (t.after c).ledger.get? line = (t.before.ledger.get? line).map fun e ↦
      { e with notes :=
          if (t.pass c).closes then (t.annotated line e.notes).clearSamples
          else t.annotated line e.notes } := by
  rw [get?_after, get?_swept_of_not_describes h, Option.map_map]
  refine Option.map_congr fun e he ↦ ?_
  have hlast : (t.annotated line e.notes).lastSeen ≤ t.before.ticks := by
    rw [annotated_lastSeen]
    exact hseen line e he
  rw [Function.comp_apply, finish_of_not_describes h hlast]
  split <;> rfl

/-- The line makes no group live. -/
theorem not_drives_of_not_describes (hcoherent : t.before.Coherent) (g : Group) :
    ¬ t.Drives c line g := by
  rintro ⟨e, he, -, -, hmoved⟩
  have hrated : (t.pass c).rated.get? line =
      ((t.pass c).swept.get? line).map (t.before.rate c t.sample.time t.sample.snapshot line) :=
    t.before.get?_rated ..
  rw [hrated, get?_swept_of_not_describes h, Option.map_map, Option.map_eq_some_iff] at he
  obtain ⟨e, he, rfl⟩ := he
  rw [Function.comp_apply, rate_of_not_describes h, hcoherent.livenessGrowth, he] at hmoved
  -- both counts are those of the entry as the sample found it
  exact absurd hmoved (by simp [grown, Entry.counters])

end NotDescribed

/-- **Only lines that a sample describes make their groups live.** -/
theorem live_iff_described (hcoherent : t.before.Coherent) {g : Group} :
    (t.pass c).live g = true ↔ ∃ line, t.Describes line ∧ t.Drives c line g := by
  rw [live_iff_exists_drives]
  constructor
  · rintro ⟨line, hdrives⟩
    refine ⟨line, ?_, hdrives⟩
    by_contra h
    exact not_drives_of_not_describes h hcoherent g hdrives
  · rintro ⟨line, -, hdrives⟩
    exact ⟨line, hdrives⟩

end Taking

/-! ### Runs -/

/-- Two entries agree on all that seeing a line changes: its records, its number and its silence. -/
structure Entry.SameAsSeen (e e' : Entry) : Prop where
  send : e'.send = e.send
  receive : e'.receive = e.receive
  lastSeen : e'.notes.lastSeen = e.notes.lastSeen
  packetsSilent : e'.notes.packetsSilent = e.notes.packetsSilent
  framesSilent : e'.notes.framesSilent = e.notes.framesSilent

theorem Entry.SameAsSeen.trans {e e' e'' : Entry} (h : e.SameAsSeen e') (h' : e'.SameAsSeen e'') :
    e.SameAsSeen e'' where
  send := h'.send.trans h.send
  receive := h'.receive.trans h.receive
  lastSeen := h'.lastSeen.trans h.lastSeen
  packetsSilent := h'.packetsSilent.trans h.packetsSilent
  framesSilent := h'.framesSilent.trans h.framesSilent

/-- The second entry is what a sample leaves of the first, on a line that it does not describe. -/
structure Entry.PassedOver (t : Taking) (c : Settings) (line : Line) (e e' : Entry) : Prop
    extends Entry.SameAsSeen e e' where
  /-- A track label is replaced by one that the snapshot gives. -/
  trackLabel : (t.sample.snapshot.at? line).bind (·.trackLabel?) = none →
    e'.notes.trackLabel = e.notes.trackLabel
  /-- The samples of a window that closes are emptied. -/
  roundTrips : e'.notes.roundTrips = if (t.pass c).closes then [] else e.notes.roundTrips
  jitters : e'.notes.jitters = if (t.pass c).closes then [] else e.notes.jitters
  /-- What is said beside the report is said of lines that the snapshot lists. -/
  requested : t.sample.snapshot.at? line = none → e'.notes.requested = e.notes.requested
  requestedAt : t.sample.snapshot.at? line = none → e'.notes.requestedAt = e.notes.requestedAt
  activeSpeaker : t.sample.snapshot.at? line = none →
    e'.notes.activeSpeaker = e.notes.activeSpeaker

theorem Taking.passedOver_annotated (t : Taking) (c : Settings) (line : Line) (e : Entry) :
    e.PassedOver t c line
      { e with notes :=
          if (t.pass c).closes then (t.annotated line e.notes).clearSamples
          else t.annotated line e.notes } := by
  unfold annotated
  cases hcloses : (t.pass c).closes <;>
    rcases hr : t.sample.snapshot.at? line with _ | ⟨r | r⟩ <;>
      refine ⟨⟨?_, ?_, ?_, ?_, ?_⟩, ?_, ?_, ?_, ?_, ?_, ?_⟩ <;>
        simp +contextual [hcloses, hr, LineReport.annotate, LineReport.trackLabel?,
          Notes.clearSamples]

namespace Meter

variable {c : Settings} {d : Host} {monitor : Monitor} {m : Meter}

/-- Samples that do not describe a line leave it as it was last seen, however many they are. -/
theorem sameAsSeen_run (hm : Meter.new c d monitor = .ok m) (ops later : List Op) {line : Line}
    {e : Entry}
    (he : (m.run ops).measurement.ledger.get? line = some e)
    (h : ∀ t ∈ (m.run ops).history later, ¬ t.Describes line) :
    ∃ e', (m.run (ops ++ later)).measurement.ledger.get? line = some e' ∧ e.SameAsSeen e' := by
  induction later using List.reverseRecOn with
  | nil => exact ⟨e, by rwa [List.append_nil], ⟨rfl, rfl, rfl, rfl, rfl⟩⟩
  | append_singleton later op ih =>
    rw [history_concat] at h
    obtain ⟨e', he', hsame⟩ := ih fun t ht ↦ h t (List.mem_append_left _ ht)
    rw [← run_append] at h
    rw [← List.append_assoc, run_concat]
    cases ht : (m.run (ops ++ later)).taking? op with
    | none =>
      obtain ⟨status, hstatus⟩ := measurement_step_of_not_taking ht
      exact ⟨e', by rwa [hstatus], hsame⟩
    | some t =>
      obtain ⟨-, hbefore, -⟩ := taking?_eq_some_iff.1 ht
      have hseen : t.before.SeenBySamples := hbefore ▸ seenBySamples_run hm _
      have hnot : ¬ t.Describes line := h t (List.mem_append_right _ (by rw [ht]; exact .head _))
      refine ⟨_, ?_, hsame.trans (t.passedOver_annotated c line e').toSameAsSeen⟩
      rw [measurement_step_of_taking ht, settings_run, settings_of_new hm,
        Taking.get?_after_of_not_describes hnot hseen, hbefore, he']
      rfl

/-- **Stale lines keep their values.** Let a sample be taken after any operations on a new meter,
and let a line be listed that the sample does not describe. The line is still listed afterwards, as
it was: with its records, its number and its silence; with its samples, unless the window closes;
with its label, if none is given; with its request and its speaker, if the snapshot does not list
it. Its records, number and silence stay until a later sample describes it again. And it makes no
group live: those that are have a line of their own that the sample describes. -/
theorem stale_lines_keep (hm : Meter.new c d monitor = .ok m) {ops : List Op} {s : Sample}
    (hs : (m.run ops).accepts s.request = true) {line : Line} {e : Entry}
    (he : (m.run ops).measurement.ledger.get? line = some e)
    (h : ¬ (Taking.mk (m.run ops).measurement s).Describes line) :
    let t : Taking := ⟨(m.run ops).measurement, s⟩
    let m' := m.run (ops ++ [.read s])
    (∃ e', m'.measurement.ledger.get? line = some e' ∧ e.PassedOver t c line e') ∧
      (∀ later, (∀ u ∈ m'.history later, ¬ u.Describes line) →
        ∃ e', (m'.run later).measurement.ledger.get? line = some e' ∧ e.SameAsSeen e') ∧
      ∀ g, ¬ t.Drives c line g ∧
        ((t.pass c).live g = true ↔ ∃ other, t.Describes other ∧ t.Drives c other g) := by
  intro t m'
  have hseen : t.before.SeenBySamples := seenBySamples_run hm ops
  have hcoherent : t.before.Coherent := (coherent_history hm ops).2
  have ht : (m.run ops).taking? (.read s) = some t := if_pos hs
  have hafter : m'.measurement = t.after c := by
    rw [show m' = _ from run_concat .., measurement_step_of_taking ht, settings_run,
      settings_of_new hm]
  obtain ⟨e', he', hpassed⟩ : ∃ e', m'.measurement.ledger.get? line = some e' ∧
      e.PassedOver t c line e' := by
    refine ⟨_, ?_, t.passedOver_annotated c line e⟩
    rw [hafter, Taking.get?_after_of_not_describes h hseen, he]
    rfl
  refine ⟨⟨e', he', hpassed⟩, fun later hlater ↦ ?_, fun g ↦
    ⟨Taking.not_drives_of_not_describes h hcoherent g, Taking.live_iff_described hcoherent⟩⟩
  obtain ⟨e'', he'', hsame⟩ := sameAsSeen_run hm _ later he' hlater
  rw [run_append] at he''
  exact ⟨e'', he'', hpassed.toSameAsSeen.trans hsame⟩

/-- A microphone sends five packets until the first sample. The second one lists it with an empty
report and as requested. -/
theorem microphone_stale_at_second_sample :
    let m : Meter := { settings := {}, host := {} }
    let sent : Snapshot :=
      { audio := { senders := [{ report := [.outboundRtp { packetsSent := some 5 }] }] } }
    let listed : Snapshot := { audio := { senders := [{ report := [], requested := some true }] } }
    let ops : List Op := [.start 0, .timeout 0, .nextRequest, .read ⟨⟨1, 0⟩, 5000, sent⟩,
      .timeout 10000, .nextRequest]
    let s : Sample := ⟨⟨1, 1⟩, 10000, listed⟩
    let t : Taking := ⟨(m.run ops).measurement, s⟩
    let line : Line := .send .audio 0
    Meter.new {} {} = .ok m ∧ (m.run ops).accepts s.request = true ∧ ¬ t.Describes line ∧
      ∃ e e', (m.run ops).measurement.ledger.get? line = some e ∧
        (m.run (ops ++ [.read s])).measurement.ledger.get? line = some e' ∧
          e'.send.map (·.packetsPerTick) = some 5 ∧ e'.notes.lastSeen = 1 ∧
            e.PassedOver t {} line e' ∧ ∀ g, ¬ t.Drives {} line g := by
  intro m sent listed ops s t line
  have hm : Meter.new {} {} = .ok m := rfl
  have hs : (m.run ops).accepts s.request = true := by decide +kernel
  have hnot : ¬ t.Describes line := by
    rw [Taking.describes_iff (c := {})]
    decide +kernel
  have hfirst : ((m.run ops).measurement.ledger.get? line).map (fun e ↦
      (e.send.map (·.packetsPerTick), e.notes.lastSeen)) = some (some 5, 1) := by decide +kernel
  obtain ⟨e, he, hfigures⟩ := Option.map_eq_some_iff.1 hfirst
  obtain ⟨hcount, hlast⟩ := Prod.mk.inj hfigures
  obtain ⟨⟨e', he', hkept⟩, -, hgroups⟩ := stale_lines_keep hm hs he hnot
  exact ⟨hm, hs, hnot, e, e', he, he', by rw [hkept.send, hcount], hkept.lastSeen.trans hlast,
    hkept, fun g ↦ (hgroups g).1⟩

end Meter

end MediaTelemetry
