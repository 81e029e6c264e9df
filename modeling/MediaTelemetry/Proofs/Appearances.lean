import MediaTelemetry.Proofs.Records

/-!
# Lines appear when they are described and stay

A line is listed in the ledger from the first sample on whose report about it holds a fragment that
describes it (`Fragment.Describes`), and for good. What is noted as the sample that last carried it
is the last such sample, and the lines that one sample sees are those noted with its number
(`lines_listed`).

* `Measurement.Enrolled` is the invariant: unlisted lines have not been described so far, and
  listed ones carry the number of the last sample that did.
* `Taking.describes_iff` ties it to the sweep, which asks of a whole report at once whether it
  concerns its line.

So whoever walks the ledger may rely on what a line's place in it says: that it has a record of its
own direction, and that its number tells whether a sample missed it.
-/

namespace MediaTelemetry

/-! ### Descriptions -/

/-- The fragments that describe a line: sent streams and, for sound, capture sources a line that
sends; received streams and the far end's word on what it sends a line that receives; the far end's
word on what it receives either. No other fragment describes a line. -/
inductive Fragment.Describes (line : Line) : Fragment → Prop
  | sent (s : OutboundRtp) (h : line.direction = .send) : Describes line (.outboundRtp s)
  | captured (s : MediaSource) (h : line.direction = .send) (hsound : line.medium.isAudio = true) :
      Describes line (.mediaSource s)
  | received (s : InboundRtp) (h : line.direction = .receive) : Describes line (.inboundRtp s)
  | farReceived (s : RemoteInboundRtp) : Describes line (.remoteInboundRtp s)
  | farSent (s : RemoteOutboundRtp) (h : line.direction = .receive) :
      Describes line (.remoteOutboundRtp s)

theorem Fragment.concerns_iff {f : Fragment} {line : Line} :
    f.concerns line = true ↔ f.Describes line := by
  constructor
  · intro h
    cases f with
    | outboundRtp s => exact .sent s (by simpa [concerns, Line.isSend] using h)
    | inboundRtp s =>
      refine .received s ?_
      cases hd : line.direction with
      | send => simp [concerns, Line.isSend, hd] at h
      | receive => rfl
    | remoteInboundRtp s => exact .farReceived s
    | remoteOutboundRtp s =>
      refine .farSent s ?_
      cases hd : line.direction with
      | send => simp [concerns, Line.isSend, hd] at h
      | receive => rfl
    | mediaSource s =>
      have hboth : line.direction = .send ∧ line.medium.isAudio = true := by
        simpa [concerns, Line.isSend] using h
      exact .captured s hboth.1 hboth.2
    | candidatePair s | localCandidate s | other => exact absurd h Bool.false_ne_true
  · rintro (⟨s, h⟩ | ⟨s, h, hsound⟩ | ⟨s, h⟩ | ⟨s⟩ | ⟨s, h⟩) <;> simp [concerns, Line.isSend, *]

/-- The sample's report about a line describes it. -/
def Taking.Describes (t : Taking) (line : Line) : Prop :=
  ∃ r, t.sample.snapshot.at? line = some r ∧ ∃ f ∈ r.report, f.Describes line

/-- The last of the samples that describes the line is the one with the number; the first sample has
number one. -/
def LastDescribedAt (line : Line) (ts : List Taking) (number : Nat) : Prop :=
  ∃ earlier t later, ts = earlier ++ t :: later ∧ t.Describes line ∧
    (∀ u ∈ later, ¬ u.Describes line) ∧ number = earlier.length + 1

namespace LastDescribedAt

variable {line : Line} {ts : List Taking} {number : Nat} {t : Taking}

theorem bounds (h : LastDescribedAt line ts number) : 1 ≤ number ∧ number ≤ ts.length := by
  obtain ⟨earlier, t, later, rfl, -, -, rfl⟩ := h
  rw [List.length_append, List.length_cons]
  omega

/-- Some sample describes the line. -/
theorem exists_describes (h : LastDescribedAt line ts number) : ∃ t ∈ ts, t.Describes line := by
  obtain ⟨earlier, t, later, rfl, ht, -, -⟩ := h
  exact ⟨t, List.mem_append_right _ List.mem_cons_self, ht⟩

/-- A sample that describes the line is the last one to do so. -/
theorem concat (h : t.Describes line) : LastDescribedAt line (ts ++ [t]) (ts.length + 1) :=
  ⟨ts, t, [], rfl, h, by simp, rfl⟩

/-- A sample that does not describe the line leaves the last one to do so where it was. -/
theorem of_concat (h : LastDescribedAt line ts number) (ht : ¬ t.Describes line) :
    LastDescribedAt line (ts ++ [t]) number := by
  obtain ⟨earlier, u, later, rfl, hu, hlater, rfl⟩ := h
  refine ⟨earlier, u, later ++ [t], by simp, hu, fun v hv ↦ ?_, rfl⟩
  rcases List.mem_append.1 hv with hv | hv
  · exact hlater v hv
  · rwa [List.mem_singleton.1 hv]

end LastDescribedAt

/-! ### One sample -/

/-- The lines seen in a sweep come in strictly increasing order. -/
theorem Ledger.pairwise_seen_sweep (ledger : Ledger) (s : Snapshot) (tick : Nat) :
    (Ledger.sweep ledger s tick).2.seen.Pairwise fun a b ↦ compare a b = .lt := by
  rw [Ledger.sweep, Sweep.seen_foldl, List.nil_append]
  exact List.pairwise_map.2 (s.pairwise_lines.filter _)

namespace Taking

variable {t : Taking} {c : Settings} {line : Line}

/-- A sample sees the lines that it describes. -/
theorem describes_iff : t.Describes line ↔ line ∈ (t.pass c).sweep.seen := by
  rw [pass, Measurement.mem_seen, Describes]
  simp only [LineReport.concerns, List.any_eq_true, Fragment.concerns_iff]

/-- An entry is listed after a sample with the number that the sweep gave it. -/
theorem lastSeen_after {e : Entry} (h : e ∈ (t.after c).ledger.get? line) :
    ∃ e', (t.pass c).swept.get? line = some e' ∧ e.notes.lastSeen = e'.notes.lastSeen := by
  rw [get?_after, Option.mem_def, Option.map_eq_some_iff] at h
  obtain ⟨e', he', rfl⟩ := h
  exact ⟨e', he', (t.before.sameBooks_finish c _ _ line e').lastSeen⟩

end Taking

/-! ### The lines of a run -/

/-- How the lines of a ledger go with the samples taken. -/
structure Measurement.Enrolled (ts : List Taking) (m : Measurement) : Prop where
  ticks : m.ticks = ts.length
  /-- A line that is not listed has not been described. -/
  missing : ∀ line, m.ledger.get? line = none → ∀ t ∈ ts, ¬ t.Describes line
  /-- A line that is listed has the number of the last sample that described it. -/
  listed : ∀ line, ∀ e ∈ m.ledger.get? line, LastDescribedAt line ts e.notes.lastSeen

namespace Measurement.Enrolled

variable {ts : List Taking} {m : Measurement} {t : Taking} {c : Settings} {line : Line}

theorem initial (monitor : Monitor) : Enrolled [] { monitor } :=
  ⟨rfl, fun _ _ t ht ↦ absurd ht (by simp), fun _ e he ↦ absurd he (by simp)⟩

theorem expect (h : m.Enrolled ts) (status : Status) :
    ({ m with status } : Measurement).Enrolled ts :=
  ⟨h.ticks, h.missing, h.listed⟩

/-- **A sample enrols the lines that it describes** and leaves the others as they were. -/
theorem take (h : t.before.Enrolled ts) : (t.after c).Enrolled (ts ++ [t]) := by
  refine ⟨?_, fun line hnone u hu ↦ ?_, fun line e he ↦ ?_⟩
  · rw [List.length_append, List.length_singleton, ← h.ticks]
    rfl
  · rw [Taking.get?_after, Option.map_eq_none_iff] at hnone
    rcases List.mem_append.1 hu with hu | hu
    · exact h.missing line (get?_eq_none_of_swept hnone) u hu
    · rw [List.mem_singleton.1 hu, Taking.describes_iff (c := c)]
      intro hseen
      obtain ⟨e, he⟩ := Taking.exists_swept_of_seen hseen
      rw [he] at hnone
      exact absurd hnone (by simp)
  · obtain ⟨e', he', hnumber⟩ := Taking.lastSeen_after he
    rw [hnumber]
    rcases swept_cases he' with ⟨hseen, hlast⟩ | ⟨hunseen, e₀, he₀, -, hlast⟩
    · rw [hlast, h.ticks]
      exact .concat (Taking.describes_iff.2 hseen)
    · rw [hlast]
      exact (h.listed line e₀ he₀).of_concat fun ht ↦ hunseen (Taking.describes_iff.1 ht)

theorem contains_iff (h : m.Enrolled ts) :
    m.ledger.contains line = true ↔ ∃ t ∈ ts, t.Describes line := by
  rw [KeyMap.contains]
  cases hline : m.ledger.get? line with
  | none =>
    refine ⟨fun hsome ↦ absurd hsome Bool.false_ne_true, ?_⟩
    rintro ⟨t, ht, hdescribes⟩
    exact absurd hdescribes (h.missing line hline t ht)
  | some e => exact ⟨fun _ ↦ (h.listed line e hline).exists_describes, fun _ ↦ rfl⟩

/-- The lines that a sample sees are those listed afterwards with its number. -/
theorem mem_seen_iff (h : t.before.Enrolled ts) :
    line ∈ (t.pass c).sweep.seen ↔
      ∃ e ∈ (t.after c).ledger.get? line, e.notes.lastSeen = ts.length + 1 := by
  constructor
  · intro hseen
    obtain ⟨e, he⟩ := Taking.exists_swept_of_seen hseen
    have hlisted : t.before.finish c t.sample.time t.sample.snapshot line e ∈
        (t.after c).ledger.get? line := by
      rw [Taking.get?_after, he]
      rfl
    refine ⟨_, hlisted, ?_⟩
    rw [(t.before.sameBooks_finish c _ _ line e).lastSeen, ← h.ticks]
    rcases swept_cases he with ⟨-, hlast⟩ | ⟨hunseen, -⟩
    · exact hlast
    · exact absurd hseen hunseen
  · rintro ⟨e, he, hnow⟩
    obtain ⟨e', he', hnumber⟩ := Taking.lastSeen_after he
    rcases swept_cases he' with ⟨hseen, -⟩ | ⟨-, e₀, he₀, -, hlast⟩
    · exact hseen
    · -- a number from before is no larger than the number of samples before
      have hbefore := (h.listed line e₀ he₀).bounds.2
      omega

end Measurement.Enrolled

namespace Meter

variable {c : Settings} {d : Host} {monitor : Monitor} {m : Meter}

theorem enrolled_run (hm : Meter.new c d monitor = .ok m) (ops : List Op) :
    (m.run ops).measurement.Enrolled (m.history ops) := by
  obtain rfl := eq_of_new hm
  exact history_induction (P := fun ts before ↦ before.Enrolled ts) _ (.initial monitor)
    (fun _ _ status h ↦ h.expect status) (fun _ _ h ↦ h.take) ops

/-- **Which lines are listed.** After any operations on a new meter the ledger lists the lines that
some sample described, so a line once listed stays. Each has a record of its own direction and none
of the other, and is noted with the number of the last sample that described it, which is at least
one and at most the number of samples. The lines that a sample sees come in strictly increasing
order and are those listed with its number when it has been taken. -/
theorem lines_listed (hm : Meter.new c d monitor = .ok m) (ops : List Op) :
    let ts := m.history ops
    let ledger := (m.run ops).measurement.ledger
    (∀ line, ledger.contains line = true ↔ ∃ t ∈ ts, t.Describes line) ∧
      (∀ t ∈ ts, ∀ line, t.before.ledger.contains line = true →
        (t.after c).ledger.contains line = true) ∧
      (∀ line, ∀ e ∈ ledger.get? line,
        e.IsOf line.direction ∧ LastDescribedAt line ts e.notes.lastSeen ∧
          1 ≤ e.notes.lastSeen ∧ e.notes.lastSeen ≤ ts.length) ∧
      ∀ earlier t later, ts = earlier ++ t :: later →
        ((t.pass c).sweep.seen.Pairwise fun a b ↦ compare a b = .lt) ∧
          ∀ line, line ∈ (t.pass c).sweep.seen ↔
            ∃ e ∈ (t.after c).ledger.get? line, e.notes.lastSeen = earlier.length + 1 := by
  intro ts ledger
  have henrolled : (m.run ops).measurement.Enrolled ts := enrolled_run hm ops
  have hfound : ∀ earlier t later, ts = earlier ++ t :: later → t.before.Enrolled earlier := by
    intro earlier t later hsplit
    obtain ⟨ops', rfl, hbefore⟩ := m.history_split hsplit
    exact hbefore ▸ enrolled_run hm ops'
  refine ⟨fun line ↦ henrolled.contains_iff, fun t ht line hbefore ↦ ?_, fun line e he ↦ ?_,
    fun earlier t later hsplit ↦ ⟨Ledger.pairwise_seen_sweep _ _ _, fun line ↦ ?_⟩⟩
  · obtain ⟨earlier, later, hsplit⟩ := List.append_of_mem ht
    have hold := hfound earlier t later hsplit
    obtain ⟨u, hu, hdescribes⟩ := hold.contains_iff.1 hbefore
    exact (hold.take (c := c)).contains_iff.2 ⟨u, List.mem_append_left _ hu, hdescribes⟩
  · have hlast := henrolled.listed line e he
    exact ⟨ownRecords_run hm ops line e he, hlast, hlast.bounds⟩
  · exact (hfound earlier t later hsplit).mem_seen_iff

/-- A microphone is described by the first of two samples, and a shared screen by the second, which
still lists the microphone. Both list a camera that is received, but with a stream that is sent, a
candidate and an entry of no use: that line never appears. -/
theorem lines_of_two_samples :
    let m : Meter := { settings := {}, host := {} }
    let astray : MediumReport :=
      { receivers := [{ report := [.outboundRtp {}, .localCandidate {}, .other] }] }
    let ops : List Op := [.start 0, .timeout 0, .nextRequest,
      .read ⟨⟨1, 0⟩, 5000, { audio := { senders := [{ report := [.mediaSource {}] }] }
                             video := astray }⟩,
      .timeout 5000, .nextRequest,
      .read ⟨⟨1, 1⟩, 10000, { audio := { senders := [{ report := [.other] }] }
                              video := astray
                              shareVideo := { senders := [{ report := [.outboundRtp {}] }] } }⟩]
    Meter.new {} {} = .ok m ∧
      LastDescribedAt (.send .audio 0) (m.history ops) 1 ∧
      LastDescribedAt (.send .shareVideo 0) (m.history ops) 2 ∧
      (¬ ∃ t ∈ m.history ops, t.Describes (.receive .video 0)) ∧
      ∀ t ∈ (m.history ops).getLast?, (t.pass {}).sweep.seen = [.send .shareVideo 0] ∧
        (t.pass {}).sweep.seen.Pairwise fun a b ↦ compare a b = .lt := by
  intro m astray ops
  have hm : Meter.new {} {} = .ok m := rfl
  obtain ⟨hlisted, -, hlines, hsamples⟩ := lines_listed hm ops
  have hnumber : ∀ line number,
      ((m.run ops).measurement.ledger.get? line).map (·.notes.lastSeen) = some number →
        LastDescribedAt line (m.history ops) number := by
    intro line number h
    obtain ⟨e, he, rfl⟩ := Option.map_eq_some_iff.1 h
    exact (hlines line e he).2.1
  refine ⟨hm, hnumber _ _ (by decide +kernel), hnumber _ _ (by decide +kernel), ?_,
    fun t ht ↦ ⟨?_, ?_⟩⟩
  · rw [← hlisted]
    decide +kernel
  · revert t
    decide +kernel
  · obtain ⟨earlier, hsplit⟩ := List.getLast?_eq_some_iff.1 ht
    exact (hsamples earlier t [] hsplit).1

end Meter

end MediaTelemetry
