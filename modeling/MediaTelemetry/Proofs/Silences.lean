import MediaTelemetry.Proofs.Watching

/-!
# Remarks on silence

A line that lacks packets or frames is remarked on at the sample that finds it silent, and not again
before a sample has looked and found otherwise. `notedIn_run` carries the note along a run: a line
is noted silent exactly if it was remarked on and every sample that looked since found it silent
(`Pending`). Both which silences are remarked on (`silence_remarked`) and that none is remarked on
twice (`one_remark_per_silence`) are read off it.

Only samples that look at the line count. A line that flows while it is not expected, or not active,
keeps its note, and its next silence goes without a remark (`silence_after_mute_unremarked`).
-/

namespace MediaTelemetry

namespace Meter

section Operation

variable {m : Meter} {op : Op} {line : Line}

theorem remarks_of_taking {t : Taking} (h : m.taking? op = some t) :
    m.remarks op = t.remarks m.settings m.host := by
  obtain ⟨rfl, hbefore, haccepts⟩ := taking?_eq_some_iff.1 h
  obtain ⟨hcurrent, horder⟩ := (Bool.and_eq_true _ _).mp haccepts
  rw [remarks, readRemarks, hcurrent, horder, Taking.remarks, hbefore]
  rfl

/-- Only samples that are taken find something missing. -/
theorem missing_remarks_of_not_taking (h : m.taking? op = none) :
    (m.remarks op).filterMap (·.missing? line) = [] := by
  have hstop : m.stopRemarks.filterMap (·.missing? line) = [] := by
    rw [stopRemarks]
    split <;> rfl
  cases op with
  | start now => rw [remarks]; split <;> rfl
  | stop | close => exact hstop
  | command command =>
    cases command with
    | expect status => rfl
    | stop => exact hstop
  | read s =>
    have hrejects : ¬ m.accepts s.request = true := fun ha ↦ by simp [taking?, ha] at h
    rw [accepts, Bool.and_eq_true, not_and] at hrejects
    rw [remarks, readRemarks]
    split
    · rfl
    · rename_i hcurrent
      rw [Bool.not_eq_true', Bool.not_eq_false] at hcurrent
      rw [if_pos (by rw [Bool.eq_false_iff.2 (hrejects hcurrent), Bool.not_false])]
      rfl
  | expect | timeout | nextRequest | nextNotice => rfl

end Operation

variable {c : Settings} {d : Host} {monitor : Monitor} {m : Meter}

/-- An operation remarks on what its sample, if it takes one, looks for, finds missing, and was not
noted missing. -/
theorem remark_mem_iff (hm : Meter.new c d monitor = .ok m) (ops : List Op) (op : Op) (k : Missing)
    (line : Line) :
    k.remark line ∈ (m.run ops).remarks op ↔
      ∃ t ∈ (m.run ops).taking? op, t.LooksFor c k line ∧ t.growth c k line = 0 ∧
        k.notedIn (m.run ops).measurement.ledger line = false := by
  rw [← Remark.mem_filterMap_missing?]
  cases ht : (m.run ops).taking? op with
  | none =>
    rw [missing_remarks_of_not_taking ht]
    simp
  | some t =>
    have hbefore := (taking?_eq_some_iff.1 ht).2.1
    rw [remarks_of_taking ht, settings_run, settings_of_new hm, Taking.mem_missing_remarks_iff
      (hbefore ▸ (coherent_history hm ops).2) (hbefore ▸ seenBySamples_run hm ops), hbefore]
    simp

/-- An operation leaves a line noted that it remarked on, or that was noted before if no sample now
found otherwise. -/
theorem notedIn_step (hm : Meter.new c d monitor = .ok m) (ops : List Op) (op : Op) (k : Missing)
    (line : Line) :
    k.notedIn (m.run (ops ++ [op])).measurement.ledger line = true ↔
      k.remark line ∈ (m.run ops).remarks op ∨
        k.notedIn (m.run ops).measurement.ledger line = true ∧
          ∀ t ∈ (m.run ops).taking? op, t.LooksFor c k line → t.growth c k line = 0 := by
  rw [remark_mem_iff hm, run_concat]
  cases ht : (m.run ops).taking? op with
  | none =>
    obtain ⟨status, hstatus⟩ := measurement_step_of_not_taking ht
    rw [hstatus]
    simp
  | some t =>
    have hbefore := (taking?_eq_some_iff.1 ht).2.1
    rw [measurement_step_of_taking ht, settings_run, settings_of_new hm, Taking.notedIn_after
      (hbefore ▸ (coherent_history hm ops).2) (hbefore ▸ seenBySamples_run hm ops), hbefore]
    simp only [Option.mem_some, exists_eq_left', forall_eq']
    cases k.notedIn (m.run ops).measurement.ledger line <;>
      by_cases hlooks : t.LooksFor c k line <;> simp [hlooks]

/-- Something was remarked to be missing on a line, and every sample that looked since found it
missing. -/
def Pending (m : Meter) (k : Missing) (line : Line) (ops : List Op) : Prop :=
  ∃ earlier op since, ops = earlier ++ op :: since ∧
    k.remark line ∈ (m.run earlier).remarks op ∧
      ∀ t ∈ (m.run (earlier ++ [op])).history since,
        t.LooksFor m.settings k line → t.growth m.settings k line = 0

theorem pending_concat (m : Meter) (k : Missing) (line : Line) (ops : List Op) (op : Op) :
    m.Pending k line (ops ++ [op]) ↔
      k.remark line ∈ (m.run ops).remarks op ∨
        m.Pending k line ops ∧ ∀ t ∈ (m.run ops).taking? op,
          t.LooksFor m.settings k line → t.growth m.settings k line = 0 := by
  have hhistory : ∀ earlier op' since, (m.run (earlier ++ [op'])).history (since ++ [op]) =
      (m.run (earlier ++ [op'])).history since ++
        ((m.run (earlier ++ op' :: since)).taking? op).toList := by
    intro earlier op' since
    rw [history_concat, ← run_append, List.append_assoc, List.singleton_append]
  constructor
  · rintro ⟨earlier, op', since, hops, hremark, hsince⟩
    -- the remark is one on the last operation, or it was made before that
    cases since using List.reverseRecOn with
    | nil =>
      obtain ⟨rfl, hop⟩ := List.append_inj' hops rfl
      obtain rfl := List.singleton_inj.1 hop
      exact .inl hremark
    | append_singleton since last _ =>
      rw [← List.cons_append, ← List.append_assoc] at hops
      obtain ⟨rfl, hop⟩ := List.append_inj' hops rfl
      obtain rfl := List.singleton_inj.1 hop
      rw [hhistory] at hsince
      refine .inr ⟨⟨earlier, op', since, rfl, hremark, fun t ht ↦ ?_⟩, fun t ht ↦ ?_⟩
      · exact hsince t (List.mem_append_left _ ht)
      · exact hsince t (List.mem_append_right _ (Option.mem_toList.2 ht))
  · rintro (hremark | ⟨⟨earlier, op', since, rfl, hremark, hsince⟩, hop⟩)
    · exact ⟨ops, op, [], rfl, hremark, by simp [history]⟩
    · refine ⟨earlier, op', since ++ [op], by simp, hremark, ?_⟩
      rw [hhistory, List.forall_mem_append]
      exact ⟨hsince, fun t ht ↦ hop t (Option.mem_toList.1 ht)⟩

/-- **Notes tell of remarks.** A line is noted silent exactly if it was remarked on and every sample
that looked since found it silent. -/
theorem notedIn_run (hm : Meter.new c d monitor = .ok m) (ops : List Op) (k : Missing)
    (line : Line) :
    k.notedIn (m.run ops).measurement.ledger line = true ↔ m.Pending k line ops := by
  induction ops using List.reverseRecOn with
  | nil =>
    have hnew : (m.run []).measurement.ledger = ∅ := by rw [run_nil, measurement_of_new hm]
    rw [hnew]
    refine iff_of_false (by simp [Missing.notedIn]) ?_
    rintro ⟨earlier, op, since, hops, -⟩
    exact absurd hops (by simp)
  | append_singleton ops op ih =>
    rw [notedIn_step hm, pending_concat, ih, settings_of_new hm]

theorem not_pending_iff (hm : Meter.new c d monitor = .ok m) (k : Missing) (line : Line)
    (ops : List Op) :
    ¬ m.Pending k line ops ↔ ∀ earlier op since, ops = earlier ++ op :: since →
      k.remark line ∈ (m.run earlier).remarks op →
        ∃ u ∈ (m.run (earlier ++ [op])).history since,
          u.LooksFor c k line ∧ 0 < u.growth c k line := by
  simp only [Pending, settings_of_new hm, not_exists, not_and, not_forall, exists_prop,
    Nat.pos_iff_ne_zero]

/-- **Which silences are remarked on.** Let a sample be taken after any operations on a new meter.
It remarks that packets, or frames, are missing on a line exactly if it looks for them, they have
not grown since the sample before, and after every earlier such remark on the line some sample
looked for them and found that they had grown. A sample that looks for them and finds that they have
grown takes the note of the silence away; one that does not look for them leaves it as it was. -/
theorem silence_remarked (hm : Meter.new c d monitor = .ok m) {ops : List Op} {s : Sample}
    (hs : (m.run ops).accepts s.request = true) (k : Missing) (line : Line) :
    let t : Taking := ⟨(m.run ops).measurement, s⟩
    let after := (m.run (ops ++ [Op.read s])).measurement.ledger
    (k.remark line ∈ (m.run ops).remarks (.read s) ↔
      t.LooksFor c k line ∧ t.growth c k line = 0 ∧
        ∀ earlier op since, ops = earlier ++ op :: since →
          k.remark line ∈ (m.run earlier).remarks op →
            ∃ u ∈ (m.run (earlier ++ [op])).history since,
              u.LooksFor c k line ∧ 0 < u.growth c k line) ∧
    (t.LooksFor c k line → 0 < t.growth c k line → k.notedIn after line = false) ∧
    (¬ t.LooksFor c k line → k.notedIn after line = k.notedIn t.before.ledger line) := by
  intro t after
  have ht : (m.run ops).taking? (.read s) = some t := if_pos hs
  have hafter : k.notedIn after line = true ↔ _ := notedIn_step hm ops (.read s) k line
  have hremark := remark_mem_iff hm ops (.read s) k line
  rw [ht] at hafter hremark
  simp only [Option.mem_some, forall_eq', exists_eq_left'] at hafter hremark
  refine ⟨?_, fun hlooks hgrowth ↦ ?_, fun hlooks ↦ ?_⟩
  · rw [hremark, ← not_pending_iff hm, ← notedIn_run hm, Bool.not_eq_true]
  · rw [← Bool.not_eq_true, hafter, hremark]
    rintro (⟨-, hstill, -⟩ | ⟨-, hstill⟩)
    · exact absurd hstill (Nat.pos_iff_ne_zero.1 hgrowth)
    · exact absurd (hstill hlooks) (Nat.pos_iff_ne_zero.1 hgrowth)
  · rw [Bool.eq_iff_iff, hafter, hremark]
    constructor
    · rintro (⟨hlooks', -⟩ | ⟨hnoted, -⟩)
      · exact absurd hlooks' hlooks
      · exact hnoted
    · exact fun hnoted ↦ .inr ⟨hnoted, fun hlooks' ↦ absurd hlooks' hlooks⟩

/-- A microphone that falls silent, sends, and falls silent again is remarked on again. -/
theorem silence_after_flow_remarked :
    let m : Meter := { settings := {}, host := {} }
    let line := Line.send .audio 0
    let sample (number packets : Nat) : Sample := ⟨⟨1, number⟩, 5000 * number,
      { audio := { senders :=
          [{ report := [.outboundRtp { packetsSent := some packets.toUInt64 }] }] } }⟩
    let start : List Op := [.start 0, .expect { sendAudio := true }]
    let ops := start ++ [.read (sample 1 0), .read (sample 2 10)]
    Missing.packets.remark line ∈ (m.run ops).remarks (.read (sample 3 10)) ∧
      (Taking.mk (m.run ops).measurement (sample 3 10)).growth {} .packets line = 0 ∧
      ∃ u ∈ (m.run (start ++ [.read (sample 1 0)])).history [.read (sample 2 10)],
        u.LooksFor {} .packets line ∧ 0 < u.growth {} .packets line := by
  intro m line sample start ops
  have hm : Meter.new {} {} = .ok m := rfl
  have hs : (m.run ops).accepts (sample 3 10).request = true := by decide +kernel
  have hfirst : Missing.packets.remark line ∈ (m.run start).remarks (.read (sample 1 0)) :=
    Remark.mem_filterMap_missing?.1 (by decide +kernel)
  have hagain : Missing.packets.remark line ∈ (m.run ops).remarks (.read (sample 3 10)) :=
    Remark.mem_filterMap_missing?.1 (by decide +kernel)
  obtain ⟨-, hstill, hflowed⟩ := (silence_remarked hm hs .packets line).1.1 hagain
  exact ⟨hagain, hstill, hflowed start _ _ rfl hfirst⟩

/-- A microphone that falls silent, sends while it is not expected, and falls silent again when it
is expected again is not remarked on again: the note of its first silence has outlasted its
sending. -/
theorem silence_after_mute_unremarked :
    let m : Meter := { settings := {}, host := {} }
    let line := Line.send .audio 0
    let sample (number packets : Nat) : Sample := ⟨⟨1, number⟩, 5000 * number,
      { audio := { senders :=
          [{ report := [.outboundRtp { packetsSent := some packets.toUInt64 }] }] } }⟩
    let start : List Op := [.start 0, .expect { sendAudio := true }]
    let silent := Op.read (sample 1 0)
    let since : List Op := [.expect {}, .read (sample 2 10), .expect { sendAudio := true }]
    let ops := start ++ silent :: since
    let t : Taking := ⟨(m.run ops).measurement, sample 3 10⟩
    Meter.new {} {} = .ok m ∧ (m.run ops).taking? (.read (sample 3 10)) = some t ∧
      t.LooksFor {} .packets line ∧ t.growth {} .packets line = 0 ∧
      Missing.packets.remark line ∈ (m.run start).remarks silent ∧
      (∃ u ∈ (m.run (start ++ [silent])).history since, 0 < u.growth {} .packets line ∧
        Missing.packets.notedIn (u.after {}).ledger line = true) ∧
      (∀ n ∈ [0, 1, 2], ∀ op ∈ since[n]?,
        Missing.packets.remark line ∉ (m.run (start ++ silent :: since.take n)).remarks op) ∧
      Missing.packets.remark line ∉ (m.run ops).remarks (.read (sample 3 10)) := by
  intro m line sample start silent since ops t
  have hs : (m.run ops).accepts (sample 3 10).request = true := by decide +kernel
  have hfirst : Missing.packets ∈ ((m.run start).remarks silent).filterMap (·.missing? line) := by
    decide +kernel
  have hsince : ∀ n ∈ [0, 1, 2], ∀ op ∈ since[n]?, Missing.packets ∉
      ((m.run (start ++ silent :: since.take n)).remarks op).filterMap (·.missing? line) := by
    decide +kernel
  have hagain : Missing.packets ∉
      ((m.run ops).remarks (.read (sample 3 10))).filterMap (·.missing? line) := by
    decide +kernel
  have hlooks : t.LooksFor {} .packets line :=
    { due := rfl
      seen := by decide +kernel
      expected := rfl
      active := by decide +kernel }
  have hflowed : ∃ u ∈ (m.run (start ++ [silent])).history since,
      0 < u.growth {} .packets line ∧
        Missing.packets.notedIn (u.after {}).ledger line = true :=
    ⟨⟨(m.run (start ++ [silent, .expect {}])).measurement, sample 2 10⟩, List.mem_singleton.2 rfl,
      by decide +kernel, by decide +kernel⟩
  exact ⟨rfl, taking?_eq_some_iff.2 ⟨rfl, rfl, hs⟩, hlooks, by decide +kernel,
    Remark.mem_filterMap_missing?.1 hfirst, hflowed,
    fun n hn op hop h ↦ hsince n hn op hop (Remark.mem_filterMap_missing?.2 h),
    fun h ↦ hagain (Remark.mem_filterMap_missing?.2 h)⟩

/-- **One remark per silence.** On a new meter, only samples that are taken remark that packets, or
frames, are missing on a line, and only when they look for them: the line was seen, is expected and
is active, and carries pictures if it is frames. A sample remarks on each at most once. Between two
operations that remark on the same, some sample looked for it and found that it had grown. What a
sample looks for and finds missing is remarked on, then or before. -/
theorem one_remark_per_silence (hm : Meter.new c d monitor = .ok m) (line : Line) :
    (∀ (k : Missing) (ops : List Op) (op : Op), k.remark line ∈ (m.run ops).remarks op →
      ∃ t ∈ (m.run ops).taking? op, t.LooksFor c k line) ∧
    (∀ (ops : List Op) (op : Op),
      (((m.run ops).remarks op).filterMap (·.missing? line)).Nodup) ∧
    (∀ (k : Missing) (earlier between : List Op) (op op' : Op),
      k.remark line ∈ (m.run earlier).remarks op →
      k.remark line ∈ (m.run (earlier ++ op :: between)).remarks op' →
        ∃ u ∈ (m.run (earlier ++ [op])).history between,
          u.LooksFor c k line ∧ 0 < u.growth c k line) ∧
    ∀ (k : Missing) (ops : List Op) (op : Op), ∀ t ∈ (m.run ops).taking? op,
      t.LooksFor c k line → t.growth c k line = 0 →
        k.remark line ∈ (m.run ops).remarks op ∨
          ∃ earlier op' since, ops = earlier ++ op' :: since ∧
            k.remark line ∈ (m.run earlier).remarks op' := by
  refine ⟨fun k ops op hremark ↦ ?_, fun ops op ↦ ?_,
    fun k earlier between op op' hfirst hsecond ↦ ?_, fun k ops op t ht hlooks hstill ↦ ?_⟩
  · obtain ⟨t, ht, hlooks, -⟩ := (remark_mem_iff hm ops op k line).1 hremark
    exact ⟨t, ht, hlooks⟩
  · cases ht : (m.run ops).taking? op with
    | none =>
      rw [missing_remarks_of_not_taking ht]
      exact .nil
    | some t =>
      rw [remarks_of_taking ht, Taking.missing_remarks]
      cases ((t.pass _).rated.get? line) with
      | none => exact .nil
      | some e => exact List.Nodup.filter _ (by decide)
  · -- the second remark says that the first one was not pending
    obtain ⟨t, -, -, -, hnoted⟩ := (remark_mem_iff hm _ op' k line).1 hsecond
    rw [← Bool.not_eq_true, notedIn_run hm, not_pending_iff hm] at hnoted
    exact hnoted earlier op between rfl hfirst
  · cases hnoted : k.notedIn (m.run ops).measurement.ledger line with
    | false => exact .inl ((remark_mem_iff hm ops op k line).2 ⟨t, ht, hlooks, hstill, hnoted⟩)
    | true =>
      obtain ⟨earlier, op', since, hops, hremark, -⟩ := (notedIn_run hm ops k line).1 hnoted
      exact .inr ⟨earlier, op', since, hops, hremark⟩

/-- A camera without frames is remarked on for packets and for frames, and again for frames alone
when it goes on without them. -/
theorem frames_missing_twice :
    let m : Meter := { settings := {}, host := {} }
    let line := Line.send .video 0
    let sample (number packets frames : Nat) : Sample := ⟨⟨1, number⟩, 5000 * number,
      { video := { senders := [{ report := [.outboundRtp
          { packetsSent := some packets.toUInt64, framesSent := some frames.toUInt64 }] }] } }⟩
    let start : List Op := [.start 0, .expect { sendVideo := true }]
    let silent := Op.read (sample 1 0 0)
    let flowing := Op.read (sample 2 5 3)
    let frozen := Op.read (sample 3 9 3)
    ((m.run start).remarks silent).filterMap (·.missing? line) = [.packets, .frames] ∧
      ((m.run (start ++ silent :: [flowing])).remarks frozen).filterMap (·.missing? line) =
        [.frames] ∧
      ∃ u ∈ (m.run (start ++ [silent])).history [flowing],
        u.LooksFor {} .frames line ∧ 0 < u.growth {} .frames line := by
  intro m line sample start silent flowing frozen
  have hfirst : ((m.run start).remarks silent).filterMap (·.missing? line) =
      [.packets, .frames] := by
    decide +kernel
  have hsecond : ((m.run (start ++ silent :: [flowing])).remarks frozen).filterMap
      (·.missing? line) = [.frames] := by
    decide +kernel
  refine ⟨hfirst, hsecond, (one_remark_per_silence (m := m) rfl line).2.2.1 .frames start
    [flowing] silent frozen ?_ ?_⟩
  · rw [← Remark.mem_filterMap_missing?, hfirst]
    decide
  · rw [← Remark.mem_filterMap_missing?, hsecond]
    decide

end Meter

end MediaTelemetry
