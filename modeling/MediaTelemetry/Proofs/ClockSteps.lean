import MediaTelemetry.Proofs.Windows

/-!
# Quality windows across a step of the clock

The clock of samples may be set back while a quality window is open. The window then starts in the
future, and each sample that finds it there takes it to be one interval long, however many such
samples have gone by: nothing is added up. Where a window takes more than one sample, none of them
closes it, and the next report has to wait until the clock has caught up with all that it lost
(`Settings.samplesAcross`).

`Meter.reports_across_step` counts the samples for any step: before it and after the late report,
quality reports come at their usual cadence, but from one to the other it takes more samples the
further the clock was set back. So no number of samples is sure to hold a report
(`Meter.unreported_after_step`).
-/

namespace MediaTelemetry

/-! ### The late report -/

namespace Settings

/-- The number of samples from one quality report to the next where in between the clock is set back
by `lost` milliseconds. -/
def samplesAcross (c : Settings) (lost : Nat) : Nat :=
  if c.samplesPerWindow = 1 then 1
  else { c with qualityInterval := c.qualityInterval + lost + c.interval }.samplesPerWindow

variable {c : Settings}

theorem samplesAcross_le_iff (h : 0 < c.interval) (hlong : c.samplesPerWindow ≠ 1) {lost g : Nat} :
    c.samplesAcross lost ≤ g ↔
      2 * (c.qualityInterval + lost + c.interval) ≤ 2 * (g * c.interval) + c.interval := by
  rw [samplesAcross, if_neg hlong]
  exact samplesPerWindow_le_iff (c := { c with qualityInterval := _ + lost + c.interval }) h

/-- The late report comes at the sample at which it would have come, or at a later one. -/
theorem samplesPerWindow_le_samplesAcross (h : 0 < c.interval) (lost : Nat) :
    c.samplesPerWindow ≤ c.samplesAcross lost := by
  by_cases hlong : c.samplesPerWindow = 1
  · rw [samplesAcross, if_pos hlong, hlong]
  · have hacross := (samplesAcross_le_iff h hlong).1 (le_refl (c.samplesAcross lost))
    rw [samplesPerWindow_le_iff h]
    omega

end Settings

/-! ### Taking part of evenly spaced samples -/

theorem take_append_cons_drop {α : Type*} {l : List α} {i : Nat} {a : α} (h : l[i]? = some a) :
    l = l.take i ++ a :: l.drop (i + 1) := by
  obtain ⟨hlt, rfl⟩ := List.getElem?_eq_some_iff.1 h
  rw [List.getElem_cons_drop, List.take_append_drop]

namespace EvenlySpaced

variable {c : Settings} {t₀ : Nat} {ts : List Taking}

theorem take (h : EvenlySpaced c t₀ ts) (k : Nat) : EvenlySpaced c t₀ (ts.take k) := by
  rw [← List.take_append_drop k ts] at h
  exact h.of_append

theorem drop (h : EvenlySpaced c t₀ ts) (k : Nat) :
    EvenlySpaced c (t₀ + k * c.interval) (ts.drop k) := by
  intro i t hi
  rw [List.getElem?_drop] at hi
  rw [h _ t hi, Nat.add_mul]
  omega

end EvenlySpaced

/-! ### Windows that open in the future -/

/-- Every sample measures its window from where the samples before it opened it, and takes it for
one interval if that is not in the past. -/
def Measured (c : Settings) (d : Host) (ts : List Taking) : Prop :=
  ∀ earlier t later, ts = earlier ++ t :: later →
    (t.pass c).window = elapsedSince (some (windowOpened c d earlier t)) t.sample.time c.tick

theorem Meter.measured_history {c : Settings} {d : Host} {monitor : Monitor} {m : Meter}
    (hm : Meter.new c d monitor = .ok m) (ops : List Op) : Measured c d (m.history ops) :=
  fun _ _ _ hsplit ↦ window_of_split hm hsplit

namespace Measured

variable {c : Settings} {d : Host} {before after : List Taking} {t : Taking}

theorem measuredAfter (before : List Taking) (h : Measured c d (before ++ after)) :
    MeasuredAfter c d before after := by
  intro earlier u later hsplit hlt
  have hwindow := h (before ++ earlier) u later (by rw [hsplit, List.append_assoc])
  rw [elapsedSince, if_pos hlt] at hwindow
  rw [hwindow]
  dsimp only
  omega

/-- A sample that the clock took back before the start of its window takes it for one interval. -/
theorem window_of_le (h : Measured c d (before ++ t :: after))
    (hle : t.sample.time ≤ windowOpened c d before t) : (t.pass c).window.millis = c.interval := by
  rw [h before t after rfl, elapsedSince, if_neg (Nat.not_lt.2 hle)]
  rfl

/-- Where a window takes more than one sample, it closes once the clock has gone far enough past its
start, and not before that start. -/
theorem closes_iff (h : Measured c d (before ++ t :: after)) (hinterval : 0 < c.interval)
    (hle : c.interval ≤ c.qualityInterval) (hlong : c.samplesPerWindow ≠ 1) :
    (t.pass c).closes = true ↔
      2 * (c.qualityInterval + windowOpened c d before t) ≤ 2 * t.sample.time + c.interval := by
  have hone : ¬ 2 * c.qualityInterval ≤ 2 * (1 * c.interval) + c.interval := by
    have hpos := Settings.samplesPerWindow_pos hinterval hle
    rw [← Settings.samplesPerWindow_le_iff hinterval]
    omega
  rw [Taking.closes_iff]
  by_cases hlt : windowOpened c d before t < t.sample.time
  · rw [h before t after rfl, elapsedSince, if_pos hlt]
    dsimp only
    omega
  · rw [h.window_of_le (Nat.not_lt.1 hlt)]
    omega

end Measured

/-! ### One step back -/

/-- Samples come one interval after another, the first at `t₀`, but for one step of the clock: after
`k` samples it is set back, and the next one comes at `s`. -/
structure StepsBack (c : Settings) (t₀ k s : Nat) (ts : List Taking) : Prop where
  pos : 0 < k
  before : EvenlySpaced c t₀ (ts.take k)
  back : s < t₀ + (k - 1) * c.interval
  after : EvenlySpaced c s (ts.drop k)

namespace StepsBack

variable {c : Settings} {d : Host} {t₀ k s : Nat} {before between ts rest : List Taking}
  {t : Taking}

/-- How far the clock is set back. -/
def lost (c : Settings) (t₀ k s : Nat) : Nat := t₀ + (k - 1) * c.interval - s

/-- The number of the last sample before the step that tells a report, counted from 1; 0 if none
does. -/
def last (c : Settings) (k : Nat) : Nat := c.samplesPerWindow * (k / c.samplesPerWindow)

/-- The number of the first sample after the step that tells a report. -/
def next (c : Settings) (t₀ k s : Nat) : Nat := last c k + c.samplesAcross (lost c t₀ k s)

theorem lt_next (hinterval : 0 < c.interval) (hle : c.interval ≤ c.qualityInterval) :
    k < next c t₀ k s := by
  have hpos := Settings.samplesPerWindow_pos hinterval hle
  have hacross := Settings.samplesPerWindow_le_samplesAcross hinterval (lost c t₀ k s)
  have hmod := Nat.mod_lt k hpos
  have hdiv := Nat.div_add_mod k c.samplesPerWindow
  rw [next, last]
  omega

theorem time_after (h : StepsBack c t₀ k s (before ++ (between ++ t :: rest)))
    (hk : before.length = k) : t.sample.time = s + between.length * c.interval := by
  refine h.after _ t ?_
  rw [List.drop_left' hk, List.getElem?_append_right le_rfl, Nat.sub_self]
  rfl

/-- The window that the step found open closes with the late report. -/
theorem closes_iff (h : StepsBack c t₀ k s (before ++ (between ++ t :: rest)))
    (hmeasured : Measured c d (before ++ (between ++ t :: rest)))
    (hinterval : 0 < c.interval) (hle : c.interval ≤ c.qualityInterval) (hk : before.length = k)
    (hopened : windowOpened c d (before ++ between) t + c.interval = t₀ + last c k * c.interval)
    (hnext : k + between.length < next c t₀ k s) :
    (t.pass c).closes = true ↔ k + between.length + 1 = next c t₀ k s := by
  rw [← List.append_assoc] at hmeasured
  have htime := h.time_after hk
  have hback := h.back
  have hbefore : k * c.interval = (k - 1) * c.interval + c.interval := by
    rw [← Nat.succ_mul, Nat.succ_eq_add_one, Nat.sub_add_cancel h.pos]
  by_cases hlong : c.samplesPerWindow = 1
  · -- every window takes one sample, and the first one after the step is the next
    have hlast : last c k = k := by rw [last, hlong, Nat.div_one, Nat.one_mul]
    have hacross : next c t₀ k s = k + 1 := by
      rw [next, hlast, Settings.samplesAcross, if_pos hlong]
    have hzero : between.length = 0 := by omega
    have hshort := (Settings.samplesPerWindow_le_iff hinterval (n := 1)).1 (Nat.le_of_eq hlong)
    rw [hzero] at htime
    rw [hlast] at hopened
    rw [Taking.closes_iff, hmeasured.window_of_le (by omega)]
    omega
  · have hlast : last c k ≤ k := Nat.mul_div_le _ _
    have hsince : (k + between.length + 1 - last c k) * c.interval + last c k * c.interval =
        k * c.interval + between.length * c.interval + c.interval := by
      rw [← Nat.add_mul, Nat.sub_add_cancel (by omega), Nat.add_mul, Nat.add_mul, Nat.one_mul]
    have hacross : c.samplesAcross (lost c t₀ k s) ≤ k + between.length + 1 - last c k ↔ _ :=
      Settings.samplesAcross_le_iff hinterval hlong
    rw [lost] at hacross
    rw [hmeasured.closes_iff hinterval hle hlong]
    rw [next, lost] at hnext ⊢
    omega

/-- Before the step, windows open as they do without one. -/
theorem windowOpened_before (h : StepsBack c t₀ k s (before ++ rest))
    (hmeasured : Measured c d (before ++ rest)) (hinterval : 0 < c.interval)
    (hle : c.interval ≤ c.qualityInterval) (hfirst : c.interval ≤ t₀) (hk : before.length = k) :
    windowOpened c d before t + c.interval = t₀ + last c k * c.interval := by
  have hspaced : EvenlySpaced c t₀ before := by
    have hbefore := h.before
    rwa [List.take_left' hk] at hbefore
  have hfresh : MeasuredAfter c d [] (before ++ rest) :=
    Measured.measuredAfter [] hmeasured
  have hopened := hfresh.of_append.windowOpened_eq (t := t) hinterval hle hspaced (by
    cases before with
    | nil => exact absurd h.pos (Nat.not_lt.2 (Nat.le_of_eq hk.symm))
    | cons u rest => exact hspaced.windowOpened_nil hfirst)
  rwa [hk] at hopened

/-- The window that the step found open stays open until the late report. -/
theorem windowOpened_between (h : StepsBack c t₀ k s (before ++ (between ++ rest)))
    (hmeasured : Measured c d (before ++ (between ++ rest))) (hinterval : 0 < c.interval)
    (hle : c.interval ≤ c.qualityInterval) (hfirst : c.interval ≤ t₀) (hk : before.length = k)
    (hnext : k + between.length < next c t₀ k s) :
    windowOpened c d (before ++ between) t + c.interval = t₀ + last c k * c.interval := by
  induction between using List.reverseRecOn generalizing rest t with
  | nil =>
    rw [List.append_nil]
    exact h.windowOpened_before hmeasured hinterval hle hfirst hk
  | append_singleton between u ih =>
    rw [List.append_assoc, List.singleton_append] at h hmeasured
    rw [List.length_append, List.length_singleton] at hnext
    have hopened := ih (t := u) h hmeasured (by omega)
    have hopen : ¬ (u.pass c).closes = true := by
      rw [h.closes_iff hmeasured hinterval hle hk hopened (by omega)]
      omega
    rwa [← List.append_assoc, windowOpened_concat, if_neg hopen]

/-- After the late report, windows open as if it had been the first. -/
theorem windowOpened_after (h : StepsBack c t₀ k s (before ++ (between ++ rest)))
    (hmeasured : Measured c d (before ++ (between ++ rest))) (hinterval : 0 < c.interval)
    (hle : c.interval ≤ c.qualityInterval) (hfirst : c.interval ≤ t₀) (hk : before.length = k)
    (hnext : k + between.length = next c t₀ k s) :
    windowOpened c d (before ++ between) t + c.interval =
      s + between.length * c.interval := by
  cases between using List.reverseRecOn with
  | nil => exact absurd hnext (Nat.ne_of_lt (lt_next hinterval hle))
  | append_singleton between u =>
    rw [List.append_assoc, List.singleton_append] at h hmeasured
    rw [List.length_append, List.length_singleton] at hnext ⊢
    have hopened : windowOpened c d (before ++ between) u + c.interval =
        t₀ + last c k * c.interval :=
      h.windowOpened_between hmeasured hinterval hle hfirst hk (by omega)
    have hclosed : (u.pass c).closes = true := by
      rw [h.closes_iff hmeasured hinterval hle hk hopened (by omega)]
      omega
    have htime := h.time_after hk
    rw [← List.append_assoc, windowOpened_concat, if_pos hclosed, htime, Nat.add_mul]
    omega

/-! ### The samples that report -/

theorem closes_before (h : StepsBack c t₀ k s (before ++ t :: rest))
    (hmeasured : Measured c d (before ++ t :: rest)) (hinterval : 0 < c.interval)
    (hle : c.interval ≤ c.qualityInterval) (hfirst : c.interval ≤ t₀) (hk : before.length < k) :
    (t.pass c).closes = true ↔ c.samplesPerWindow ∣ before.length + 1 := by
  rw [List.append_cons] at h hmeasured
  have hspaced : EvenlySpaced c t₀ (before ++ [t]) := by
    have hbefore := h.before
    rw [List.take_append, List.take_of_length_le (by simpa using Nat.succ_le_of_lt hk)] at hbefore
    exact hbefore.of_append
  have hfresh : MeasuredAfter c d [] (before ++ [t] ++ rest) := Measured.measuredAfter [] hmeasured
  exact hfresh.of_append.closes_iff_dvd hinterval hle hspaced (hspaced.windowOpened_nil hfirst)

theorem closes_after (h : StepsBack c t₀ k s (before ++ (between ++ (ts ++ t :: rest))))
    (hmeasured : Measured c d (before ++ (between ++ (ts ++ t :: rest))))
    (hinterval : 0 < c.interval) (hle : c.interval ≤ c.qualityInterval) (hfirst : c.interval ≤ t₀)
    (hk : before.length = k) (hnext : k + between.length = next c t₀ k s) :
    (t.pass c).closes = true ↔ c.samplesPerWindow ∣ ts.length + 1 := by
  rw [List.append_cons] at h hmeasured
  have hspaced : EvenlySpaced c (s + between.length * c.interval) (ts ++ [t]) := by
    have hafter := h.after.drop between.length
    rw [List.drop_left' hk, List.drop_left] at hafter
    exact hafter.of_append
  have hfresh : MeasuredAfter c d (before ++ between) (ts ++ [t] ++ rest) :=
    Measured.measuredAfter _ (by rwa [← List.append_assoc] at hmeasured)
  exact hfresh.of_append.closes_iff_dvd hinterval hle hspaced fun u _ ↦
    h.windowOpened_after hmeasured hinterval hle hfirst hk hnext

end StepsBack

namespace Meter

variable {c : Settings} {d : Host} {monitor : Monitor} {m : Meter}

/-- **A step back of the clock delays one quality report, by as many samples as it takes the clock
to catch up.** Let the samples that a new meter takes during some operations come one interval after
another, the first at `t₀`, no earlier than one interval, but let the clock be set back after `k` of
them, to `s`. Up to there reports are told at the multiples of the number of samples of a window.
The next report is told `Settings.samplesAcross` samples after the last of these, or after the start
if there was none, and from it on reports come at the usual distance again. In between, a sample
that does not lie past the start of the open window takes it for one interval. Where one sample
makes a window the step delays nothing. Otherwise the report takes the least number of samples that
make up for a window, for what the clock lost and for the interval of the step: longer than the
clock was set back. -/
theorem reports_across_step (hm : Meter.new c d monitor = .ok m) {ops : List Op} {t₀ k s : Nat}
    (hfirst : c.interval ≤ t₀) (hstep : StepsBack c t₀ k s (m.history ops)) :
    let n := c.samplesPerWindow
    let lost := t₀ + (k - 1) * c.interval - s
    let last := n * (k / n)
    let next := last + c.samplesAcross lost
    k < next ∧
      (∀ i t, (m.history ops)[i]? = some t →
        (t.reports c d ≠ [] ↔
          if i < k then n ∣ i + 1 else next ≤ i + 1 ∧ n ∣ i + 1 - next)) ∧
      (∀ i t, (m.history ops)[i]? = some t → k ≤ i → i < next →
        t.sample.time + c.interval ≤ t₀ + last * c.interval →
          (t.pass c).window.millis = c.interval) ∧
      (n = 1 → c.samplesAcross lost = 1) ∧
      (n ≠ 1 →
        IsLeast
            {g | 2 * (c.qualityInterval + lost + c.interval) ≤ 2 * (g * c.interval) + c.interval}
            (c.samplesAcross lost) ∧
          lost < c.samplesAcross lost * c.interval) := by
  intro n lost last next
  obtain ⟨hinterval, hle, -, -⟩ := isUsable_of_new hm
  have hmeasured := measured_history hm ops
  generalize m.history ops = ts at hstep hmeasured
  -- the sample among those before the step, or among those after it
  have hsplit : ∀ i t, ts[i]? = some t → k ≤ i → ∃ before between rest,
      ts = before ++ (between ++ t :: rest) ∧ before.length = k ∧ k + between.length = i := by
    intro i t hi hki
    obtain ⟨hlt, -⟩ := List.getElem?_eq_some_iff.1 hi
    have hafter : (ts.drop k)[i - k]? = some t := by
      rw [List.getElem?_drop, Nat.add_sub_cancel' hki, hi]
    refine ⟨ts.take k, (ts.drop k).take (i - k), (ts.drop k).drop (i - k + 1), ?_, ?_, ?_⟩
    · rw [← take_append_cons_drop hafter, List.take_append_drop]
    · rw [List.length_take]
      omega
    · rw [List.length_take, List.length_drop]
      omega
  refine ⟨StepsBack.lt_next hinterval hle, fun i t hi ↦ ?_, fun i t hi hki hnext htime ↦ ?_,
    fun hone ↦ if_pos hone, fun hlong ↦ ?_⟩
  · rw [Taking.reports_ne_nil_iff]
    split
    · rename_i hik
      have hts := take_append_cons_drop hi
      have hlength : (ts.take i).length = i := by
        have hlt := (List.getElem?_eq_some_iff.1 hi).1
        rw [List.length_take]
        omega
      rw [hts] at hstep hmeasured
      rw [hstep.closes_before hmeasured hinterval hle hfirst (by omega), hlength]
    · rename_i hki
      obtain ⟨before, between, rest, rfl, hk, rfl⟩ := hsplit i t hi (Nat.le_of_not_lt hki)
      by_cases hnext : k + between.length < next
      · have hopened : windowOpened c d (before ++ between) t + c.interval =
            t₀ + last * c.interval :=
          hstep.windowOpened_between hmeasured hinterval hle hfirst hk hnext
        have hcloses : (t.pass c).closes = true ↔ k + between.length + 1 = next :=
          hstep.closes_iff hmeasured hinterval hle hk hopened hnext
        rw [hcloses]
        constructor
        · intro hlate
          rw [hlate, Nat.sub_self]
          exact ⟨le_rfl, Nat.dvd_zero _⟩
        · intro hlate
          exact Nat.le_antisymm hnext hlate.1
      · -- the late report is among the samples between
        have hlater : k < next := StepsBack.lt_next hinterval hle
        have hlength : k + (between.take (next - k)).length = next := by
          rw [List.length_take]
          omega
        have hrest : (between.drop (next - k)).length + 1 = k + between.length + 1 - next := by
          rw [List.length_drop]
          omega
        rw [← List.take_append_drop (next - k) between, List.append_assoc] at hstep hmeasured
        rw [hstep.closes_after hmeasured hinterval hle hfirst hk hlength, hrest]
        exact ⟨fun hdvd ↦ ⟨by omega, hdvd⟩, fun h ↦ h.2⟩
  · obtain ⟨before, between, rest, rfl, hk, rfl⟩ := hsplit i t hi hki
    have hopened : windowOpened c d (before ++ between) t + c.interval = t₀ + last * c.interval :=
      hstep.windowOpened_between hmeasured hinterval hle hfirst hk hnext
    rw [← List.append_assoc] at hmeasured
    exact hmeasured.window_of_le (by omega)
  · have hleast : ∀ g, c.samplesAcross lost ≤ g ↔ _ :=
      fun g ↦ Settings.samplesAcross_le_iff (g := g) hinterval hlong
    have hacross := (hleast _).1 le_rfl
    exact ⟨⟨hacross, fun g hg ↦ (hleast g).2 hg⟩, by omega⟩

/-- The samples of a meter at given times, each asked for just before. -/
def samplesAt (times : List Nat) : List Op :=
  .start 0 :: (times.zipIdx.flatMap fun (time, k) ↦
    [.timeout (2 * k), .nextRequest, .read ⟨⟨1, k⟩, time, {}⟩])

/-- Windows of two samples, two milliseconds apart, and a clock that loses eight milliseconds after
the third sample. The second sample tells a report, and the next one is not due before the ninth. -/
theorem report_of_ninth_sample :
    let c : Settings := { interval := 2, qualityInterval := 5 }
    let m : Meter := { settings := c, host := {} }
    let ts := m.history (samplesAt [20, 22, 24, 16, 18, 20, 22, 24, 26])
    StepsBack c 20 3 16 ts ∧ c.samplesAcross 8 = 7 ∧
      (∃ t, ts[8]? = some t ∧ t.reports c {} ≠ []) ∧
      ∃ t, ts[6]? = some t ∧ t.reports c {} = [] := by
  have hm : Meter.new { interval := 2, qualityInterval := 5 } {} =
      .ok { settings := { interval := 2, qualityInterval := 5 } } := rfl
  intro c m ts
  have hstep : StepsBack c 20 3 16 ts :=
    ⟨by decide, by decide +kernel, by decide, by decide +kernel⟩
  have hacross : c.samplesAcross 8 = 7 := by decide
  obtain ⟨-, hreports, -⟩ := reports_across_step hm (by decide : c.interval ≤ 20) hstep
  have hlength : ts.length = 9 := by decide +kernel
  have hninth : ts[8]? = some ts[8] := List.getElem?_eq_getElem (by omega)
  have hseventh : ts[6]? = some ts[6] := List.getElem?_eq_getElem (by omega)
  refine ⟨hstep, hacross, ⟨_, hninth, (hreports 8 _ hninth).2 (by decide)⟩, _, hseventh, ?_⟩
  have hunreported := (hreports 6 _ hseventh).not.2 (by decide)
  exact not_not.1 hunreported

/-- **A step back of the clock starves quality reports.** A window takes two samples, but none of
the four that follow the step tells a report. -/
theorem unreported_after_step :
    let c : Settings := { interval := 2, qualityInterval := 5 }
    let m : Meter := { settings := c, host := {} }
    let ts := m.history (samplesAt [20, 22, 24, 16, 18, 20, 22])
    Meter.new c {} = .ok m ∧
      IsLeast {n | 1 ≤ n ∧ 2 * c.qualityInterval ≤ 2 * (n * c.interval) + c.interval} 2 ∧
      StepsBack c 20 3 16 ts ∧ (∀ t ∈ ts, c.interval ≤ t.sample.time) ∧
      (ts.drop 3).length = 2 * 2 ∧ ∀ t ∈ ts.drop 3, t.reports c {} = [] := by
  have hm : Meter.new { interval := 2, qualityInterval := 5 } {} =
      .ok { settings := { interval := 2, qualityInterval := 5 } } := rfl
  intro c m ts
  refine ⟨hm, ⟨by decide, fun n hn ↦ ?_⟩, ⟨by decide, by decide +kernel, by decide,
    by decide +kernel⟩, by decide +kernel, by decide +kernel, by decide +kernel⟩
  have hn : 1 ≤ n ∧ 10 ≤ 2 * (n * 2) + 2 := hn
  omega

end Meter

end MediaTelemetry
