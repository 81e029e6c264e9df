import Mathlib.Algebra.Order.Field.Rat
import Mathlib.Data.Nat.ModEq
import Mathlib.Order.Bounds.Defs
import Mathlib.Tactic.Linarith
import Mathlib.Tactic.Qify
import MediaTelemetry.Proofs.Marks

/-!
# Quality windows tile the clock of samples

A quality window starts where the one before it ended, and the first starts one interval before the
first sample; each ends at the sample that reports it. So while the clock of samples moves forward,
the windows reported so far add up to the time passed (`windows_tile`), whatever samples are
missing, and however often the meter is stopped and started.

A window is closed by the first sample that leaves at most half an interval of its nominal length
missing. Where samples are evenly spaced this is every `Settings.samplesPerWindow`-th sample, which
makes windows of the length nearest to the nominal one (`reports_at_multiples`).

`Tiled` is the part of it that both rest on: no sample measures a window from anywhere else than the
end of the one before.
-/

namespace MediaTelemetry

/-! ### Settings -/

namespace Settings

/-- The number of evenly spaced samples that make a quality window. -/
def samplesPerWindow (c : Settings) : Nat :=
  (2 * c.qualityInterval + c.interval - 1) / (2 * c.interval)

theorem samplesPerWindow_le_iff {c : Settings} (h : 0 < c.interval) {n : Nat} :
    c.samplesPerWindow ≤ n ↔ 2 * c.qualityInterval ≤ 2 * (n * c.interval) + c.interval := by
  have hproduct : (n + 1) * (2 * c.interval) = 2 * (n * c.interval) + 2 * c.interval := by
    rw [Nat.add_mul, Nat.one_mul, Nat.mul_left_comm]
  rw [samplesPerWindow, ← Nat.lt_succ_iff, Nat.succ_eq_add_one,
    Nat.div_lt_iff_lt_mul (by omega), hproduct]
  omega

theorem samplesPerWindow_pos {c : Settings} (h : 0 < c.interval)
    (hle : c.interval ≤ c.qualityInterval) : 0 < c.samplesPerWindow := by
  by_contra hzero
  have hlength := (samplesPerWindow_le_iff h).1 (Nat.le_of_not_lt hzero)
  omega

end Settings

/-! ### One window -/

/-- When the window opened that sample `t` finds after the samples `earlier`: at the last of them
that told a quality report, else one interval before the first sample. -/
def windowOpened (c : Settings) (d : Host) (earlier : List Taking) (t : Taking) : Nat :=
  (lastReported c d earlier).elim ((earlier.head?.getD t).sample.time - c.interval)
    (·.sample.time)

theorem windowOpened_concat (c : Settings) (d : Host) (ts : List Taking) (t u : Taking) :
    windowOpened c d (ts ++ [t]) u =
      if (t.pass c).closes then t.sample.time else windowOpened c d ts t := by
  rw [windowOpened, lastReported_concat]
  split
  · rfl
  · rw [windowOpened]
    cases ts <;> rfl

/-- A window opens before the sample that finds it open. -/
theorem windowOpened_lt {c : Settings} {d : Host} {earlier : List Taking} {t : Taking}
    (hinterval : 0 < c.interval)
    (hclock : ∀ u ∈ earlier, u.sample.time < t.sample.time)
    (hfirst : c.interval ≤ (earlier.head?.getD t).sample.time) :
    windowOpened c d earlier t < t.sample.time := by
  rw [windowOpened]
  cases hlast : lastReported c d earlier with
  | some u => exact hclock u (mem_of_lastReported hlast)
  | none =>
    rw [Option.elim_none]
    cases hhead : earlier.head? with
    | none =>
      rw [hhead] at hfirst
      dsimp only [Option.getD_none] at hfirst ⊢
      omega
    | some u =>
      have hlt := hclock u (List.mem_of_head? hhead)
      dsimp only [Option.getD_some]
      omega

namespace Taking

variable (t : Taking) (c : Settings) (d : Host)

/-- The quality window that the sample reports, if it does. -/
def windows : List Window :=
  if (t.pass c).closes then [t.before.qualityWindow c d (t.pass c)] else []

theorem reports_eq_map_windows :
    t.reports c d = (t.windows c d).map (·.report (t.pass c).noted) := by
  rw [reports_eq, windows]
  split <;> rfl

variable {t c d}

theorem reports_ne_nil_iff : t.reports c d ≠ [] ↔ (t.pass c).closes = true := by
  rw [reports_eq]
  split <;> simp [*]

theorem mem_windows_iff {w : Window} :
    w ∈ t.windows c d ↔
      (t.pass c).closes = true ∧ w = t.before.qualityWindow c d (t.pass c) := by
  rw [windows]
  split <;> simp [*]

/-- A window closes when at most half an interval of its nominal length is missing. -/
theorem closes_iff : (t.pass c).closes = true ↔
    2 * c.qualityInterval ≤ 2 * (t.pass c).window.millis + c.interval := by
  rw [pass, Measurement.closes_eq, Measurement.closesWindow, decide_eq_true_iff]

theorem closes_iff_half : (t.pass c).closes = true ↔
    (c.qualityInterval : ℚ) ≤ (t.pass c).window.millis + (c.interval : ℚ) / 2 := by
  rw [closes_iff]
  qify
  constructor <;> intro h <;> linarith

end Taking

/-! ### The windows of a run -/

/-- The quality windows that samples reported. -/
def reportedWindows (c : Settings) (d : Host) (ts : List Taking) : List Window :=
  ts.flatMap (·.windows c d)

/-- Every sample measures its window from where the samples before it opened it. -/
def Tiled (c : Settings) (d : Host) (ts : List Taking) : Prop :=
  ∀ earlier t later, ts = earlier ++ t :: later →
    windowOpened c d earlier t + (t.pass c).window.millis = t.sample.time

theorem Tiled.of_append {c : Settings} {d : Host} {ts ts' : List Taking}
    (h : Tiled c d (ts ++ ts')) : Tiled c d ts := by
  rintro earlier u later rfl
  exact h earlier u (later ++ ts') (by simp)

theorem Tiled.last {c : Settings} {d : Host} {ts : List Taking} {t : Taking}
    (h : Tiled c d (ts ++ [t])) :
    windowOpened c d ts t + (t.pass c).window.millis = t.sample.time :=
  h ts t [] rfl

/-- The windows reported so far reach from the start of the first one to where the present one
opened. -/
theorem Tiled.sum_windows {c : Settings} {d : Host} {ts : List Taking} (h : Tiled c d ts)
    (t : Taking) :
    (ts.head?.getD t).sample.time - c.interval +
        ((reportedWindows c d ts).map (·.span.millis)).sum =
      windowOpened c d ts t := by
  induction ts using List.reverseRecOn generalizing t with
  | nil => rfl
  | append_singleton ts u ih =>
    have hopened := ih h.of_append u
    have hhead : ((ts ++ [u]).head?.getD t) = ts.head?.getD u := by
      cases ts <;> rfl
    have hconcat : reportedWindows c d (ts ++ [u]) = reportedWindows c d ts ++ u.windows c d := by
      rw [reportedWindows, List.flatMap_append, List.flatMap_singleton]
      rfl
    rw [hhead, hconcat, List.map_append, List.sum_append, ← Nat.add_assoc, hopened,
      windowOpened_concat, Taking.windows]
    split
    · exact h.last
    · rfl

/-- Once a window closes, the windows reported reach up to the present sample. -/
theorem Tiled.sum_of_closes {c : Settings} {d : Host} {ts : List Taking} {t : Taking}
    (h : Tiled c d (ts ++ [t])) (hcloses : (t.pass c).closes = true) :
    (ts.head?.getD t).sample.time - c.interval +
        ((reportedWindows c d (ts ++ [t])).map (·.span.millis)).sum =
      t.sample.time := by
  -- a report after this sample would measure from here
  have hsum := h.sum_windows t
  have hhead : (ts ++ [t]).head?.getD t = ts.head?.getD t := by
    cases ts <;> rfl
  rwa [windowOpened_concat, if_pos hcloses, hhead] at hsum

namespace Meter

variable {c : Settings} {d : Host} {monitor : Monitor} {m : Meter}

/-- A sample finds the start of its window as the samples before it left it. -/
theorem window_of_split (hm : Meter.new c d monitor = .ok m) {ops : List Op}
    {earlier later : List Taking}
    {t : Taking} (hsplit : m.history ops = earlier ++ t :: later) :
    (t.pass c).window =
      elapsedSince (some (windowOpened c d earlier t)) t.sample.time c.tick := by
  have hstart : t.before.windowStart.getD (t.sample.time - c.interval) =
      windowOpened c d earlier t := by
    rw [(marked_of_split hm hsplit).windowStart, windowOpened]
    cases lastReported c d earlier with
    | some u => rfl
    | none => cases earlier <;> rfl
  rw [Taking.pass, Measurement.window_eq, hstart]

theorem tiled_history (hm : Meter.new c d monitor = .ok m) {ops : List Op}
    (hclock : (m.history ops).Pairwise fun t u ↦ t.sample.time < u.sample.time)
    (hfirst : ∀ t ∈ (m.history ops).head?, c.interval ≤ t.sample.time) :
    Tiled c d (m.history ops) ∧
      ∀ earlier t later, m.history ops = earlier ++ t :: later →
        windowOpened c d earlier t < t.sample.time := by
  have hlt : ∀ earlier t later, m.history ops = earlier ++ t :: later →
      windowOpened c d earlier t < t.sample.time := by
    intro earlier t later hsplit
    rw [hsplit] at hclock hfirst
    refine windowOpened_lt (isUsable_of_new hm).interval (fun u hu ↦ ?_) (hfirst _ ?_)
    · exact (List.pairwise_append.1 hclock).2.2 u hu t List.mem_cons_self
    · cases earlier <;> rfl
  refine ⟨fun earlier t later hsplit ↦ ?_, hlt⟩
  have hopened := hlt earlier t later hsplit
  have hwindow : (t.pass c).window = ⟨t.sample.time - windowOpened c d earlier t⟩ := by
    rw [window_of_split hm hsplit, elapsedSince, if_pos hopened]
  rw [hwindow]
  dsimp only
  omega

/-- **Quality windows tile the clock of samples.** Let the samples that a new meter takes during
some operations have growing times, the first at least one interval. Every quality report told at a
sample is that of a window from the sample of the last report, or from one interval before the first
sample, up to the present one; so at such a sample the lengths of all windows so far add up to the
time since then. The sample tells a report exactly if the window together with half an interval
reaches the nominal length: no window reported is shorter than that allows, and every window still
open is. -/
theorem windows_tile (hm : Meter.new c d monitor = .ok m) {ops : List Op}
    (hclock : (m.history ops).Pairwise fun t u ↦ t.sample.time < u.sample.time)
    (hfirst : ∀ t ∈ (m.history ops).head?, c.interval ≤ t.sample.time)
    {earlier later : List Taking} {t : Taking} (hsplit : m.history ops = earlier ++ t :: later) :
    let first := (earlier.head?.getD t).sample.time
    let start := windowOpened c d earlier t
    start < t.sample.time ∧
      t.reports c d = (t.windows c d).map (·.report (t.pass c).noted) ∧
      (∀ w ∈ t.windows c d,
        w.start.map (·.time) = (lastReported c d earlier).map (·.sample.time) ∧
          w.now = t.sample.time ∧ w.span.millis = t.sample.time - start) ∧
      (t.reports c d ≠ [] →
        ((reportedWindows c d (earlier ++ [t])).map (·.span.millis)).sum =
          t.sample.time - first + c.interval) ∧
      (t.reports c d ≠ [] ↔
        (c.qualityInterval : ℚ) ≤ (t.sample.time - start : ℕ) + (c.interval : ℚ) / 2) ∧
      (∀ w ∈ t.windows c d,
        (c.qualityInterval : ℚ) - (c.interval : ℚ) / 2 ≤ w.span.millis) ∧
      (t.reports c d = [] →
        ((t.sample.time - start : ℕ) : ℚ) < c.qualityInterval - (c.interval : ℚ) / 2) := by
  intro first start
  obtain ⟨htiled, hlt⟩ := tiled_history hm hclock hfirst
  have hopened : start < t.sample.time := hlt earlier t later hsplit
  have hspan : (t.pass c).window.millis = t.sample.time - start := by
    have := htiled earlier t later hsplit
    omega
  have hcloses := Taking.closes_iff_half (t := t) (c := c)
  rw [hspan] at hcloses
  refine ⟨hopened, t.reports_eq_map_windows c d, ?_, ?_, ?_, ?_, ?_⟩
  · intro w hw
    obtain ⟨-, rfl⟩ := Taking.mem_windows_iff.1 hw
    refine ⟨?_, rfl, hspan⟩
    show t.before.reported.map (·.time) = _
    rw [(marked_of_split hm hsplit).reported, Option.map_map]
    rfl
  · intro hreports
    have htiled' : Tiled c d (earlier ++ [t]) := by
      rw [hsplit, ← List.singleton_append, ← List.append_assoc] at htiled
      exact htiled.of_append
    have hsum := htiled'.sum_of_closes (Taking.reports_ne_nil_iff.1 hreports)
    have hinterval : c.interval ≤ first := by
      rw [hsplit] at hfirst
      refine hfirst (earlier.head?.getD t) ?_
      cases earlier <;> rfl
    have hpassed : first ≤ t.sample.time := by
      rw [hsplit] at hclock
      cases hearlier : earlier with
      | nil => exact Nat.le_of_eq (by simp [first, hearlier])
      | cons u rest =>
        have hlt := (List.pairwise_append.1 hclock).2.2 u (by simp [hearlier]) t List.mem_cons_self
        exact Nat.le_of_lt (by simpa [first, hearlier] using hlt)
    omega
  · rw [Taking.reports_ne_nil_iff, hcloses]
  · intro w hw
    obtain ⟨hclosed, rfl⟩ := Taking.mem_windows_iff.1 hw
    show _ ≤ ((t.pass c).window.millis : ℚ)
    have hlong := hcloses.1 hclosed
    rw [hspan]
    linarith
  · intro hreports
    have hopen : ¬ (t.pass c).closes = true := fun h ↦ Taking.reports_ne_nil_iff.2 h hreports
    rw [hcloses, not_le] at hopen
    linarith

/-- Windows of five milliseconds nominally, samples at 3, 6, 7 and 11, and a restart after the
second. The second and the last sample tell a report, of the ten milliseconds since 1. -/
theorem windows_across_restart :
    let m : Meter := { settings := { interval := 2, qualityInterval := 5 }, host := {} }
    let ops : List Op := [.start 0, .timeout 0, .nextRequest, .read ⟨⟨1, 0⟩, 3, {}⟩,
      .timeout 2, .nextRequest, .read ⟨⟨1, 1⟩, 6, {}⟩, .stop, .start 6,
      .timeout 6, .nextRequest, .read ⟨⟨2, 2⟩, 7, {}⟩,
      .timeout 8, .nextRequest, .read ⟨⟨2, 3⟩, 11, {}⟩]
    let ts := m.history ops
    ts.map (fun t ↦ decide (t.reports m.settings {} ≠ [])) = [false, true, false, true] ∧
      ((reportedWindows m.settings {} ts).map (·.span.millis)).sum = 10 := by
  have hm : Meter.new { interval := 2, qualityInterval := 5 } {} =
      .ok { settings := { interval := 2, qualityInterval := 5 } } := rfl
  intro m ops ts
  refine ⟨by decide +kernel, ?_⟩
  have hreports : ∀ t ∈ ts.getLast?, t.reports m.settings {} ≠ [] := by decide +kernel
  have hpassed : ∀ t ∈ ts.getLast?,
      t.sample.time - (ts.dropLast.head?.getD t).sample.time + 2 = 10 := by decide +kernel
  obtain ⟨t, ht⟩ : ∃ t, ts.getLast? = some t := Option.isSome_iff_exists.1 (by decide +kernel)
  have hsplit : ts = ts.dropLast ++ [t] := (List.dropLast_append_getLast? t ht).symm
  have hclock : ts.Pairwise fun t u ↦ t.sample.time < u.sample.time := by decide +kernel
  have htile := windows_tile hm hclock (by decide +kernel) hsplit
  rw [hsplit, htile.2.2.2.1 (hreports t ht)]
  exact hpassed t ht

end Meter

/-! ### Evenly spaced samples -/

/-- Samples come one interval after another, the first at `t₀`. -/
def EvenlySpaced (c : Settings) (t₀ : Nat) (ts : List Taking) : Prop :=
  ∀ k t, ts[k]? = some t → t.sample.time = t₀ + k * c.interval

namespace EvenlySpaced

variable {c : Settings} {t₀ : Nat} {ts : List Taking} {t : Taking}

theorem of_append {ts' : List Taking} (h : EvenlySpaced c t₀ (ts ++ ts')) :
    EvenlySpaced c t₀ ts := by
  intro k u hk
  have hlt := (List.getElem?_eq_some_iff.1 hk).1
  exact h k u (by rw [List.getElem?_append_left hlt, hk])

theorem last (h : EvenlySpaced c t₀ (ts ++ [t])) :
    t.sample.time = t₀ + ts.length * c.interval :=
  h _ _ List.getElem?_concat_length

/-- Evenly spaced samples have growing times. -/
theorem pairwise (h : EvenlySpaced c t₀ ts) (hinterval : 0 < c.interval) :
    ts.Pairwise fun t u ↦ t.sample.time < u.sample.time := by
  rw [List.pairwise_iff_getElem]
  intro i j hi hj hij
  rw [h i _ (List.getElem?_eq_getElem hi), h j _ (List.getElem?_eq_getElem hj)]
  exact Nat.add_lt_add_left (Nat.mul_lt_mul_of_pos_right hij hinterval) _

/-- Without earlier samples a window opens one interval before the first. -/
theorem windowOpened_nil (h : EvenlySpaced c t₀ ts) {d : Host} (hfirst : c.interval ≤ t₀) :
    ∀ u ∈ ts.head?, windowOpened c d [] u + c.interval = t₀ := by
  intro u hu
  rw [List.head?_eq_getElem?] at hu
  have htime := h 0 u hu
  show u.sample.time - c.interval + c.interval = t₀
  omega

/-- The times of evenly spaced samples, in full. -/
theorem iff_times :
    EvenlySpaced c t₀ ts ↔
      ts.map (·.sample.time) = List.range' t₀ ts.length c.interval := by
  constructor
  · intro h
    refine List.ext_getElem (by simp) fun k hk hk' ↦ ?_
    rw [List.length_map] at hk
    rw [List.getElem_map, List.getElem_range', h k _ (List.getElem?_eq_getElem hk), Nat.mul_comm]
  · intro h k u hk
    obtain ⟨hlt, rfl⟩ := List.getElem?_eq_some_iff.1 hk
    have htime := congrArg (·[k]?) h
    simpa [hlt, Nat.mul_comm] using htime

instance : Decidable (EvenlySpaced c t₀ ts) := decidable_of_iff _ iff_times.symm

end EvenlySpaced

theorem Settings.dvd_add_one_iff {c : Settings} (hinterval : 0 < c.interval)
    (hle : c.interval ≤ c.qualityInterval) (k : Nat) :
    c.samplesPerWindow ∣ k + 1 ↔ c.samplesPerWindow ≤ k % c.samplesPerWindow + 1 := by
  obtain ⟨n, hn⟩ := Nat.exists_eq_add_of_lt (samplesPerWindow_pos hinterval hle)
  rw [Nat.zero_add] at hn
  have hmod : k % (n + 1) < n + 1 := Nat.mod_lt k (Nat.succ_pos n)
  rw [hn, Nat.dvd_iff_mod_eq_zero, Nat.succ_mod_succ_eq_zero_iff]
  omega

namespace Taking

variable {c : Settings} {t : Taking}

/-- A window that opened with a sample of known number has a length of as many intervals as samples
have passed since. -/
theorem window_of_opened {opened t₀ k n : Nat}
    (hmeasured : opened + (t.pass c).window.millis = t.sample.time)
    (htime : t.sample.time = t₀ + k * c.interval)
    (hopened : opened + c.interval = t₀ + n * (k / n) * c.interval) :
    (t.pass c).window.millis = (k % n + 1) * c.interval := by
  have hlength : k * c.interval = n * (k / n) * c.interval + k % n * c.interval := by
    rw [← Nat.add_mul, Nat.div_add_mod]
  rw [Nat.add_mul, Nat.one_mul]
  omega

end Taking

namespace Tiled

variable {c : Settings} {d : Host} {t₀ : Nat} {ts : List Taking} {t : Taking}

theorem window_of_opened (h : Tiled c d (ts ++ [t])) (hspaced : EvenlySpaced c t₀ (ts ++ [t]))
    {n : Nat} (hopened : windowOpened c d ts t + c.interval =
      t₀ + n * (ts.length / n) * c.interval) :
    (t.pass c).window.millis = (ts.length % n + 1) * c.interval :=
  Taking.window_of_opened h.last hspaced.last hopened

theorem closes_iff_dvd (hinterval : 0 < c.interval) (hle : c.interval ≤ c.qualityInterval)
    {k : Nat}
    (hwindow : (t.pass c).window.millis = (k % c.samplesPerWindow + 1) * c.interval) :
    (t.pass c).closes = true ↔ c.samplesPerWindow ∣ k + 1 := by
  rw [Taking.closes_iff, hwindow, ← Settings.samplesPerWindow_le_iff hinterval,
    Settings.dvd_add_one_iff hinterval hle]

end Tiled

/-- Every sample that finds its window opened before it measures it from there. The window is known
from the samples `before` and those between. -/
def MeasuredAfter (c : Settings) (d : Host) (before ts : List Taking) : Prop :=
  ∀ earlier t later, ts = earlier ++ t :: later →
    windowOpened c d (before ++ earlier) t < t.sample.time →
      windowOpened c d (before ++ earlier) t + (t.pass c).window.millis = t.sample.time

namespace MeasuredAfter

variable {c : Settings} {d : Host} {t₀ : Nat} {before ts : List Taking} {t : Taking}

theorem of_append {ts' : List Taking} (h : MeasuredAfter c d before (ts ++ ts')) :
    MeasuredAfter c d before ts := by
  rintro earlier u later rfl
  exact h earlier u (later ++ ts') (by simp)

theorem window (h : MeasuredAfter c d before (ts ++ [t])) (hinterval : 0 < c.interval)
    (hspaced : EvenlySpaced c t₀ (ts ++ [t])) {n : Nat}
    (hopened : windowOpened c d (before ++ ts) t + c.interval =
      t₀ + n * (ts.length / n) * c.interval) :
    (t.pass c).window.millis = (ts.length % n + 1) * c.interval := by
  have htime := hspaced.last
  have hle : n * (ts.length / n) * c.interval ≤ ts.length * c.interval :=
    Nat.mul_le_mul_right _ (Nat.mul_div_le _ _)
  exact Taking.window_of_opened (h ts t [] rfl (by omega)) htime hopened

/-- **Where samples are evenly spaced from the end of a window on, the present window opened with
the last of them whose number `samplesPerWindow` divides**, or else where that window ended. -/
theorem windowOpened_eq (h : MeasuredAfter c d before ts) (hinterval : 0 < c.interval)
    (hle : c.interval ≤ c.qualityInterval) (hspaced : EvenlySpaced c t₀ ts)
    (hended : ∀ u ∈ (ts ++ [t]).head?, windowOpened c d before u + c.interval = t₀) :
    windowOpened c d (before ++ ts) t + c.interval =
      t₀ + c.samplesPerWindow * (ts.length / c.samplesPerWindow) * c.interval := by
  induction ts using List.reverseRecOn generalizing t with
  | nil =>
    have hstart := hended t rfl
    rw [List.append_nil, List.length_nil, Nat.zero_div]
    omega
  | append_singleton ts u ih =>
    have hopened := ih (t := u) h.of_append hspaced.of_append fun v hv ↦ hended v (by
      rw [List.head?_append, hv]
      rfl)
    have hcloses := Tiled.closes_iff_dvd hinterval hle (h.window hinterval hspaced hopened)
    rw [← List.append_assoc, windowOpened_concat, List.length_append, List.length_singleton]
    split
    · rename_i hclosed
      -- the window ends with `u`, whose number is divided
      rw [Nat.mul_div_cancel' (hcloses.1 hclosed), hspaced.last, Nat.add_mul]
      omega
    · rename_i hopen
      rw [hopened, Nat.succ_div_of_not_dvd fun hdvd ↦ hopen (hcloses.2 hdvd)]

theorem closes_iff_dvd (h : MeasuredAfter c d before (ts ++ [t])) (hinterval : 0 < c.interval)
    (hle : c.interval ≤ c.qualityInterval) (hspaced : EvenlySpaced c t₀ (ts ++ [t]))
    (hended : ∀ u ∈ (ts ++ [t]).head?, windowOpened c d before u + c.interval = t₀) :
    (t.pass c).closes = true ↔ c.samplesPerWindow ∣ ts.length + 1 :=
  Tiled.closes_iff_dvd hinterval hle <| h.window hinterval hspaced <|
    h.of_append.windowOpened_eq hinterval hle hspaced.of_append hended

end MeasuredAfter

namespace Tiled

variable {c : Settings} {d : Host} {t₀ : Nat} {ts : List Taking} {t : Taking}

/-- **Where samples are evenly spaced, the present window opened with the last sample whose number
`samplesPerWindow` divides**, or one interval before the first. -/
theorem windowOpened_eq (hinterval : 0 < c.interval) (hle : c.interval ≤ c.qualityInterval)
    (hfirst : c.interval ≤ t₀) (h : Tiled c d (ts ++ [t]))
    (hspaced : EvenlySpaced c t₀ (ts ++ [t])) :
    windowOpened c d ts t + c.interval =
      t₀ + c.samplesPerWindow * (ts.length / c.samplesPerWindow) * c.interval := by
  have hmeasured : MeasuredAfter c d [] ts := fun earlier u later hsplit _ ↦
    h.of_append earlier u later hsplit
  exact hmeasured.windowOpened_eq hinterval hle hspaced.of_append (hspaced.windowOpened_nil hfirst)

end Tiled

/-- `samplesPerWindow` intervals differ from the nominal length of a window by at most half an
interval, no other number of intervals comes nearer, and no smaller one as near. -/
theorem Settings.nearest_samplesPerWindow {c : Settings} (hinterval : 0 < c.interval)
    (hle : c.interval ≤ c.qualityInterval) :
    let distance (j : ℕ) : ℚ := |(j * c.interval : ℚ) - c.qualityInterval|
    distance c.samplesPerWindow ≤ (c.interval : ℚ) / 2 ∧
      ∀ j, distance c.samplesPerWindow ≤ distance j ∧
        (j < c.samplesPerWindow → distance c.samplesPerWindow < distance j) := by
  intro distance
  obtain ⟨n, hn⟩ := Nat.exists_eq_add_of_lt (samplesPerWindow_pos hinterval hle)
  rw [Nat.zero_add] at hn
  have hlong : (c.qualityInterval : ℚ) ≤ (n + 1) * c.interval + (c.interval : ℚ) / 2 := by
    have h := (samplesPerWindow_le_iff hinterval).1 (Nat.le_of_eq hn)
    qify at h
    linarith
  have hshort : (n * c.interval : ℚ) + (c.interval : ℚ) / 2 < c.qualityInterval := by
    have h := (samplesPerWindow_le_iff (n := n) hinterval).not.1 (by omega)
    qify at h
    linarith
  have hpos : (0 : ℚ) < c.interval := by exact_mod_cast hinterval
  have hdistance : distance (n + 1) = |((n + 1) * c.interval : ℚ) - c.qualityInterval| := by
    simp [distance]
  have hhalf : distance (n + 1) ≤ (c.interval : ℚ) / 2 := by
    rw [hdistance, abs_le]
    constructor <;> linarith
  -- fewer intervals end more than half an interval early, more of them at least as much late
  have hfewer : ∀ j : ℕ, j ≤ n → (c.interval : ℚ) / 2 < distance j := by
    intro j hj
    have hproduct : j * c.interval ≤ n * c.interval := Nat.mul_le_mul_right _ hj
    qify at hproduct
    exact lt_abs.2 (.inr (by linarith))
  have hmore : ∀ j : ℕ, n + 2 ≤ j → (c.interval : ℚ) / 2 ≤ distance j := by
    intro j hj
    have hproduct : (n + 2) * c.interval ≤ j * c.interval := Nat.mul_le_mul_right _ hj
    qify at hproduct
    exact le_abs.2 (.inl (by linarith))
  rw [hn]
  refine ⟨hhalf, fun j ↦ ⟨?_, fun hj ↦ hhalf.trans_lt (hfewer j (by omega))⟩⟩
  rcases lt_trichotomy j (n + 1) with hj | rfl | hj
  · exact hhalf.trans (hfewer j (by omega)).le
  · exact le_rfl
  · exact hhalf.trans (hmore j hj)

namespace Meter

variable {c : Settings} {d : Host} {monitor : Monitor} {m : Meter}

/-- **The cadence of quality reports.** Let the samples that a new meter takes during some
operations come one interval after another, the first at `t₀`, no earlier than one interval. With
`n` the least positive number of intervals that, with half an interval more, reach the nominal
length of a window, quality reports are told at the samples whose number (counted from 1) is a
multiple of `n`, and each window is `n` intervals long. That is as near to the nominal length as a
number of intervals can be, by half an interval or less, and the earlier of two that are as near.
-/
theorem reports_at_multiples (hm : Meter.new c d monitor = .ok m) {ops : List Op} {t₀ : Nat}
    (hfirst : c.interval ≤ t₀) (hspaced : EvenlySpaced c t₀ (m.history ops)) :
    let n := c.samplesPerWindow
    let distance (j : ℕ) : ℚ := |(j * c.interval : ℚ) - c.qualityInterval|
    IsLeast {j | 1 ≤ j ∧ 2 * c.qualityInterval ≤ 2 * (j * c.interval) + c.interval} n ∧
      (∀ k t, (m.history ops)[k]? = some t →
        (t.reports c d ≠ [] ↔ n ∣ k + 1) ∧
          t.reports c d = (t.windows c d).map (·.report (t.pass c).noted) ∧
          ∀ w ∈ t.windows c d, w.span.millis = n * c.interval) ∧
      distance n ≤ (c.interval : ℚ) / 2 ∧
      ∀ j, distance n ≤ distance j ∧ (j < n → distance n < distance j) := by
  intro n distance
  obtain ⟨hinterval, hle, -, -⟩ := isUsable_of_new hm
  have hlong : ∀ j, n ≤ j ↔ 2 * c.qualityInterval ≤ 2 * (j * c.interval) + c.interval :=
    fun _ ↦ Settings.samplesPerWindow_le_iff hinterval
  refine ⟨⟨⟨Settings.samplesPerWindow_pos hinterval hle, (hlong n).1 le_rfl⟩,
    fun j hj ↦ (hlong j).2 hj.2⟩, fun k t hk ↦ ?_, Settings.nearest_samplesPerWindow hinterval hle⟩
  have htiled : Tiled c d (m.history ops) := by
    refine (tiled_history hm (hspaced.pairwise hinterval) fun t ht ↦ ?_).1
    rw [List.head?_eq_getElem?] at ht
    have htime := hspaced 0 t ht
    omega
  -- the samples up to this one
  obtain ⟨earlier, later, hsplit, rfl⟩ : ∃ earlier later,
      m.history ops = (earlier ++ [t]) ++ later ∧ earlier.length = k := by
    obtain ⟨hlt, rfl⟩ := List.getElem?_eq_some_iff.1 hk
    refine ⟨(m.history ops).take k, (m.history ops).drop (k + 1), ?_, by simp; omega⟩
    rw [List.append_assoc, List.singleton_append, List.getElem_cons_drop,
      List.take_append_drop]
  rw [hsplit] at hspaced htiled
  have hspaced' := hspaced.of_append
  have htiled' : Tiled c d (earlier ++ [t]) := htiled.of_append
  have hwindow := htiled'.window_of_opened hspaced'
    (htiled'.windowOpened_eq hinterval hle hfirst hspaced')
  have hcloses := Tiled.closes_iff_dvd hinterval hle hwindow
  refine ⟨by rw [Taking.reports_ne_nil_iff, hcloses], t.reports_eq_map_windows c d,
    fun w hw ↦ ?_⟩
  obtain ⟨hclosed, rfl⟩ := Taking.mem_windows_iff.1 hw
  have hlast := (Settings.dvd_add_one_iff hinterval hle earlier.length).1 (hcloses.1 hclosed)
  have hmod := Nat.mod_lt earlier.length (Settings.samplesPerWindow_pos hinterval hle)
  show (t.pass c).window.millis = n * c.interval
  rw [hwindow, show earlier.length % c.samplesPerWindow + 1 = n from Nat.le_antisymm hmod hlast]

/-- Samples two milliseconds apart and windows of five nominally: four milliseconds are as near as
six, so every second sample tells a report. -/
theorem report_at_fourth_sample :
    let c : Settings := { interval := 2, qualityInterval := 5 }
    let m : Meter := { settings := c, host := {} }
    let ops : List Op := .start 0 ::
      [0, 1, 2, 3].flatMap fun k ↦
        [.timeout (2 * k), .nextRequest, .read ⟨⟨1, k⟩, 2 * k + 2, {}⟩]
    ∃ t, (m.history ops)[3]? = some t ∧ t.reports c {} ≠ [] ∧ c.samplesPerWindow = 2 := by
  have hm : Meter.new { interval := 2, qualityInterval := 5 } {} =
      .ok { settings := { interval := 2, qualityInterval := 5 } } := rfl
  intro c m ops
  have hspaced : EvenlySpaced c 2 (m.history ops) := by decide +kernel
  obtain ⟨-, hcadence, -⟩ := reports_at_multiples hm le_rfl hspaced
  have hlength : 3 < (m.history ops).length := by decide +kernel
  exact ⟨_, List.getElem?_eq_getElem hlength,
    (hcadence 3 _ (List.getElem?_eq_getElem hlength)).1.2 (by decide +kernel), by decide +kernel⟩

end Meter

end MediaTelemetry
