import MediaTelemetry.Proofs.Doubles
import MediaTelemetry.Rates

/-!
# What jitter buffer figures are measured from

The summed delay of a jitter buffer and the count of what it emitted start again together, so both
have to be measured from the same moment: from the earlier counters, or both from zero. The delay is
measured from zero if it or the count went backwards, the count only if it went backwards itself.

So the two are measured from the same moment unless the delay alone went backwards and there was an
earlier count to be subtracted (`Counters.bufferDelay_measured`). A mean over the two is then that
of a delay since the restart and of a count since before it.
-/

namespace MediaTelemetry

/-! ### Delays -/

/-- The double is a sum of delays: finite and not negative. -/
structure IsDelay (x : Float) : Prop where
  finite : x.isFinite = true
  nonneg : 0.0 ≤ x

theorem isFinite_zero : (0.0 : Float).isFinite = true := by decide +kernel

namespace IsDelay

theorem zero : IsDelay 0.0 := ⟨isFinite_zero, by decide +kernel⟩

variable {x y : Float}

/-- What is not negative is kept, up to the sign of zero. -/
theorem nonNegative_beq (h : IsDelay x) : (nonNegative x == x) = true := by
  rw [nonNegative]
  split
  · exact (Double.beq_iff h.finite h.finite).2 rfl
  · rename_i hpos
    have hle := (Double.le_iff isFinite_zero h.finite).1 h.nonneg
    have hnot := (Double.lt_iff isFinite_zero h.finite).not.1 hpos
    exact (Double.beq_iff isFinite_zero h.finite).2 (le_antisymm hle (not_lt.1 hnot))

/-- What is not negative does not equal anything negative. -/
theorem not_nonNegative_beq (h : IsDelay x) (hy : y < 0.0) : ¬ (nonNegative x == y) = true := by
  intro heq
  rcases (Float.beq_iff_ne_nan_and_eq.1 heq).2.2 with rfl | ⟨-, rfl⟩ | ⟨-, rfl⟩
  · have hle := (Double.le_iff isFinite_zero h.finite).1 h.nonneg
    rw [nonNegative] at hy
    split at hy
    · exact absurd ((Double.lt_iff h.finite isFinite_zero).1 hy) (not_lt.2 hle)
    · exact absurd hy (by decide +kernel)
  · exact absurd hy (by decide +kernel)
  · exact absurd hy (by decide +kernel)

end IsDelay

/-- A difference that is not negative is kept, up to the sign of zero. -/
theorem nonNegative_sub_beq {x y : Float} (hx : x.isFinite = true) (hy : y.isFinite = true)
    (h : ¬ x < y) : (nonNegative (x - y) == x - y) = true := by
  rw [nonNegative]
  split
  · rename_i hpos
    refine Float.beq_self_iff.2 fun hnan ↦ ?_
    rw [hnan] at hpos
    exact absurd hpos (by decide +kernel)
  · rename_i hpos
    have hle := not_lt.1 ((Double.lt_iff hx hy).not.1 h)
    have hge := not_lt.1 ((Double.lt_iff hy hx).not.1 ((Double.sub_pos_iff hx hy).not.1 hpos))
    have hzero : (x - y == 0.0) = true :=
      (Double.sub_beq_zero_iff hx hy).2 ((Double.beq_iff hx hy).2 (le_antisymm hge hle))
    exact PartialEquivBEq.symm hzero

/-! ### Baselines -/

namespace ReceiveGrowth

/-- Both figures of the jitter buffer are measured from the earlier counters. -/
structure BufferSince (g : ReceiveGrowth) (now before : ReceiveCounters) : Prop where
  delay : (g.bufferDelay == now.bufferDelay - before.bufferDelay) = true
  emitted : before.bufferEmitted + g.bufferEmitted = now.bufferEmitted

/-- Both figures of the jitter buffer are measured from zero. -/
structure BufferWhole (g : ReceiveGrowth) (now : ReceiveCounters) : Prop where
  delay : (g.bufferDelay == now.bufferDelay) = true
  emitted : g.bufferEmitted = now.bufferEmitted

end ReceiveGrowth

namespace ReceiveCounters

variable {now before : ReceiveCounters}

theorem since_bufferDelay_of_lt
    (h : now.bufferEmitted < before.bufferEmitted ∨ now.bufferDelay < before.bufferDelay) :
    (now.since before).bufferDelay = nonNegative now.bufferDelay := by
  have hrestart : (now.bufferEmitted < before.bufferEmitted || now.bufferDelay < before.bufferDelay)
      = true := by simpa using h
  rw [since]
  dsimp only
  rw [if_pos hrestart]

theorem since_bufferDelay_of_not_lt (hemitted : ¬ now.bufferEmitted < before.bufferEmitted)
    (hdelay : ¬ now.bufferDelay < before.bufferDelay) :
    (now.since before).bufferDelay = nonNegative (now.bufferDelay - before.bufferDelay) := by
  have hrestart : ¬ (now.bufferEmitted < before.bufferEmitted ||
      now.bufferDelay < before.bufferDelay) = true := by simp [hemitted, hdelay]
  rw [since]
  dsimp only
  rw [if_neg hrestart]

/-- A count that did not go backwards is a difference. -/
theorem add_since_bufferEmitted (h : before.bufferEmitted ≤ now.bufferEmitted) :
    before.bufferEmitted + (now.since before).bufferEmitted = now.bufferEmitted := by
  show before.bufferEmitted + grown now.bufferEmitted before.bufferEmitted = _
  rw [grown, if_neg (Nat.not_lt.2 h), Nat.add_sub_cancel' h]

variable (hnow : IsDelay now.bufferDelay) (hbefore : IsDelay before.bufferDelay)

include hnow

/-- After a count went backwards both figures start from zero. -/
theorem bufferWhole_of_lt (h : now.bufferEmitted < before.bufferEmitted) :
    (now.since before).BufferWhole now where
  delay := by
    rw [since_bufferDelay_of_lt (.inl h)]
    exact hnow.nonNegative_beq
  emitted := if_pos h

/-- After the delay alone went backwards it starts from zero, and the count does not. -/
theorem delay_beq_of_lt (h : now.bufferDelay < before.bufferDelay) :
    ((now.since before).bufferDelay == now.bufferDelay) = true := by
  rw [since_bufferDelay_of_lt (.inr h)]
  exact hnow.nonNegative_beq

include hbefore

/-- While nothing went backwards both figures are differences. -/
theorem bufferSince_of_not_lt (hemitted : before.bufferEmitted ≤ now.bufferEmitted)
    (hdelay : ¬ now.bufferDelay < before.bufferDelay) :
    (now.since before).BufferSince now before where
  delay := by
    rw [since_bufferDelay_of_not_lt (Nat.not_lt.2 hemitted) hdelay]
    exact nonNegative_sub_beq hnow.finite hbefore.finite hdelay
  emitted := add_since_bufferEmitted hemitted

/-- The figures share a baseline unless the delay alone went backwards, over a count that there
was. -/
theorem shareBaseline_iff :
    (now.since before).BufferSince now before ∨ (now.since before).BufferWhole now ↔
      ¬ (now.bufferDelay < before.bufferDelay ∧ before.bufferEmitted ≤ now.bufferEmitted ∧
        0 < before.bufferEmitted) := by
  constructor
  · rintro hshared ⟨hdelay, hemitted, hpos⟩
    rcases hshared with hsince | hwhole
    · -- the whole delay is not negative, the difference is
      have hneg := (Double.sub_neg_iff hnow.finite hbefore.finite).2 hdelay
      refine hnow.not_nonNegative_beq hneg ?_
      rw [← since_bufferDelay_of_lt (.inr hdelay)]
      exact hsince.delay
    · have hcount := add_since_bufferEmitted hemitted
      rw [hwhole.emitted] at hcount
      omega
  · intro hnot
    by_cases hemitted : now.bufferEmitted < before.bufferEmitted
    · exact .inr (bufferWhole_of_lt hnow hemitted)
    have hle := Nat.not_lt.1 hemitted
    by_cases hdelay : now.bufferDelay < before.bufferDelay
    · -- the earlier count is zero, so the count is whole as well
      have hcount := add_since_bufferEmitted hle
      have hzero : before.bufferEmitted = 0 :=
        Nat.eq_zero_of_not_pos fun hpos ↦ hnot ⟨hdelay, hle, hpos⟩
      rw [hzero, Nat.zero_add] at hcount
      exact .inr ⟨delay_beq_of_lt hnow hdelay, hcount⟩
    · exact .inl (bufferSince_of_not_lt hnow hbefore hle hdelay)

end ReceiveCounters

namespace Counters

/-- **The delay alone restarts without its count.** Let the summed delays of two moments be finite
and not negative; without earlier counters zero is measured from. If the count of what was emitted
went backwards, the delay and the count are those of now; if neither went backwards, both are
differences. But if the delay alone went backwards, the delay is that of now and the count a
difference. So the two share a baseline, whichever, unless the delay alone went backwards and
something had been emitted before; and then a mean divides the one by the other. -/
theorem bufferDelay_measured (now : Counters) (before : Option Counters)
    (hnow : IsDelay now.receive.bufferDelay)
    (hbefore : ∀ c ∈ before, IsDelay c.receive.bufferDelay) :
    let r := now.receive
    let old := (before.getD {}).receive
    let g := (now.since before).receive
    (r.bufferEmitted < old.bufferEmitted → g.BufferWhole r) ∧
      (old.bufferEmitted ≤ r.bufferEmitted → ¬ r.bufferDelay < old.bufferDelay →
        g.BufferSince r old) ∧
      (old.bufferEmitted ≤ r.bufferEmitted → r.bufferDelay < old.bufferDelay →
        (g.bufferDelay == r.bufferDelay) = true ∧
          old.bufferEmitted + g.bufferEmitted = r.bufferEmitted) ∧
      (g.BufferSince r old ∨ g.BufferWhole r ↔
        ¬ (r.bufferDelay < old.bufferDelay ∧ old.bufferEmitted ≤ r.bufferEmitted ∧
          0 < old.bufferEmitted)) ∧
      ∀ (line : Line) (span : Span), line.direction = .receive →
        old.bufferEmitted < r.bufferEmitted → r.bufferDelay < old.bufferDelay →
          ((now.since before).rates line span).bufferDelay =
            nonNegative r.bufferDelay * 1000.0 /
              Float.ofNat (r.bufferEmitted - old.bufferEmitted) := by
  intro r old g
  have hold : IsDelay old.bufferDelay := by
    cases before with
    | none => exact .zero
    | some c => exact hbefore c rfl
  refine ⟨ReceiveCounters.bufferWhole_of_lt hnow,
    ReceiveCounters.bufferSince_of_not_lt hnow hold, fun hemitted hdelay ↦
      ⟨ReceiveCounters.delay_beq_of_lt hnow hdelay,
        ReceiveCounters.add_since_bufferEmitted hemitted⟩,
    ReceiveCounters.shareBaseline_iff hnow hold, ?_⟩
  intro line span hline hemitted hdelay
  have hdelayed : g.bufferDelay = nonNegative r.bufferDelay :=
    ReceiveCounters.since_bufferDelay_of_lt (.inr hdelay)
  have hcount : old.bufferEmitted + g.bufferEmitted = r.bufferEmitted :=
    ReceiveCounters.add_since_bufferEmitted (Nat.le_of_lt hemitted)
  have hdifference : g.bufferEmitted = r.bufferEmitted - old.bufferEmitted := by omega
  have hne : g.bufferEmitted ≠ 0 := by omega
  rw [Growth.rates, hline]
  dsimp only
  rw [if_neg hne, hdelayed, hdifference]

/-- Two seconds of delay over forty samples, after five seconds over sixty. -/
theorem bufferDelay_of_forty_samples :
    let now : Counters := { receive := { bufferDelay := 7.0, bufferEmitted := 100 } }
    let before : Counters := { receive := { bufferDelay := 5.0, bufferEmitted := 60 } }
    IsDelay now.receive.bufferDelay ∧ IsDelay before.receive.bufferDelay ∧
      (now.since (some before)).receive.BufferSince now.receive before.receive := by
  intro now before
  have hnow : IsDelay now.receive.bufferDelay := ⟨by decide +kernel, by decide +kernel⟩
  have hbefore : IsDelay before.receive.bufferDelay := ⟨by decide +kernel, by decide +kernel⟩
  have hmeasured := bufferDelay_measured now (some before) hnow fun c hc ↦ by
    rw [← Option.some.inj hc]
    exact hbefore
  exact ⟨hnow, hbefore, hmeasured.2.1 (by decide) (by decide +kernel)⟩

/-- One second of delay over a hundred samples, after five seconds over sixty: the delay restarted,
so the hundred samples are those since the restart. The whole second is divided by forty. -/
theorem bufferDelay_without_count :
    let now : Counters := { receive := { bufferDelay := 1.0, bufferEmitted := 100 } }
    let before : Counters := { receive := { bufferDelay := 5.0, bufferEmitted := 60 } }
    let growth := now.since (some before)
    IsDelay now.receive.bufferDelay ∧ IsDelay before.receive.bufferDelay ∧
      ¬ (growth.receive.BufferSince now.receive before.receive ∨
        growth.receive.BufferWhole now.receive) ∧
      (growth.rates (.receive .audio 0) ⟨5000⟩).bufferDelay = 25.0 := by
  intro now before growth
  refine ⟨⟨by decide +kernel, by decide +kernel⟩, ⟨by decide +kernel, by decide +kernel⟩, ?_,
    by decide +kernel⟩
  rintro (h | h)
  · exact absurd h.delay (by decide +kernel)
  · exact absurd h.emitted (by decide +kernel)

end Counters

end MediaTelemetry
