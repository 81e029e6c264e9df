import MediaTelemetry.Counters

/-!
# Loss ratios

How the loss figures of a line follow from its counts. The bookkeeping is written for any
arithmetic of ratios: it runs on doubles, and on exact fractions it can be reasoned about. Ratios
never decide anything about the counts, so both readings of a history go through the same counts.
-/

namespace MediaTelemetry

/-- Arithmetic in which ratios of counts are computed. -/
class RatioArithmetic (ρ : Type) where
  ofCount : Nat → ρ
  divide : ρ → ρ → ρ
  times : ρ → ρ → ρ
  less : ρ → ρ → Bool

instance : RatioArithmetic Float where
  ofCount := Float.ofNat
  divide := (· / ·)
  times := (· * ·)
  less a b := a < b

namespace RatioArithmetic

variable {ρ : Type} [RatioArithmetic ρ]

/-- The share of `part` in `whole`, at most one; of nothing it is zero. -/
def share (part whole : Nat) : ρ :=
  if whole = 0 then ofCount 0
  else
    let ratio := divide (ofCount part) (ofCount whole)
    if less (ofCount 1) ratio then ofCount 1 else ratio

/-- The share of lost packets in those expected, received or lost, by way of a percentage. -/
def expectedShare (lost received : Nat) : ρ :=
  let percent : ρ :=
    if lost + received = 0 then ofCount 0
    else divide (times (ofCount lost) (ofCount 100)) (ofCount (lost + received))
  divide percent (ofCount 100)

/-- The larger of two ratios, the first if they do not differ. -/
def larger (a b : ρ) : ρ := if less a b then b else a

end RatioArithmetic

open RatioArithmetic

/-- What the far end has reported lost on a send line. -/
structure UplinkLoss (ρ : Type) where
  /-- Packets lost so far, as last reported. -/
  total : Int
  /-- Growth of `total` at the last report. -/
  recent : Nat
  /-- Share lost between the last two reports. -/
  current : ρ
  /-- Share lost altogether. -/
  overall : ρ
  /-- The largest `current` so far. -/
  worst : ρ
  /-- Packets that had been sent when the last report came in. -/
  sentAtReport : Nat
deriving Inhabited

namespace UplinkLoss

variable {ρ : Type} [RatioArithmetic ρ]

/-- No report yet. -/
def none : UplinkLoss ρ := ⟨0, 0, ofCount 0, ofCount 0, ofCount 0, 0⟩

/-- Packets sent since the last report. -/
def sentSince (l : UplinkLoss ρ) (sent : Nat) : Nat := grown sent l.sentAtReport

/-- Takes in a report of `lost` packets when `sent` had been sent. -/
def report (l : UplinkLoss ρ) (lost : Int) (sent : Nat) : UplinkLoss ρ :=
  let recent := grownSigned lost l.total
  let current : ρ := share recent (l.sentSince sent)
  { total := lost
    recent
    current
    overall := share lost.toNat sent
    worst := larger l.worst current
    sentAtReport := sent }

end UplinkLoss

end MediaTelemetry
