import MediaTelemetry.Decimal.Binary

/-!
# Shortest decimals

`Decimal.shortest` gives the fewest decimal digits that read back as the same double, and of those
the nearest to it. `Decimal.text` writes them in positional notation: never an exponent, no point
when the value is whole.

The doubles around `x` leave an interval of reals that read back as `x`; its ends belong to it
exactly when the significand is even. If any point of a decimal grid lies in the interval, one of
the two grid points next to `x` does, so only these two are tried on each grid.
-/

namespace MediaTelemetry.Decimal

/-- The number of decimal digits of `n`; zero has none. -/
def digitCount (n : Nat) : Nat := if n = 0 then 0 else (Nat.toDigits 10 n).length

/-- A decimal `digits * 10 ^ exponent`. -/
structure Scaled where
  digits : Nat
  exponent : Int

/-- The exponent of the leading decimal digit of `num / den > 0`. -/
def leadingExponent (num den : Nat) : Int :=
  if den ≤ num then (digitCount (num / den) : Int) - 1
  else -(digitCount ((den + num - 1) / num - 1) : Int)

/-- Reals that read back as one double, as numerators over one denominator. -/
structure Interval where
  low : Nat
  value : Nat
  high : Nat
  den : Nat
  closed : Bool

namespace Interval

/-- The interval of a nonzero finite double. Numerators are counted in quarters of the last bit. -/
def of (b : Binary) : Interval :=
  let below := if b.isLowestOfBinade then 1 else 2
  let quarters (n : Nat) : Nat × Nat := scaledFraction 2 n (b.exponent - 2)
  let (value, den) := quarters (4 * b.significand)
  { low := (quarters (4 * b.significand - below)).1
    value
    high := (quarters (4 * b.significand + 2)).1
    den
    closed := b.significand % 2 == 0 }

/-- `d * 10 ^ e` lies in the interval. -/
def contains (i : Interval) (d : Nat) (e : Int) : Bool :=
  let (num, den) := scaledFraction 10 d e
  let point := num * i.den
  let low := i.low * den
  let high := i.high * den
  if i.closed then low ≤ point && point ≤ high else low < point && point < high

/-- The grid point of step `10 ^ e` that reads back, of two the nearer, of two equally near the
larger. -/
def onGrid? (i : Interval) (e : Int) : Option Scaled :=
  let (times, per) := scaledFraction 10 1 (-e)
  let num := i.value * times
  let den := i.den * per
  let down := num / den
  match i.contains down e, i.contains (down + 1) e with
  | true, true => some ⟨if 2 * (num % den) < den then down else down + 1, e⟩
  | true, false => some ⟨down, e⟩
  | false, true => some ⟨down + 1, e⟩
  | false, false => none

end Interval

/-- The shortest decimal of a nonzero finite double. The coarsest grid lies one place above the
leading digit, where a value just below a power of ten may be rounded up to; seventeen digits
always suffice. -/
def shortest (b : Binary) : Scaled :=
  let i := Interval.of b
  let top := leadingExponent i.value i.den + 1
  ((List.range 18).findSome? fun (n : Nat) ↦ i.onGrid? (top - n)).getD ⟨i.value / i.den, 0⟩

/-- Digits with a decimal point put in, `exponent` places from the right. -/
def positional (d : Scaled) : String :=
  let digits := Nat.toDigits 10 d.digits
  if 0 ≤ d.exponent then
    String.ofList (digits ++ List.replicate d.exponent.natAbs '0')
  else
    let places := d.exponent.natAbs
    let padded := List.replicate (places + 1 - digits.length) '0' ++ digits
    let whole := padded.take (padded.length - places)
    String.ofList (whole ++ '.' :: padded.drop (padded.length - places))

/-- Text of a double: shortest digits that read back, never an exponent, no point in whole
numbers. -/
def text (x : Float) : String :=
  if x.isNaN then "NaN"
  else
    let sign := if Binary.isNegative x then "-" else ""
    let size :=
      if x.isInf then "inf"
      else
        let b := Binary.ofFloat x
        if b.significand = 0 then "0" else positional (shortest b)
    sign ++ size

end MediaTelemetry.Decimal
