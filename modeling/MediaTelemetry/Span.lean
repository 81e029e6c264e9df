/-!
# Lengths of time

Every length of time that is measured here is a whole number of milliseconds. Rates need it in
seconds as a double, log entries need it as text; both readings are fixed in this module. Lengths
that settings are given come as a `Duration`, to the nanosecond.
-/

namespace MediaTelemetry

/-- A length of time in whole milliseconds. -/
structure Span where
  millis : Nat
deriving DecidableEq, Inhabited

namespace Span

/-- The length in seconds: the whole seconds and the remaining nanoseconds over 10^9 are rounded to
doubles on their own and then added. -/
def seconds (s : Span) : Float :=
  Float.ofNat (s.millis / 1000) + Float.ofNat (s.millis % 1000 * 1000000) / 1000000000.0

/-- The decimals of `n` thousandths, without trailing zeros: `500` gives `5`, `61` gives `061`. -/
def thousandths (n : Nat) : List Char :=
  let padded := (Nat.toDigits 10 (1000 + n)).drop 1
  (padded.reverse.dropWhile (· == '0')).reverse

/-- Text of a length of time: `333ms` below a second, else seconds with as many decimals as it
takes (`5s`, `1.5s`, `90.061s`). A length of zero is `0ns`. -/
def text (s : Span) : String :=
  if s.millis = 0 then "0ns"
  else if s.millis < 1000 then toString s.millis ++ "ms"
  else
    let decimals := thousandths (s.millis % 1000)
    let point := if decimals.isEmpty then "" else "." ++ String.ofList decimals
    toString (s.millis / 1000) ++ point ++ "s"

end Span

/-- A length of time to the nanosecond. -/
structure Duration where
  nanos : Nat
deriving DecidableEq, Inhabited

/-- The whole milliseconds, as far as 64 bits hold them. -/
def Duration.millis (d : Duration) : Nat := d.nanos / 1000000 % UInt64.size

end MediaTelemetry
