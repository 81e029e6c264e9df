import MediaTelemetry.Decimal.Binary

/-!
# A fixed number of decimal places

`Decimal.twoPlaces` rounds the exact value of a double to hundredths, a half going to the even
neighbour, and writes it with a point and two digits.
-/

namespace MediaTelemetry.Decimal

/-- `num / den` rounded to a whole number, halves to the even neighbour. -/
def roundHalfEven (num den : Nat) : Nat :=
  let down := num / den
  let rest := 2 * (num % den)
  if rest < den || (rest == den && down % 2 == 0) then down else down + 1

/-- Text of a finite double with two decimal places. -/
def twoPlaces (x : Float) : String :=
  let b := Binary.ofFloat x
  let (num, den) := b.fraction
  let hundredths := roundHalfEven (num * 100) den
  let sign := if Binary.isNegative x then "-" else ""
  let decimals := String.ofList ((Nat.toDigits 10 (100 + hundredths % 100)).drop 1)
  sign ++ toString (hundredths / 100) ++ "." ++ decimals

end MediaTelemetry.Decimal
