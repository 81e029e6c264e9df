/-!
# Doubles as exact fractions

A finite double is a whole number times a power of two. `Binary.ofFloat` reads that pair off the
bits, and `Binary.fraction` gives numerator and denominator, so that everything printed from a
double is computed in natural numbers.
-/

namespace MediaTelemetry

/-- The size of a finite double: `significand * 2 ^ exponent`. -/
structure Binary where
  significand : Nat
  exponent : Int

/-- `n * base ^ e` as numerator and denominator. -/
def scaledFraction (base n : Nat) (e : Int) : Nat × Nat :=
  if e < 0 then (n, base.pow e.natAbs) else (n * base.pow e.natAbs, 1)

namespace Binary

/-- The leading bit of a significand, which is left out of the bits of a double. -/
def leadingBit : Nat := 1 <<< 52

/-- The size of `x`, read off its bits; `x` is finite. -/
def ofFloat (x : Float) : Binary :=
  let bits : Nat := x.toBits.toNat
  let field : Nat := bits / leadingBit % 2048
  let rest : Nat := bits % leadingBit
  if field = 0 then ⟨rest, -1074⟩ else ⟨rest + leadingBit, (field : Int) - 1075⟩

/-- The sign bit of `x` is set; negative zero counts. -/
def isNegative (x : Float) : Bool := x.toBits.toNat.testBit 63

/-- Numerator and denominator of the size. -/
def fraction (b : Binary) : Nat × Nat := scaledFraction 2 b.significand b.exponent

/-- The next smaller double is only half as far away as the next larger one: this happens at powers
of two above the smallest exponent. -/
def isLowestOfBinade (b : Binary) : Bool := b.significand == leadingBit && -1074 < b.exponent

end Binary

end MediaTelemetry
