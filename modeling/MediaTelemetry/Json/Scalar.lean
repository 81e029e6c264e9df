import MediaTelemetry.Json.Basic

/-!
# Scalars in JSON values

What a member of a record may hold: text, a flag, a number, or a whole number of a fixed width. A
whole number has to be written as one: `1.0` and `1e3` are refused, and so is a literal out of
range. A number accepts both forms.
-/

namespace MediaTelemetry.Json

/-- A flag. -/
def flag? : Json → Option Bool
  | .bool b => some b
  | _ => none

/-- A number as a double. -/
def number? : Json → Option Float
  | .num n => some n.toFloat
  | _ => none

/-- A whole number literal. -/
def whole? : Json → Option Int
  | .num (.whole n) => some n
  | _ => none

/-- A whole number from zero up to, not including, `bound`. -/
def natBelow? (bound : Nat) (v : Json) : Option Nat :=
  v.whole?.bind fun n ↦ if 0 ≤ n ∧ n < bound then some n.toNat else none

/-- An unsigned 16-bit number. -/
def word16? (v : Json) : Option UInt16 := (v.natBelow? UInt16.size).map .ofNat

/-- An unsigned 32-bit number. -/
def word32? (v : Json) : Option UInt32 := (v.natBelow? UInt32.size).map .ofNat

/-- An unsigned 64-bit number. -/
def word64? (v : Json) : Option UInt64 := (v.natBelow? UInt64.size).map .ofNat

/-- A moment or a length of time in milliseconds, of 64 bits. -/
def millis? (v : Json) : Option Nat := v.natBelow? UInt64.size

/-- A signed 64-bit number. -/
def signed64? (v : Json) : Option Int64 :=
  v.whole?.bind fun n ↦
    if Int64.minValue.toInt ≤ n ∧ n ≤ Int64.maxValue.toInt then some (.ofInt n) else none

/-- A member that may be `null`, which counts as absent. -/
def optional? {α : Type} (read : Json → Option α) : Json → Option (Option α)
  | .null => some none
  | v => (read v).map some

/-- The name of a choice without content: its name as a string, or an object that holds `null`
under the name and nothing else. -/
def choice? : Json → Option String
  | .str s => some s
  | .obj [(key, .null)] => some key
  | _ => none

end MediaTelemetry.Json
