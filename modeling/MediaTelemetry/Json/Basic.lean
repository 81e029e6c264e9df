import MediaTelemetry.Decimal.Shortest

/-!
# JSON values

Values of JSON with objects as ordered member lists. A number keeps how it was written: an integer
literal that fits in 64 bits stays a whole number, every other literal is a double. This matters to
readers, because a counter accepts `1` and refuses `1.0`.
-/

namespace MediaTelemetry

/-- A number of a JSON text: a whole number from `-2 ^ 63` to `2 ^ 64 - 1`, or a double. -/
inductive Number where
  | whole (n : Int)
  | double (x : Float)
deriving Inhabited

/-- A JSON value. -/
inductive Json where
  | null
  | bool (b : Bool)
  | num (n : Number)
  | str (s : String)
  | arr (items : List Json)
  | obj (members : List (String × Json))
deriving Inhabited

/-- The number as a double; whole numbers round to the nearest double. -/
def Number.toFloat : Number → Float
  | .whole n => Float.ofInt n
  | .double x => x

namespace Json

/-- A counter. -/
def nat (n : Nat) : Json := .num (.whole n)

/-- A signed counter. -/
def int (n : Int) : Json := .num (.whole n)

/-- A double; JSON has no infinities and no NaN, which are written as `null`. -/
def float (x : Float) : Json := if x.isFinite then .num (.double x) else .null

/-- An optional value, absent as `null`. -/
def option {α : Type} (f : α → Json) : Option α → Json
  | none => .null
  | some a => f a

/-- The members of an object. -/
def members? : Json → Option (List (String × Json))
  | .obj ms => some ms
  | _ => none

/-- The items of an array. -/
def items? : Json → Option (List Json)
  | .arr xs => some xs
  | _ => none

/-- The text of a string. -/
def string? : Json → Option String
  | .str s => some s
  | _ => none

/-- The value of the first member called `key`. -/
def member? (key : String) (v : Json) : Option Json :=
  v.members?.bind fun ms ↦ ms.lookup key

end Json

end MediaTelemetry
