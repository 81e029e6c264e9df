import MediaTelemetry.Json.Basic

/-!
# Number literals

`Numeral.read` takes the characters of a literal apart (sign, whole part, decimals, exponent) and
decides what it stands for: nothing (not a literal), a number, or a number too large for any
double. A literal without point and exponent is whole if it fits in 64 bits; `-0` is the double
negative zero.
-/

namespace MediaTelemetry.Numeral

/-- What a number literal stands for. -/
inductive Reading where
  /-- Not a number literal. -/
  | malformed
  /-- A literal beyond the largest double. -/
  | tooLarge
  | number (n : Number)

/-- An ASCII digit. -/
def isDigit (c : Char) : Bool := '0' ≤ c && c ≤ '9'

/-- The digits in front, and what follows them. -/
def digits (cs : List Char) : List Char × List Char := (cs.takeWhile isDigit, cs.dropWhile isDigit)

/-- The value of a list of digits. -/
def value (ds : List Char) : Nat := ds.foldl (fun n c ↦ 10 * n + (c.toNat - 48)) 0

/-- The parts of a literal. -/
structure Parts where
  negative : Bool
  whole : List Char
  decimals : Option (List Char)
  exponent : Option Int

/-- The whole part: no leading zero before another digit. -/
def wholePart? (cs : List Char) : Option (List Char × List Char) :=
  match digits cs with
  | ([], _) => none
  | (['0'], rest) => some (['0'], rest)
  | ('0' :: _, _) => none
  | (ds, rest) => some (ds, rest)

/-- The decimals, at least one after a point. -/
def decimalPart? : List Char → Option (Option (List Char) × List Char)
  | '.' :: cs =>
    match digits cs with
    | ([], _) => none
    | (ds, rest) => some (some ds, rest)
  | cs => some (none, cs)

/-- The digits of an exponent, which end the literal. -/
def exponentDigits? (negative : Bool) (cs : List Char) : Option (Option Int) :=
  match digits cs with
  | ([], _) => none
  | (ds, []) => some (some (if negative then -(value ds : Int) else value ds))
  | _ => none

/-- The exponent, if there is one, up to the end of the literal. -/
def exponentPart? : List Char → Option (Option Int)
  | [] => some none
  | c :: cs =>
    if c = 'e' ∨ c = 'E' then
      match cs with
      | '+' :: ds => exponentDigits? false ds
      | '-' :: ds => exponentDigits? true ds
      | ds => exponentDigits? false ds
    else none

/-- The parts of a literal that fills `cs`. -/
def parts? (cs : List Char) : Option Parts := do
  let (negative, cs) := match cs with
    | '-' :: rest => (true, rest)
    | _ => (false, cs)
  let (whole, cs) ← wholePart? cs
  let (decimals, cs) ← decimalPart? cs
  let exponent ← exponentPart? cs
  return { negative, whole, decimals, exponent }

/-- The double nearest to `± n * 10 ^ e`. Exponents far beyond those of doubles are settled by the
number of digits alone. -/
def nearest (negative : Bool) (n : Nat) (e : Int) : Reading :=
  let top := (Decimal.digitCount n : Int) + e
  let size : Float :=
    if n = 0 ∨ top < -400 then 0.0
    else if top > 400 then 1.0 / 0.0
    else Float.ofScientific n (e < 0) e.natAbs
  if size.isInf then .tooLarge else .number (.double (if negative then -size else size))

/-- What the parts stand for. -/
def Parts.meaning (p : Parts) : Reading :=
  match p.decimals, p.exponent with
  | none, none =>
    let n := value p.whole
    if p.negative then
      if n = 0 ∨ -(n : Int) < Int64.minValue.toInt then nearest true n 0
      else .number (.whole (-(n : Int)))
    else if n < UInt64.size then .number (.whole n)
    else nearest false n 0
  | decimals, exponent =>
    let after := decimals.getD []
    nearest p.negative (value (p.whole ++ after)) (exponent.getD 0 - after.length)

/-- What the characters of a literal stand for. -/
def read (cs : List Char) : Reading :=
  match parts? cs with
  | none => .malformed
  | some p => p.meaning

end MediaTelemetry.Numeral
