import MediaTelemetry.Json.Basic

/-!
# Compact JSON text

`Json.text` writes a value without blanks, members in their listed order. Control characters,
quotes and backslashes are escaped and all else stands for itself.
-/

namespace MediaTelemetry.Json

/-- The escaped form of one character inside a string. -/
def escaped (c : Char) : List Char :=
  if c = '"' then ['\\', '"']
  else if c = '\\' then ['\\', '\\']
  else if c = '\n' then ['\\', 'n']
  else if c = '\r' then ['\\', 'r']
  else if c = '\t' then ['\\', 't']
  else if c.toNat < 32 then
    ['\\', 'u', '0', '0', Nat.digitChar (c.toNat / 16), Nat.digitChar (c.toNat % 16)]
  else [c]

/-- A string in quotes. -/
def quoted (s : String) : String :=
  String.ofList ('"' :: s.toList.flatMap escaped ++ ['"'])

/-- A number: whole ones plainly, doubles with the fewest digits and always a point. -/
def numberText : Number → String
  | .whole n => toString n
  | .double x =>
    let digits := Decimal.text x
    if digits.contains '.' then digits else digits ++ ".0"

mutual

/-- Compact text of a value. -/
def text : Json → String
  | .null => "null"
  | .bool true => "true"
  | .bool false => "false"
  | .num n => numberText n
  | .str s => quoted s
  | .arr xs => "[" ++ ",".intercalate (itemTexts xs) ++ "]"
  | .obj ms => "\x7b" ++ ",".intercalate (memberTexts ms) ++ "\x7d"

/-- The texts of the items of an array. -/
def itemTexts : List Json → List String
  | [] => []
  | x :: xs => text x :: itemTexts xs

/-- The texts of the members of an object. -/
def memberTexts : List (String × Json) → List String
  | [] => []
  | (key, x) :: ms => (quoted key ++ ":" ++ text x) :: memberTexts ms

end

end MediaTelemetry.Json
