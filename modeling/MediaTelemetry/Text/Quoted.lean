import MediaTelemetry.Text.Unprintable

/-!
# Quoted text

A text in double quotes for the journal. Quotes and backslashes are escaped, so are unprintable
characters: the common ones by a letter, the others by their code in braces.
-/

namespace MediaTelemetry.Text

/-- The code of a character in braces. -/
def codeEscape (c : Char) : List Char := ['\\', 'u', '\x7b'] ++ Nat.toDigits 16 c.toNat ++ ['\x7d']

/-- One character inside quotes. -/
def escape (c : Char) : List Char :=
  if c = '"' then ['\\', '"']
  else if c = '\\' then ['\\', '\\']
  else if c = '\n' then ['\\', 'n']
  else if c = '\r' then ['\\', 'r']
  else if c = '\t' then ['\\', 't']
  else if c.toNat = 0 then ['\\', '0']
  else if isUnprintable c then codeEscape c
  else [c]

/-- A text in quotes. -/
def quoted (s : String) : String := String.ofList ('"' :: s.toList.flatMap escape ++ ['"'])

end MediaTelemetry.Text
