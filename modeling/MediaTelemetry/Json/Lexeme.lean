import MediaTelemetry.Json.Draft
import MediaTelemetry.Json.Numeral

/-!
# Lexemes of a JSON text

A character machine cuts a text into lexemes: brackets, commas, colons, and the drafts of strings,
numbers and words. It looks at each character once. A literal ends at the first character that
cannot belong to it, which is then looked at on its own.
-/

namespace MediaTelemetry

/-- The smallest parts of a JSON text. -/
inductive Lexeme where
  | openArray
  | closeArray
  | openObject
  | closeObject
  | comma
  | colon
  /-- A string; `none` if its escapes name no text. -/
  | string (s : Option String)
  /-- A number or one of the words `null`, `true`, `false`. -/
  | leaf (d : Draft)
  /-- Anything that is not JSON. -/
  | junk

namespace Lexeme

/-! ### Strings -/

/-- A part of a string: a character, or a 16-bit unit given by an escape. -/
inductive Piece where
  | char (c : Char)
  | unit (u : Nat)

/-- The characters of a string. A unit from the surrogate range needs its partner beside it: two
units that form a pair stand for one character, a single one for none. -/
def characters? : List Piece → Option (List Char)
  | [] => some []
  | .char c :: rest => (characters? rest).map (c :: ·)
  | .unit u :: rest =>
    if 0xD800 ≤ u ∧ u < 0xDC00 then
      match rest with
      | .unit v :: rest =>
        if 0xDC00 ≤ v ∧ v < 0xE000 then
          (characters? rest).map (Char.ofNat (0x10000 + (u - 0xD800) * 0x400 + (v - 0xDC00)) :: ·)
        else none
      | _ => none
    else if 0xDC00 ≤ u ∧ u < 0xE000 then none
    else (characters? rest).map (Char.ofNat u :: ·)

/-- The value of a hexadecimal digit of either case. -/
def hexDigit? (c : Char) : Option Nat :=
  if '0' ≤ c ∧ c ≤ '9' then some (c.toNat - '0'.toNat)
  else if 'a' ≤ c ∧ c ≤ 'f' then some (c.toNat - 'a'.toNat + 10)
  else if 'A' ≤ c ∧ c ≤ 'F' then some (c.toNat - 'A'.toNat + 10)
  else none

/-- The character behind a one-letter escape. -/
def escape? : Char → Option Char
  | '"' => some '"'
  | '\\' => some '\\'
  | '/' => some '/'
  | 'b' => some '\x08'
  | 'f' => some '\x0c'
  | 'n' => some '\n'
  | 'r' => some '\r'
  | 't' => some '\t'
  | _ => none

/-! ### Words and numbers -/

/-- The draft of a word. -/
def word? (cs : List Char) : Option Draft :=
  if cs = ['n', 'u', 'l', 'l'] then some .null
  else if cs = ['t', 'r', 'u', 'e'] then some (.bool true)
  else if cs = ['f', 'a', 'l', 's', 'e'] then some (.bool false)
  else none

/-- The lexeme of a word, from its letters. -/
def ofWord (cs : List Char) : Lexeme :=
  match word? cs with
  | some d => .leaf d
  | none => .junk

/-- The lexeme of a number, from its characters. -/
def ofNumeral (cs : List Char) : Lexeme :=
  match Numeral.read cs with
  | .malformed => .junk
  | .tooLarge => .leaf .flawed
  | .number n => .leaf (.num n)

/-- Characters that occur in number literals. -/
def isNumeral (c : Char) : Bool :=
  Numeral.isDigit c || c == '-' || c == '+' || c == '.' || c == 'e' || c == 'E'

/-- Characters that start a number literal. -/
def startsNumeral (c : Char) : Bool := Numeral.isDigit c || c == '-'

/-- Letters of words. -/
def isLetter (c : Char) : Bool := 'a' ≤ c && c ≤ 'z'

/-- The four characters that JSON takes for blanks. -/
def isBlank (c : Char) : Bool := c == ' ' || c == '\n' || c == '\r' || c == '\t'

/-! ### The machine -/

/-- Where in a lexeme the machine stands. Collected parts are listed last first. -/
inductive Cursor where
  | between
  | inWord (letters : List Char)
  | inNumeral (chars : List Char)
  | inString (pieces : List Piece)
  /-- After a backslash. -/
  | inEscape (pieces : List Piece)
  /-- Inside a four-digit escape: digits read, their value. -/
  | inUnit (pieces : List Piece) (read value : Nat)

/-- Looks at a character that belongs to no open lexeme. -/
def start (c : Char) : Cursor × List Lexeme :=
  if isBlank c then (.between, [])
  else if c = '[' then (.between, [.openArray])
  else if c = ']' then (.between, [.closeArray])
  else if c = '\x7b' then (.between, [.openObject])
  else if c = '\x7d' then (.between, [.closeObject])
  else if c = ',' then (.between, [.comma])
  else if c = ':' then (.between, [.colon])
  else if c = '"' then (.inString [], [])
  else if startsNumeral c then (.inNumeral [c], [])
  else if isLetter c then (.inWord [c], [])
  else (.between, [.junk])

/-- Looks at the next character. -/
def step (cursor : Cursor) (c : Char) : Cursor × List Lexeme :=
  match cursor with
  | .between => start c
  | .inWord letters =>
    if isLetter c then (.inWord (c :: letters), [])
    else
      let (next, found) := start c
      (next, ofWord letters.reverse :: found)
  | .inNumeral chars =>
    if isNumeral c then (.inNumeral (c :: chars), [])
    else
      let (next, found) := start c
      (next, ofNumeral chars.reverse :: found)
  | .inString pieces =>
    if c = '"' then (.between, [.string ((characters? pieces.reverse).map String.ofList)])
    else if c = '\\' then (.inEscape pieces, [])
    else if c.toNat < 32 then (.between, [.junk])
    else (.inString (.char c :: pieces), [])
  | .inEscape pieces =>
    if c = 'u' then (.inUnit pieces 0 0, [])
    else
      match escape? c with
      | some e => (.inString (.char e :: pieces), [])
      | none => (.between, [.junk])
  | .inUnit pieces read value =>
    match hexDigit? c with
    | none => (.between, [.junk])
    | some d =>
      if read = 3 then (.inString (.unit (16 * value + d) :: pieces), [])
      else (.inUnit pieces (read + 1) (16 * value + d), [])

/-- What the end of the text leaves of an open lexeme. -/
def last : Cursor → List Lexeme
  | .between => []
  | .inWord letters => [ofWord letters.reverse]
  | .inNumeral chars => [ofNumeral chars.reverse]
  | _ => [.junk]

end Lexeme

end MediaTelemetry
