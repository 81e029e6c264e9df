import MediaTelemetry.Json.Scalar

/-!
# Dictionaries of optional members

A reported dictionary is described by one table: for each member its key, the type of its value,
and how to get and set it. Reading and writing both follow the table, so neither can know a member
that the other does not. Only the identifier stands outside: it is a text that may be missing but
not `null`.

A member that is missing or `null` is absent; one with a value of another type spoils the whole
dictionary. Members may also be listed in an array in table order, the identifier first.
-/

namespace MediaTelemetry

/-- The types of members. -/
inductive Scalar where
  | text
  | flag
  | number
  | word16
  | word32
  | word64
  | signed64
deriving DecidableEq

namespace Scalar

/-- The values of a type of member. -/
abbrev Value : Scalar → Type
  | .text => String
  | .flag => Bool
  | .number => Float
  | .word16 => UInt16
  | .word32 => UInt32
  | .word64 => UInt64
  | .signed64 => Int64

/-- Reads a value of the type. -/
def read : (k : Scalar) → Json → Option k.Value
  | .text => Json.string?
  | .flag => Json.flag?
  | .number => Json.number?
  | .word16 => Json.word16?
  | .word32 => Json.word32?
  | .word64 => Json.word64?
  | .signed64 => Json.signed64?

/-- Writes a value of the type. -/
def write : (k : Scalar) → k.Value → Json
  | .text => .str
  | .flag => .bool
  | .number => .float
  | .word16 => fun n ↦ .nat n.toNat
  | .word32 => fun n ↦ .nat n.toNat
  | .word64 => fun n ↦ .nat n.toNat
  | .signed64 => fun n ↦ .int n.toInt

end Scalar

/-- One optional member of a dictionary of type `σ`. -/
structure Column (σ : Type) where
  key : String
  scalar : Scalar
  get : σ → Option scalar.Value
  set : Option scalar.Value → σ → σ

namespace Column

variable {σ : Type}

/-- What a member's value does to a dictionary, if the value is of the right type or `null`. -/
def read (c : Column σ) (v : Json) : Option (σ → σ) := (Json.optional? c.scalar.read v).map c.set

/-- The member's value, absent as `null`. -/
def write (c : Column σ) (s : σ) : Json := Json.option c.scalar.write (c.get s)

end Column

/-- The table of a dictionary type. -/
structure Dictionary (σ : Type) where
  /-- The dictionary without members. -/
  empty : σ
  getId : σ → String
  setId : String → σ → σ
  columns : List (Column σ)

namespace Dictionary

variable {σ : Type} (d : Dictionary σ)

/-- The keys in table order. -/
def keys : List String := "id" :: d.columns.map (·.key)

/-- The identifier: a missing one is empty. -/
def readId : Option Json → Option String
  | none => some ""
  | some v => v.string?

/-- Sets one member from what stands under its key. -/
def readColumn (find : String → Option Json) (s : σ) (c : Column σ) : Option σ :=
  match find c.key with
  | none => some s
  | some v => (c.read v).map (· s)

/-- Reads a dictionary whose members `find` gives by key. -/
def read (find : String → Option Json) : Option σ := do
  let id ← readId (find "id")
  d.columns.foldlM (readColumn find) (d.setId id d.empty)

/-- The members listed by position, found by key. -/
def positioned (items : List Json) : String → Option Json := fun key ↦ (d.keys.zip items).lookup key

/-- Reads a dictionary written as an array of its members: later ones may be missing, more than the
table has are refused. -/
def readItems (items : List Json) : Option σ :=
  if d.keys.length < items.length then none else d.read (d.positioned items)

/-- The members in table order. -/
def members (s : σ) : List (String × Json) :=
  ("id", .str (d.getId s)) :: d.columns.map fun c ↦ (c.key, c.write s)

/-- The dictionary as an object. -/
def toJson (s : σ) : Json := .obj (d.members s)

/-- Reads an object or an array. -/
def ofJson? : Json → Option σ
  | .obj ms => d.read fun key ↦ ms.lookup key
  | .arr items => d.readItems items
  | _ => none

end Dictionary

end MediaTelemetry
