import MediaTelemetry.Json.Draft
import MediaTelemetry.Json.Scalar

/-!
# Records in JSON texts

`Reading.record` reads a record with named members from a draft, in document order. An object gives
members by key: unknown ones need only be grammatical, a known one must not occur twice. An array
gives them by position: later ones may be missing, there must be no more than the record has.
Members that are not given keep the value they had at the start.

Some parts of a snapshot may be malformed without spoiling the rest; a `Reading` counts them, also
when it fails later on.
-/

namespace MediaTelemetry

/-- The outcome of reading: how many malformed parts were passed over, and the value, if there is
one. -/
structure Reading (α : Type) where
  dropped : Nat
  value : Option α

namespace Reading

variable {α β σ : Type}

/-- Nothing could be read. -/
def fail : Reading α := ⟨0, none⟩

/-- A value, or failure, with nothing passed over. -/
def ofOption (o : Option α) : Reading α := ⟨0, o⟩

/-- Reads on after a value; what was passed over adds up. -/
def bind (r : Reading α) (f : α → Reading β) : Reading β :=
  match r.value with
  | none => ⟨r.dropped, none⟩
  | some a => ⟨r.dropped + (f a).dropped, (f a).value⟩

instance : Monad Reading where
  pure a := ⟨0, some a⟩
  bind := bind

/-- Reads the items of an array in order. -/
def items (read : Draft → Reading α) : List Draft → Reading (List α)
  | [] => pure []
  | d :: ds => do
    let a ← read d
    let rest ← items read ds
    pure (a :: rest)

/-- Reads an array. -/
def array (read : Draft → Reading α) : Draft → Reading (List α)
  | .arr ds => items read ds
  | _ => fail

/-- One member of a record: its key, and what its value does to the record. -/
structure Member (σ : Type) where
  key : String
  read : Draft → Reading (σ → σ)

/-- A member read from a complete value. -/
def Member.ofValue (key : String) (read : Json → Option α) (set : α → σ → σ) : Member σ :=
  ⟨key, fun d ↦ ofOption ((d.value?.bind read).map set)⟩

/-- A member that may be `null`. -/
def Member.optional (key : String) (read : Json → Option α) (set : Option α → σ → σ) : Member σ :=
  .ofValue key (Json.optional? read) set

/-- Reads members by key. -/
def byKey (members : List (Member σ)) : List String → σ → List (Option String × Draft) → Reading σ
  | _, s, [] => pure s
  | _, _, (none, _) :: _ => fail
  | seen, s, (some key, d) :: rest =>
    match members.find? (·.key == key) with
    | none => if d.isGrammatical then byKey members seen s rest else fail
    | some m =>
      if seen.contains key then fail
      else do
        let set ← m.read d
        byKey members (key :: seen) (set s) rest

/-- Reads members by position. -/
def byPosition : List (Member σ) → σ → List Draft → Reading σ
  | _, s, [] => pure s
  | [], _, _ :: _ => fail
  | m :: ms, s, d :: ds => do
    let set ← m.read d
    byPosition ms (set s) ds

/-- Reads a record that starts out as `s`. -/
def record (members : List (Member σ)) (s : σ) : Draft → Reading σ
  | .obj ms => byKey members [] s ms
  | .arr ds => byPosition members s ds
  | _ => fail

end Reading

end MediaTelemetry
