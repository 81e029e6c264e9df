import MediaTelemetry.Json.Lexeme

/-!
# Reading JSON text

`Document.ofText` builds the draft of a text by one walk over its characters, with the open
containers on a stack. At the first lexeme that cannot stand where it stands, the draft is closed
around a broken leaf, so that everything before it is still there to be read.
-/

namespace MediaTelemetry

/-- A text as read: its value, and whether anything stands behind it. -/
structure Document where
  root : Draft
  trailing : Bool

namespace Document

/-- An open container around the value being read. Finished parts are listed last first. -/
inductive Frame where
  | item (done : List Draft)
  | member (done : List (Option String × Draft)) (key : Option String)

/-- What may come next. -/
inductive State where
  /-- A value, or the end of an array just opened. -/
  | value (stack : List Frame) (mayClose : Bool)
  /-- The comma or end after an item. -/
  | afterItem (done : List Draft) (stack : List Frame)
  /-- A key, or the end of an object just opened. -/
  | key (done : List (Option String × Draft)) (stack : List Frame) (mayClose : Bool)
  /-- The colon after a key. -/
  | colon (done : List (Option String × Draft)) (key : Option String) (stack : List Frame)
  /-- The comma or end after a member. -/
  | afterMember (done : List (Option String × Draft)) (stack : List Frame)
  /-- Nothing: the value is complete. -/
  | complete (document : Document)
  /-- Nothing: the text is not JSON. -/
  | stopped (root : Draft)

/-- How deep containers may be nested for a value to be usable. -/
def depthLimit : Nat := 127

/-- A value is complete inside the open containers. -/
def close (d : Draft) : List Frame → State
  | [] => .complete ⟨d, false⟩
  | .item done :: stack => .afterItem (d :: done) stack
  | .member done name :: stack => .afterMember ((name, d) :: done) stack

/-- A container is complete. Inside too many others it is well written, yet names no value. -/
def closeContainer (d : Draft) (stack : List Frame) : State :=
  close (if stack.length < depthLimit then d else .flawed) stack

/-- The tree with all open containers ended around `d`. -/
def collapse (d : Draft) : List Frame → Draft
  | [] => d
  | .item done :: stack => collapse (.arr (d :: done).reverse) stack
  | .member done name :: stack => collapse (.obj ((name, d) :: done).reverse) stack

/-- The tree when the text breaks off here. -/
def State.cut : State → Draft
  | .value stack _ => collapse .broken stack
  | .afterItem done stack => collapse (.arr (.broken :: done).reverse) stack
  | .key done stack _ => collapse (.obj ((none, .broken) :: done).reverse) stack
  | .colon done name stack => collapse (.obj ((name, .broken) :: done).reverse) stack
  | .afterMember done stack => collapse (.obj ((none, .broken) :: done).reverse) stack
  | .complete d => d.root
  | .stopped d => d

/-- Takes in the next lexeme. -/
def State.step (s : State) (l : Lexeme) : State :=
  match s, l with
  | .value stack _, .string text => close ((text.map .str).getD .flawed) stack
  | .value stack _, .leaf d => close d stack
  | .value stack _, .openArray => .value (.item [] :: stack) true
  | .value stack _, .openObject => .key [] stack true
  | .value (.item [] :: stack) true, .closeArray => closeContainer (.arr []) stack
  | .afterItem done stack, .comma => .value (.item done :: stack) false
  | .afterItem done stack, .closeArray => closeContainer (.arr done.reverse) stack
  | .key done stack _, .string text => .colon done text stack
  | .key [] stack true, .closeObject => closeContainer (.obj []) stack
  | .colon done name stack, .colon => .value (.member done name :: stack) false
  | .afterMember done stack, .comma => .key done stack false
  | .afterMember done stack, .closeObject => closeContainer (.obj done.reverse) stack
  | .complete d, _ => .complete ⟨d.root, true⟩
  | .stopped d, _ => .stopped d
  | s, _ => .stopped s.cut

/-- Takes in the next character: the lexemes it completes go to the tree. -/
def advance (place : Lexeme.Cursor × State) (c : Char) : Lexeme.Cursor × State :=
  let (cursor, found) := Lexeme.step place.1 c
  (cursor, found.foldl State.step place.2)

/-- Reads a text. -/
def ofText (s : String) : Document :=
  let (cursor, state) := s.toList.foldl advance (.between, .value [] false)
  match (Lexeme.last cursor).foldl State.step state with
  | .complete d => d
  | other => ⟨other.cut, false⟩

/-- The value of a text that is JSON throughout and names usable values only. -/
def value? (d : Document) : Option Json := if d.trailing then none else d.root.value?

end Document

end MediaTelemetry
