import MediaTelemetry.Json.Basic

/-!
# Drafts: what a JSON text says before it is checked

A text can be wrong in two ways that a reader meets at different moments. A *flawed* value is well
written but names nothing usable, such as a number beyond every double, half of a surrogate pair or
a container nested too deep; whoever needs the value fails, whoever skips it does not mind. A
*broken* value is not JSON at all, and nobody gets past it. `Draft` keeps both as leaves of the
tree, so that readers meet them in document order, after the parts that stand before them.
-/

namespace MediaTelemetry

/-- A JSON text as a tree, in document order, repeated keys kept. -/
inductive Draft where
  | null
  | bool (b : Bool)
  | num (n : Number)
  | str (s : String)
  | arr (items : List Draft)
  /-- A key without a usable text is `none`. -/
  | obj (members : List (Option String × Draft))
  /-- Well written, yet names no value. -/
  | flawed
  /-- Not JSON from here on. -/
  | broken
deriving Inhabited

/-- Puts a member where its key belongs in an object listed in key order; the later of two members
with one key stands. -/
def Json.putMember (key : String) (value : Json) : List (String × Json) → List (String × Json)
  | [] => [(key, value)]
  | (k, v) :: rest =>
    if key < k then (key, value) :: (k, v) :: rest
    else if key = k then (key, value) :: rest
    else (k, v) :: Json.putMember key value rest

namespace Draft

mutual

/-- Grammatical throughout, flaws admitted. -/
def isGrammatical : Draft → Bool
  | .broken => false
  | .arr xs => areGrammatical xs
  | .obj ms => membersAreGrammatical ms
  | _ => true

/-- Every item is grammatical. -/
def areGrammatical : List Draft → Bool
  | [] => true
  | x :: xs => isGrammatical x && areGrammatical xs

/-- Every member is grammatical. -/
def membersAreGrammatical : List (Option String × Draft) → Bool
  | [] => true
  | (_, x) :: ms => isGrammatical x && membersAreGrammatical ms

end

mutual

/-- The value, if nothing in it is flawed or broken. Members are listed in key order, and of
members with one key the last stands. -/
def value? : Draft → Option Json
  | .null => some .null
  | .bool b => some (.bool b)
  | .num n => some (.num n)
  | .str s => some (.str s)
  | .arr xs => (values? xs).map .arr
  | .obj ms => (members? ms []).map .obj
  | .flawed => none
  | .broken => none

/-- The values of all items. -/
def values? : List Draft → Option (List Json)
  | [] => some []
  | x :: xs => do
    let v ← value? x
    let vs ← values? xs
    return v :: vs

/-- The members, put one after the other into those read so far. -/
def members? : List (Option String × Draft) → List (String × Json) → Option (List (String × Json))
  | [], done => some done
  | (none, _) :: _, _ => none
  | (some key, x) :: ms, done => do
    let v ← value? x
    members? ms (Json.putMember key v done)

end

mutual

/-- A value as the draft of its text. -/
def ofJson : Json → Draft
  | .null => .null
  | .bool b => .bool b
  | .num n => .num n
  | .str s => .str s
  | .arr xs => .arr (ofItems xs)
  | .obj ms => .obj (ofMembers ms)

/-- The drafts of the items of an array. -/
def ofItems : List Json → List Draft
  | [] => []
  | x :: xs => ofJson x :: ofItems xs

/-- The drafts of the members of an object. -/
def ofMembers : List (String × Json) → List (Option String × Draft)
  | [] => []
  | (key, x) :: ms => (some key, ofJson x) :: ofMembers ms

end

end Draft

end MediaTelemetry
