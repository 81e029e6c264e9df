/-!
# Maps listed in key order

A finite map kept as its list of entries, keys strictly increasing. Listing order is part of what
the library reports, so it belongs to the type: a walk over the entries visits keys in increasing
order (`KeyMap.pairwise_entries`). Writing is described through look-up by `get?_insert` and
`get?_map`.
-/

namespace MediaTelemetry

open Std

/-- The list `entries` holds its keys in strictly increasing order. -/
def InKeyOrder {α β : Type} [Ord α] (entries : List (α × β)) : Prop :=
  entries.Pairwise fun a b ↦ compare a.1 b.1 = .lt

/-- A finite map from `α` to `β`, as its entries in strictly increasing key order. -/
structure KeyMap (α β : Type) [Ord α] where
  entries : List (α × β)
  pairwise_entries : InKeyOrder entries

namespace KeyMap

variable {α β γ : Type} [Ord α]

/-- The map without entries. -/
def empty : KeyMap α β := ⟨[], .nil⟩

instance : Inhabited (KeyMap α β) := ⟨empty⟩

instance : EmptyCollection (KeyMap α β) := ⟨empty⟩

/-- The keys, in increasing order. -/
def keys (m : KeyMap α β) : List α := m.entries.map (·.1)

/-- The number of entries. -/
def size (m : KeyMap α β) : Nat := m.entries.length

/-- The map has no entry. -/
def isEmpty (m : KeyMap α β) : Bool := m.entries.isEmpty

/-- The first value listed under `key`. -/
def find? (key : α) : List (α × β) → Option β
  | [] => none
  | (k, v) :: rest => if compare k key = .eq then some v else find? key rest

/-- The value under `key`. -/
def get? (m : KeyMap α β) (key : α) : Option β := find? key m.entries

/-- Some value is listed under `key`. -/
def contains (m : KeyMap α β) (key : α) : Bool := (m.get? key).isSome

/-- Puts `key` at its place in an ordered list, replacing what stood under it. -/
def place (key : α) (value : β) : List (α × β) → List (α × β)
  | [] => [(key, value)]
  | (k, v) :: rest =>
    match compare key k with
    | .lt => (key, value) :: (k, v) :: rest
    | .eq => (key, value) :: rest
    | .gt => (k, v) :: place key value rest

theorem mem_place {key : α} {value : β} {a : α × β} {l : List (α × β)} (h : a ∈ place key value l) :
    a = (key, value) ∨ a ∈ l := by
  induction l with
  | nil => exact .inl (by simpa [place] using h)
  | cons e rest ih =>
    obtain ⟨k, v⟩ := e
    unfold place at h
    split at h
    · simpa using h
    · grind
    · grind

/-! ### Writing -/

variable [TransOrd α] [LawfulEqOrd α]

theorem pairwise_place {key : α} {value : β} {l : List (α × β)} (h : InKeyOrder l) :
    InKeyOrder (place key value l) := by
  induction l with
  | nil => simp [place, InKeyOrder]
  | cons e rest ih =>
    obtain ⟨k, v⟩ := e
    unfold InKeyOrder at h ih ⊢
    have hrest := List.pairwise_cons.1 h
    unfold place
    split
    · rename_i hlt
      refine List.pairwise_cons.2 ⟨fun a ha ↦ ?_, h⟩
      rcases List.mem_cons.1 ha with rfl | ha
      · exact hlt
      · exact TransCmp.lt_trans hlt (hrest.1 a ha)
    · rename_i heq
      obtain rfl := LawfulEqCmp.compare_eq_iff_eq.1 heq
      exact List.pairwise_cons.2 ⟨hrest.1, hrest.2⟩
    · rename_i hgt
      refine List.pairwise_cons.2 ⟨fun a ha ↦ ?_, ih hrest.2⟩
      rcases mem_place ha with rfl | ha
      · exact OrientedCmp.gt_iff_lt.1 hgt
      · exact hrest.1 a ha

/-- The map with `value` under `key`, whatever stood there. -/
def insert (m : KeyMap α β) (key : α) (value : β) : KeyMap α β :=
  ⟨place key value m.entries, pairwise_place m.pairwise_entries⟩

omit [TransOrd α] in
theorem find?_place (key key' : α) (value : β) (l : List (α × β)) :
    find? key' (place key value l) =
      if compare key key' = .eq then some value else find? key' l := by
  induction l with
  | nil => simp [place, find?]
  | cons e rest ih =>
    obtain ⟨k, v⟩ := e
    unfold place
    split
    · simp [find?]
    · rename_i heq
      obtain rfl := LawfulEqCmp.compare_eq_iff_eq.1 heq
      simp only [find?]; split <;> simp_all
    · rename_i hgt
      simp only [find?, ih]
      by_cases h : compare k key' = .eq
      · obtain rfl := LawfulEqCmp.compare_eq_iff_eq.1 h
        simp [hgt]
      · simp [h]

/-- Reading after writing: the new value under its own key, the old one elsewhere. -/
@[simp] theorem get?_insert (m : KeyMap α β) (key key' : α) (value : β) :
    (m.insert key value).get? key' = if compare key key' = .eq then some value else m.get? key' :=
  find?_place key key' value m.entries

omit [TransOrd α] [LawfulEqOrd α]

@[simp] theorem get?_empty (key : α) : (∅ : KeyMap α β).get? key = none := rfl

/-- The same keys, each value replaced by what `f` makes of it. -/
def map (m : KeyMap α β) (f : α → β → γ) : KeyMap α γ :=
  ⟨m.entries.map fun e ↦ (e.1, f e.1 e.2), by
    simpa [InKeyOrder, List.pairwise_map] using m.pairwise_entries⟩

theorem find?_map [LawfulEqOrd α] (f : α → β → γ) (key : α) (l : List (α × β)) :
    find? key (l.map fun e ↦ (e.1, f e.1 e.2)) = (find? key l).map (f key) := by
  induction l with
  | nil => rfl
  | cons e rest ih =>
    simp only [List.map_cons, find?]
    split
    · rename_i heq
      obtain rfl := LawfulEqCmp.compare_eq_iff_eq.1 heq
      rfl
    · exact ih

@[simp] theorem get?_map [LawfulEqOrd α] (m : KeyMap α β) (f : α → β → γ) (key : α) :
    (m.map f).get? key = (m.get? key).map (f key) :=
  find?_map f key m.entries

@[simp] theorem keys_map (m : KeyMap α β) (f : α → β → γ) : (m.map f).keys = m.keys := by
  simp [keys, map]

end KeyMap

end MediaTelemetry
