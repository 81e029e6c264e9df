import Mathlib.Data.List.Basic
import Mathlib.Data.List.Nodup
import MediaTelemetry.KeyMap

/-!
# Look-up determines an ordered map

The entries of a `KeyMap` and its look-up say the same: an entry is listed exactly if its key looks
it up (`mem_entries_iff`), and two maps with the same look-up list the same entries in the same
order (`ext_get?`). What is read off a walk over the entries is therefore known as soon as every
key has been looked up, which is how `filterMap_entries_congr` compares two walks.
-/

namespace MediaTelemetry

open Std

/-- Where only one element of a list without repetitions gives something, a walk gives just that. -/
theorem flatMap_eq_of_mem {α β : Type} {l : List α} (hl : l.Nodup) {a : α} (ha : a ∈ l)
    {f : α → List β} (hf : ∀ b ∈ l, b ≠ a → f b = []) : l.flatMap f = f a := by
  obtain ⟨before, after, rfl⟩ := List.append_of_mem ha
  have hothers : ∀ b ∈ before ++ after, b ≠ a := by
    rintro b hb rfl
    exact (List.nodup_cons.1 (List.nodup_middle.1 hl)).1 hb
  have hbefore : before.flatMap f = [] := List.flatMap_eq_nil_iff.2 fun b hb ↦
    hf b (List.mem_append_left _ hb) (hothers b (List.mem_append_left _ hb))
  have hafter : after.flatMap f = [] := List.flatMap_eq_nil_iff.2 fun b hb ↦
    hf b (List.mem_append_right _ (List.mem_cons_of_mem _ hb))
      (hothers b (List.mem_append_right _ hb))
  rw [List.flatMap_append, List.flatMap_cons, hbefore, hafter, List.nil_append, List.append_nil]

theorem filterMap_eq_toList {α β : Type} {l : List α} (hl : l.Nodup) {a : α} (ha : a ∈ l)
    {f : α → Option β} (hf : ∀ b ∈ l, b ≠ a → f b = none) : l.filterMap f = (f a).toList := by
  rw [List.filterMap_eq_flatMap_toList]
  exact flatMap_eq_of_mem hl ha fun b hb hne ↦ by rw [hf b hb hne, Option.toList_none]

namespace KeyMap

variable {α β γ : Type} [Ord α]

section Order

variable [TransOrd α]

theorem ne_of_compare_lt {a b : α} (h : compare a b = .lt) : a ≠ b := by
  rintro rfl
  rw [ReflOrd.compare_self] at h
  exact absurd h (by decide)

/-- Entries are listed once. -/
theorem nodup_entries (m : KeyMap α β) : m.entries.Nodup :=
  m.pairwise_entries.imp fun h heq ↦ ne_of_compare_lt h (congrArg Prod.fst heq)

/-- So are keys. -/
theorem nodup_keys (m : KeyMap α β) : m.keys.Nodup :=
  m.pairwise_entries.map _ fun _ _ ↦ ne_of_compare_lt

end Order

section Lawful

variable [LawfulEqOrd α]

theorem mem_of_find? {key : α} {value : β} {l : List (α × β)} (h : find? key l = some value) :
    (key, value) ∈ l := by
  induction l with
  | nil => simp [find?] at h
  | cons e rest ih =>
    obtain ⟨k, v⟩ := e
    rw [find?] at h
    split at h
    · rename_i heq
      obtain rfl := LawfulEqCmp.compare_eq_iff_eq.1 heq
      obtain rfl := Option.some.inj h
      exact List.mem_cons_self
    · exact List.mem_cons_of_mem _ (ih h)

theorem find?_of_mem {key : α} {value : β} {l : List (α × β)} (hl : InKeyOrder l)
    (h : (key, value) ∈ l) : find? key l = some value := by
  induction l with
  | nil => simp at h
  | cons e rest ih =>
    obtain ⟨k, v⟩ := e
    have hrest := List.pairwise_cons.1 hl
    rw [find?]
    rcases List.mem_cons.1 h with heq | hmem
    · obtain ⟨rfl, rfl⟩ := Prod.mk.inj heq
      rw [if_pos (LawfulEqCmp.compare_eq_iff_eq.2 rfl)]
    · -- the head's key is smaller, so the look-up goes past it
      have hlt : compare k key = .lt := hrest.1 _ hmem
      rw [if_neg (by simp [hlt]), ih hrest.2 hmem]

/-- **Listing is look-up.** -/
theorem mem_entries_iff {m : KeyMap α β} {key : α} {value : β} :
    (key, value) ∈ m.entries ↔ m.get? key = some value :=
  ⟨find?_of_mem m.pairwise_entries, mem_of_find?⟩

theorem ext_get? [TransOrd α] {m₁ m₂ : KeyMap α β} (h : ∀ key, m₁.get? key = m₂.get? key) :
    m₁ = m₂ := by
  have hperm : m₁.entries.Perm m₂.entries := by
    rw [List.perm_ext_iff_of_nodup m₁.nodup_entries m₂.nodup_entries]
    rintro ⟨key, value⟩
    rw [mem_entries_iff, mem_entries_iff, h]
  have hanti : ∀ a b : α × β, compare a.1 b.1 = .lt → compare b.1 a.1 = .lt → a = b :=
    fun a b hab hba ↦ absurd hba (OrientedCmp.not_lt_of_lt hab)
  have heq : m₁.entries = m₂.entries :=
    hperm.eq_of_pairwise (fun a b _ _ ↦ hanti a b) m₁.pairwise_entries m₂.pairwise_entries
  obtain ⟨l₁, _⟩ := m₁
  obtain ⟨l₂, _⟩ := m₂
  simpa using heq

/-- Two walks give the same if they give the same at every key. -/
theorem filterMap_entries_congr [TransOrd α] {β₁ β₂ : Type} {m₁ : KeyMap α β₁} {m₂ : KeyMap α β₂}
    {f : α → β₁ → Option γ} {g : α → β₂ → Option γ}
    (h : ∀ key, (m₁.get? key).map (f key) = (m₂.get? key).map (g key)) :
    (m₁.entries.filterMap fun a ↦ f a.1 a.2) = m₂.entries.filterMap fun a ↦ g a.1 a.2 := by
  have hmap : m₁.map f = m₂.map g := ext_get? fun key ↦ by rw [get?_map, get?_map, h]
  have hwalk : (m₁.map f).entries.filterMap (·.2) = (m₂.map g).entries.filterMap (·.2) := by
    rw [hmap]
  simpa only [map, List.filterMap_map, Function.comp_def] using hwalk

/-- A walk that passes over all keys but one is a look-up. -/
theorem flatMap_entries_at [TransOrd α] {m : KeyMap α β} (key : α) {f : α × β → List γ}
    (hf : ∀ a, a.1 ≠ key → f a = []) :
    m.entries.flatMap f = (m.get? key).elim [] fun value ↦ f (key, value) := by
  cases h : m.get? key with
  | none =>
    refine List.flatMap_eq_nil_iff.2 fun a ha ↦ hf a ?_
    rintro rfl
    rw [mem_entries_iff.1 ha] at h
    exact absurd h (by simp)
  | some value =>
    refine flatMap_eq_of_mem m.nodup_entries (mem_entries_iff.2 h) fun a ha hne ↦ hf a ?_
    rintro rfl
    rw [mem_entries_iff.1 ha] at h
    exact hne (by rw [← Option.some.inj h])

theorem filterMap_entries_at [TransOrd α] {m : KeyMap α β} (key : α) {f : α × β → Option γ}
    (hf : ∀ a, a.1 ≠ key → f a = none) :
    m.entries.filterMap f = ((m.get? key).bind fun value ↦ f (key, value)).toList := by
  rw [List.filterMap_eq_flatMap_toList, flatMap_entries_at key fun a ha ↦ by
    rw [hf a ha, Option.toList_none]]
  cases m.get? key <;> rfl

theorem get?_insert_self [TransOrd α] (m : KeyMap α β) (key : α) (value : β) :
    (m.insert key value).get? key = some value := by
  rw [get?_insert, if_pos (LawfulEqCmp.compare_eq_iff_eq.2 rfl)]

theorem get?_insert_of_ne [TransOrd α] (m : KeyMap α β) {key key' : α} (h : key ≠ key')
    (value : β) : (m.insert key value).get? key' = m.get? key' := by
  rw [get?_insert, if_neg fun heq ↦ h (LawfulEqCmp.compare_eq_iff_eq.1 heq)]

/-- Of two values written under a key the second stays. -/
theorem insert_insert [TransOrd α] (m : KeyMap α β) (key : α) (value value' : β) :
    (m.insert key value).insert key value' = m.insert key value' := by
  refine ext_get? fun other ↦ ?_
  rw [get?_insert, get?_insert, get?_insert]
  split <;> rfl

end Lawful

end KeyMap

end MediaTelemetry
