import Mathlib
import MediaTelemetry.Fragment.Dictionary

/-!
# Reading dictionaries

What a dictionary type accepts is said without its reader: `Scalar.Accepts` lists the JSON values of
each type of member, `Scalar.Holds` tells which of its values such a JSON value is, and
`Dictionary.Describes` puts the members together.

`Dictionary.read_eq_some_iff` shows that the reader follows this, if the table is lawful
(`Dictionary.Lawful`): keys differ, members do not interfere, and a dictionary has no others. The
reader skips a missing member, so it also rests on members being absent until they are set
(`Column.Fresh`).
-/

namespace MediaTelemetry

/-! ### Values -/

theorem Json.whole?_eq_some_iff {v : Json} {n : Int} : v.whole? = some n ↔ v = .num (.whole n) := by
  rw [whole?.eq_def]
  split
  · simp
  · rename_i hother
    exact ⟨nofun, fun h ↦ absurd h (hother n)⟩

theorem Json.natBelow?_eq_some_iff {v : Json} {bound n : Nat} :
    v.natBelow? bound = some n ↔ v = .num (.whole n) ∧ n < bound := by
  rw [natBelow?, Option.bind_eq_some_iff]
  constructor
  · rintro ⟨m, hm, hn⟩
    obtain rfl := whole?_eq_some_iff.1 hm
    split at hn
    · rename_i hbounds
      obtain rfl := Option.some.inj hn
      exact ⟨by rw [Int.toNat_of_nonneg hbounds.1], by omega⟩
    · cases hn
  · rintro ⟨rfl, hn⟩
    exact ⟨n, rfl, by rw [if_pos (by omega), Int.toNat_natCast]⟩

namespace Scalar

/-- The JSON values of a type of member, apart from `null`. -/
def Accepts : Scalar → Json → Prop
  | .text, v => ∃ s, v = .str s
  | .flag, v => ∃ b, v = .bool b
  | .number, v => ∃ n, v = .num n
  | .word16, v => ∃ n : Int, v = .num (.whole n) ∧ 0 ≤ n ∧ n < 2 ^ 16
  | .word32, v => ∃ n : Int, v = .num (.whole n) ∧ 0 ≤ n ∧ n < 2 ^ 32
  | .word64, v => ∃ n : Int, v = .num (.whole n) ∧ 0 ≤ n ∧ n < 2 ^ 64
  | .signed64, v => ∃ n : Int, v = .num (.whole n) ∧ -2 ^ 63 ≤ n ∧ n < 2 ^ 63

/-- The JSON value is this value of the type. -/
def Holds : (k : Scalar) → Json → k.Value → Prop
  | .text, v, x => v = .str x
  | .flag, v, x => v = .bool x
  | .number, v, x => ∃ n, v = .num n ∧ n.toFloat = x
  | .word16, v, x => v = .num (.whole x.toNat)
  | .word32, v, x => v = .num (.whole x.toNat)
  | .word64, v, x => v = .num (.whole x.toNat)
  | .signed64, v, x => v = .num (.whole x.toInt)

/-- The numbers below a bound, read into a type of words. -/
theorem map_natBelow?_eq_some_iff {α : Type} {ofNat : Nat → α} {toNat : α → Nat} {bound : Nat}
    (htoNat : ∀ n < bound, toNat (ofNat n) = n) (hofNat : ∀ x, ofNat (toNat x) = x)
    (hbound : ∀ x, toNat x < bound) {v : Json} {x : α} :
    (v.natBelow? bound).map ofNat = some x ↔ v = .num (.whole (toNat x)) := by
  rw [Option.map_eq_some_iff]
  constructor
  · rintro ⟨n, hn, rfl⟩
    obtain ⟨rfl, hlt⟩ := Json.natBelow?_eq_some_iff.1 hn
    rw [htoNat n hlt]
  · intro hv
    exact ⟨toNat x, Json.natBelow?_eq_some_iff.2 ⟨hv, hbound x⟩, hofNat x⟩

theorem signed64?_eq_some_iff {v : Json} {x : Int64} :
    v.signed64? = some x ↔ v = .num (.whole x.toInt) := by
  rw [Json.signed64?, Option.bind_eq_some_iff]
  constructor
  · rintro ⟨n, hn, hx⟩
    obtain rfl := Json.whole?_eq_some_iff.1 hn
    split at hx
    · rename_i hbounds
      obtain rfl := Option.some.inj hx
      rw [Int64.toInt_ofInt_of_le hbounds.1 (Int.lt_of_le_of_lt hbounds.2 (by decide))]
    · cases hx
  · rintro rfl
    refine ⟨x.toInt, rfl, ?_⟩
    rw [if_pos ⟨x.minValue_le_toInt, x.toInt_le⟩, Int64.ofInt_toInt]

theorem read_eq_some_iff {k : Scalar} {v : Json} {x : k.Value} :
    k.read v = some x ↔ k.Holds v x := by
  cases k with
  | text => cases v <;> simp [read, Holds, Json.string?]
  | flag => cases v <;> simp [read, Holds, Json.flag?]
  | number => cases v <;> simp [read, Holds, Json.number?]
  | word16 =>
    exact map_natBelow?_eq_some_iff (fun _ ↦ UInt16.toNat_ofNat_of_lt')
      (fun _ ↦ UInt16.ofNat_toNat) UInt16.toNat_lt
  | word32 =>
    exact map_natBelow?_eq_some_iff (fun _ ↦ UInt32.toNat_ofNat_of_lt')
      (fun _ ↦ UInt32.ofNat_toNat) UInt32.toNat_lt
  | word64 =>
    exact map_natBelow?_eq_some_iff (fun _ ↦ UInt64.toNat_ofNat_of_lt')
      (fun _ ↦ UInt64.ofNat_toNat) UInt64.toNat_lt
  | signed64 => exact signed64?_eq_some_iff

theorem accepts_iff {k : Scalar} {v : Json} : k.Accepts v ↔ ∃ x, k.Holds v x := by
  have hword : ∀ {α : Type} {ofNat : Nat → α} {toNat : α → Nat} {bound : Nat},
      (∀ n < bound, toNat (ofNat n) = n) → (∀ x, toNat x < bound) →
      ((∃ n : Int, v = .num (.whole n) ∧ 0 ≤ n ∧ n < (bound : Int)) ↔
        ∃ x, v = .num (.whole (toNat x))) := by
    intro α ofNat toNat bound htoNat hbound
    constructor
    · rintro ⟨n, rfl, hpos, hlt⟩
      refine ⟨ofNat n.toNat, ?_⟩
      rw [htoNat _ (by omega), Int.toNat_of_nonneg hpos]
    · rintro ⟨x, rfl⟩
      exact ⟨_, rfl, Int.natCast_nonneg _, Int.ofNat_lt.2 (hbound x)⟩
  cases k with
  | text => rfl
  | flag => rfl
  | number => simp [Accepts, Holds]
  | word16 => exact hword (fun _ ↦ UInt16.toNat_ofNat_of_lt') UInt16.toNat_lt
  | word32 => exact hword (fun _ ↦ UInt32.toNat_ofNat_of_lt') UInt32.toNat_lt
  | word64 => exact hword (fun _ ↦ UInt64.toNat_ofNat_of_lt') UInt64.toNat_lt
  | signed64 =>
    constructor
    · rintro ⟨n, rfl, hle, hlt⟩
      exact ⟨Int64.ofInt n, by rw [Holds, Int64.toInt_ofInt_of_le hle hlt]⟩
    · rintro ⟨x, rfl⟩
      exact ⟨_, rfl, x.le_toInt, x.toInt_lt⟩

theorem not_holds_null {k : Scalar} {x : k.Value} : ¬ k.Holds .null x := by
  cases k <;> simp [Holds]

/-! ### Members -/

/-- What may stand under a key, and the value it gives: a member that is missing or `null` is
absent. -/
inductive Given (k : Scalar) : Option Json → Option k.Value → Prop
  | missing : Given k none none
  | null : Given k (some .null) none
  | value {v : Json} {x : k.Value} (holds : k.Holds v x) : Given k (some v) (some x)

theorem Given.holds {k : Scalar} {v : Json} {x : k.Value} (h : k.Given (some v) (some x)) :
    k.Holds v x := by
  cases h with
  | value holds => exact holds

/-- The value that what stands under a key gives, if it gives one. -/
def given? (k : Scalar) : Option Json → Option (Option k.Value)
  | none => some none
  | some v => Json.optional? k.read v

theorem given?_eq_some_iff {k : Scalar} {found : Option Json} {x : Option k.Value} :
    k.given? found = some x ↔ k.Given found x := by
  constructor
  · intro h
    cases found with
    | none =>
      obtain rfl := Option.some.inj h
      exact .missing
    | some v =>
      rw [given?, Json.optional?.eq_def] at h
      split at h
      · obtain rfl := Option.some.inj h
        exact .null
      · obtain ⟨a, ha, rfl⟩ := Option.map_eq_some_iff.1 h
        exact .value (read_eq_some_iff.1 ha)
  · intro h
    cases h with
    | missing => rfl
    | null => rfl
    | value holds =>
      rw [given?, Json.optional?.eq_def]
      split
      · exact absurd holds not_holds_null
      · rw [read_eq_some_iff.2 holds, Option.map_some]

/-- A member is accepted if it is missing, `null`, or of the type. -/
theorem exists_given_iff {k : Scalar} {found : Option Json} :
    (∃ x, k.Given found x) ↔ ∀ v, found = some v → v = .null ∨ k.Accepts v := by
  constructor
  · rintro ⟨x, h⟩ v rfl
    cases h with
    | null => exact .inl rfl
    | value holds => exact .inr (accepts_iff.2 ⟨_, holds⟩)
  · intro h
    cases found with
    | none => exact ⟨none, .missing⟩
    | some v =>
      rcases h v rfl with rfl | haccepts
      · exact ⟨none, .null⟩
      · obtain ⟨x, hx⟩ := accepts_iff.1 haccepts
        exact ⟨some x, .value hx⟩

end Scalar

namespace Column

variable {σ : Type}

/-- The members are absent, each also when those before it have been set. -/
def Fresh : List (Column σ) → σ → Prop
  | [], _ => True
  | c :: cs, s => c.get s = none ∧ ∀ v, Fresh cs (c.set v s)

end Column

/-! ### Dictionaries -/

namespace Dictionary

variable {σ : Type} (d : Dictionary σ)

/-- The dictionary with an identifier and members. -/
def build (id : String) (value : (c : Column σ) → Option c.scalar.Value) : σ :=
  d.columns.foldl (fun s c ↦ c.set (value c) s) (d.setId id d.empty)

/-- What a table needs to describe dictionaries. -/
structure Lawful : Prop where
  keys : ("type" :: d.keys).Nodup
  fresh : ∀ id, Column.Fresh d.columns (d.setId id d.empty)
  set_get : ∀ c ∈ d.columns, ∀ s, c.set (c.get s) s = s
  getId_build : ∀ id value, d.getId (d.build id value) = id
  get_build : ∀ id value, ∀ c ∈ d.columns, c.get (d.build id value) = value c
  /-- Nothing else is in a dictionary. -/
  build_get : ∀ s, d.build (d.getId s) (fun c ↦ c.get s) = s

/-- The dictionary is what the members found by key say. -/
structure Describes (find : String → Option Json) (s : σ) : Prop where
  /-- A missing identifier is empty. -/
  id : (find "id").elim (d.getId s = "") (· = .str (d.getId s))
  members : ∀ c ∈ d.columns, c.scalar.Given (find c.key) (c.get s)

/-- The members found by key are all well-formed. -/
def Accepts (find : String → Option Json) : Prop :=
  (∀ v, find "id" = some v → ∃ id, v = .str id) ∧
    ∀ c ∈ d.columns, ∀ v, find c.key = some v → v = .null ∨ c.scalar.Accepts v

variable {d} {find find' : String → Option Json} {s : σ}

theorem readId_eq_some_iff {found : Option Json} {id : String} :
    readId found = some id ↔ found.elim (id = "") (· = .str id) := by
  cases found with
  | none => exact ⟨fun h ↦ (Option.some.inj h).symm, fun h ↦ congrArg some h.symm⟩
  | some v => exact Scalar.read_eq_some_iff (k := .text)

theorem readColumn_eq {c : Column σ} (habsent : c.get s = none)
    (hset : c.set (c.get s) s = s) :
    readColumn find s c = (c.scalar.given? (find c.key)).map (c.set · s) := by
  rw [readColumn]
  split
  · rename_i hnone
    rw [hnone, Scalar.given?, Option.map_some, ← habsent, hset]
  · rename_i v hsome
    rw [hsome, Scalar.given?, Column.read, Option.map_map]
    rfl

/-- The value under the key of a column, if it is well-formed. -/
def found (find : String → Option Json) (c : Column σ) : Option c.scalar.Value :=
  (c.scalar.given? (find c.key)).getD none

theorem found_eq {c : Column σ} {x : Option c.scalar.Value}
    (h : c.scalar.Given (find c.key) x) : found find c = x := by
  rw [found, Scalar.given?_eq_some_iff.2 h, Option.getD_some]

/-- Members are read one after another, each by itself. -/
theorem foldlM_readColumn_eq_some_iff {cs : List (Column σ)} {t : σ} (hfresh : Column.Fresh cs s)
    (hset : ∀ c ∈ cs, ∀ s, c.set (c.get s) s = s) :
    cs.foldlM (readColumn find) s = some t ↔
      (∀ c ∈ cs, c.scalar.Given (find c.key) (found find c)) ∧
        cs.foldl (fun s c ↦ c.set (found find c) s) s = t := by
  induction cs generalizing s with
  | nil => simp
  | cons c cs ih =>
    obtain ⟨habsent, hrest⟩ := hfresh
    rw [List.foldlM_cons, readColumn_eq habsent (hset c List.mem_cons_self s), List.forall_mem_cons,
      List.foldl_cons, and_assoc, ← Scalar.given?_eq_some_iff]
    have ih := ih (hrest (found find c)) fun c' hc' ↦ hset c' (List.mem_cons_of_mem _ hc')
    rw [← ih]
    cases hgiven : c.scalar.given? (find c.key) with
    | none => simp
    | some x => simp [found, hgiven]

theorem build_congr {id : String} {value value' : (c : Column σ) → Option c.scalar.Value}
    (h : ∀ c ∈ d.columns, value c = value' c) : d.build id value = d.build id value' := by
  refine List.foldl_ext _ _ _ fun s c hc ↦ ?_
  rw [h c hc]

/-- **The reader of a lawful table gives what the members describe.** -/
theorem read_eq_some_iff (h : d.Lawful) : d.read find = some s ↔ d.Describes find s := by
  have hread : d.read find = some s ↔ ∃ id, readId (find "id") = some id ∧
      (∀ c ∈ d.columns, c.scalar.Given (find c.key) (found find c)) ∧
        d.build id (found find) = s := by
    rw [read, Option.bind_eq_bind, Option.bind_eq_some_iff]
    refine exists_congr fun id ↦ and_congr_right fun _ ↦ ?_
    exact foldlM_readColumn_eq_some_iff (h.fresh id) h.set_get
  rw [hread]
  constructor
  · rintro ⟨id, hid, hmembers, rfl⟩
    refine ⟨?_, fun c hc ↦ ?_⟩
    · rw [h.getId_build]
      exact readId_eq_some_iff.1 hid
    · rw [h.get_build id _ c hc]
      exact hmembers c hc
  · rintro ⟨hid, hmembers⟩
    refine ⟨d.getId s, readId_eq_some_iff.2 hid, fun c hc ↦ ?_, ?_⟩
    · rw [found_eq (hmembers c hc)]
      exact hmembers c hc
    · rw [build_congr fun c hc ↦ found_eq (hmembers c hc)]
      exact h.build_get s

/-- A dictionary can be read if its members are well-formed. -/
theorem exists_describes_iff (h : d.Lawful) : (∃ s, d.Describes find s) ↔ d.Accepts find := by
  constructor
  · rintro ⟨s, hid, hmembers⟩
    refine ⟨fun v hv ↦ ?_, fun c hc ↦ Scalar.exists_given_iff.1 ⟨_, hmembers c hc⟩⟩
    rw [hv] at hid
    exact ⟨_, hid⟩
  · rintro ⟨hid, hmembers⟩
    have hgiven : ∀ c ∈ d.columns, c.scalar.Given (find c.key) (found find c) := by
      intro c hc
      obtain ⟨x, hx⟩ := Scalar.exists_given_iff.2 (hmembers c hc)
      rwa [found_eq hx]
    obtain ⟨id, hreads⟩ : ∃ id, readId (find "id") = some id := by
      cases hfind : find "id" with
      | none => exact ⟨_, rfl⟩
      | some v =>
        obtain ⟨id, rfl⟩ := hid v hfind
        exact ⟨id, rfl⟩
    refine ⟨d.build id (found find), ?_, fun c hc ↦ ?_⟩
    · rw [h.getId_build]
      exact readId_eq_some_iff.1 hreads
    · rw [h.get_build id _ c hc]
      exact hgiven c hc

/-- Only what stands under the keys of the table matters. -/
theorem Describes.congr (h : d.Describes find s)
    (hfind : ∀ key ∈ d.keys, find key = find' key) : d.Describes find' s := by
  refine ⟨?_, fun c hc ↦ ?_⟩
  · rw [← hfind "id" List.mem_cons_self]
    exact h.id
  · rw [← hfind c.key (List.mem_cons_of_mem _ (List.mem_map_of_mem hc))]
    exact h.members c hc

end Dictionary

end MediaTelemetry
