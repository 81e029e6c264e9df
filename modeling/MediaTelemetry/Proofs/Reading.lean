import Mathlib.Data.List.Forall2
import Mathlib.Data.String.Basic
import MediaTelemetry.Json.Record

/-!
# Values as drafts, and drafts with changes

A value whose keys are in order is the value of its draft (`Draft.value?_ofJson`), so what is said
about drafts holds of texts and of values alike. In any other order, too, the draft of an object
gives a value for each member if the keys differ (`Draft.value?_ofJson_obj`).

The rest is about reading a record again after some of its members have changed. `Draft.Altered`
says what may change where, by key or by position. `Reading.Carries` says that a second reading
succeeds where the first does, with a related value; it goes through sequencing, arrays and records,
so that only the readers of the changed members are left to look at.
-/

namespace MediaTelemetry

/-! ### Values as drafts -/

namespace Json

mutual

/-- The keys of every object increase, so none is repeated. -/
def isOrdered : Json → Bool
  | .arr xs => areOrdered xs
  | .obj ms => membersAreOrdered ms && decide ((ms.map (·.1)).Pairwise (· < ·))
  | _ => true

/-- Every item is in order. -/
def areOrdered : List Json → Bool
  | [] => true
  | x :: xs => isOrdered x && areOrdered xs

/-- Every member is in order. -/
def membersAreOrdered : List (String × Json) → Bool
  | [] => true
  | (_, x) :: ms => isOrdered x && membersAreOrdered ms

end

/-- A member whose key comes after all others goes to the end. -/
theorem putMember_of_lt {key : String} {value : Json} {done : List (String × Json)}
    (h : ∀ p ∈ done, p.1 < key) : putMember key value done = done ++ [(key, value)] := by
  induction done with
  | nil => rfl
  | cons p done ih =>
    have hp : p.1 < key := h p List.mem_cons_self
    rw [putMember, if_neg (lt_asymm hp), if_neg hp.ne',
      ih fun q hq ↦ h q (List.mem_cons_of_mem _ hq), List.cons_append]

/-- A member whose key is not there yet is put among the others. -/
theorem perm_putMember {key : String} {value : Json} {done : List (String × Json)}
    (h : key ∉ done.map Prod.fst) : (putMember key value done).Perm ((key, value) :: done) := by
  induction done with
  | nil => rfl
  | cons p rest ih =>
    obtain ⟨k, v⟩ := p
    rw [List.map_cons, List.mem_cons, not_or] at h
    rw [putMember]
    split
    · rfl
    · rw [if_neg h.1]
      exact ((ih h.2).cons (k, v)).trans (.swap ..)

end Json

namespace Draft

mutual

/-- **A value in order is the value of its draft.** -/
theorem value?_ofJson : ∀ {v : Json}, v.isOrdered = true → (ofJson v).value? = some v
  | .null, _ | .bool _, _ | .num _, _ | .str _, _ => rfl
  | .arr xs, h => by
    rw [Json.isOrdered] at h
    rw [ofJson, value?, values?_ofItems h, Option.map_some]
  | .obj ms, h => by
    rw [Json.isOrdered, Bool.and_eq_true, decide_eq_true_eq] at h
    rw [ofJson, value?, @members?_ofMembers ms [] h.1 h.2, List.nil_append, Option.map_some]

theorem values?_ofItems : ∀ {xs : List Json}, Json.areOrdered xs = true →
    values? (ofItems xs) = some xs
  | [], _ => rfl
  | x :: xs, h => by
    rw [Json.areOrdered, Bool.and_eq_true] at h
    rw [ofItems, values?, value?_ofJson h.1, values?_ofItems h.2]
    rfl

/-- The members of an object in order are put one behind the other. -/
theorem members?_ofMembers : ∀ {ms done : List (String × Json)},
    Json.membersAreOrdered ms = true → ((done ++ ms).map (·.1)).Pairwise (· < ·) →
      members? (ofMembers ms) done = some (done ++ ms)
  | [], done, _, _ => by rw [ofMembers, members?, List.append_nil]
  | (key, x) :: ms, done, h, hkeys => by
    rw [Json.membersAreOrdered, Bool.and_eq_true] at h
    have hlast : ∀ p ∈ done, p.1 < key := by
      intro p hp
      rw [List.map_append, List.pairwise_append] at hkeys
      exact hkeys.2.2 _ (List.mem_map_of_mem hp) _ List.mem_cons_self
    have hrest : ((done ++ [(key, x)] ++ ms).map (·.1)).Pairwise (· < ·) := by
      rwa [List.append_assoc, List.singleton_append]
    rw [ofMembers, members?, value?_ofJson h.1, Option.bind_eq_bind, Option.bind_some,
      Json.putMember_of_lt hlast, members?_ofMembers h.2 hrest, List.append_assoc,
      List.singleton_append]

end

mutual

/-- The draft of a value names a value. -/
theorem exists_value?_ofJson : ∀ v : Json, ∃ v', (ofJson v).value? = some v'
  | .null | .bool _ | .num _ | .str _ => ⟨_, rfl⟩
  | .arr xs => by
    obtain ⟨vs, hvs⟩ := exists_values?_ofItems xs
    exact ⟨_, by rw [ofJson, value?, hvs, Option.map_some]⟩
  | .obj ms => by
    obtain ⟨read, hread⟩ := exists_members?_ofMembers ms []
    exact ⟨_, by rw [ofJson, value?, hread, Option.map_some]⟩

theorem exists_values?_ofItems : ∀ xs : List Json, ∃ vs, values? (ofItems xs) = some vs
  | [] => ⟨_, rfl⟩
  | x :: xs => by
    obtain ⟨v, hv⟩ := exists_value?_ofJson x
    obtain ⟨vs, hvs⟩ := exists_values?_ofItems xs
    exact ⟨v :: vs, by rw [ofItems, values?, hv, hvs]; rfl⟩

theorem exists_members?_ofMembers : ∀ ms done : List (String × Json),
    ∃ read, members? (ofMembers ms) done = some read
  | [], done => ⟨done, rfl⟩
  | (key, x) :: ms, done => by
    obtain ⟨v, hv⟩ := exists_value?_ofJson x
    obtain ⟨read, hread⟩ := exists_members?_ofMembers ms (Json.putMember key v done)
    exact ⟨read, by rw [ofMembers, members?, hv, Option.bind_eq_bind, Option.bind_some, hread]⟩

end

/-- The same key, with the value that the draft of the first value names. -/
def ReadsAs (written read : String × Json) : Prop :=
  written.1 = read.1 ∧ (ofJson written.2).value? = some read.2

section ReadsAs

variable {ms kept : List (String × Json)}

theorem map_fst_of_readsAs (h : List.Forall₂ ReadsAs ms kept) :
    kept.map Prod.fst = ms.map Prod.fst := by
  induction h with
  | nil => rfl
  | cons hm _ ih => rw [List.map_cons, List.map_cons, hm.1, ih]

theorem lookup_of_readsAs (h : List.Forall₂ ReadsAs ms kept) (key : String) :
    kept.lookup key = (ms.lookup key).bind fun v ↦ (ofJson v).value? := by
  induction h with
  | nil => rfl
  | @cons m m' _ _ hm _ ih =>
    obtain ⟨k, v⟩ := m
    obtain ⟨k', v'⟩ := m'
    obtain ⟨rfl, hv⟩ : k = k' ∧ (ofJson v).value? = some v' := hm
    rw [List.lookup_cons, List.lookup_cons]
    split
    · exact hv.symm
    · exact ih

/-- Members with keys that differ from each other and from those read so far are all added. -/
theorem members?_ofMembers_of_nodup {done : List (String × Json)}
    (h : ((done ++ ms).map Prod.fst).Nodup) :
    ∃ kept read, List.Forall₂ ReadsAs ms kept ∧ members? (ofMembers ms) done = some read ∧
      read.Perm (done ++ kept) := by
  induction ms generalizing done with
  | nil => exact ⟨[], done, .nil, rfl, by rw [List.append_nil]⟩
  | cons m ms ih =>
    obtain ⟨key, x⟩ := m
    obtain ⟨v, hv⟩ := exists_value?_ofJson x
    rw [(List.perm_middle.map _).nodup_iff, List.map_cons, List.nodup_cons] at h
    have hput : (Json.putMember key v done).Perm ((key, v) :: done) := by
      refine Json.perm_putMember fun hmem ↦ h.1 ?_
      rw [List.map_append]
      exact List.mem_append_left _ hmem
    have hkeys : ((Json.putMember key v done ++ ms).map Prod.fst).Nodup := by
      rw [((hput.append_right ms).map _).nodup_iff]
      exact List.nodup_cons.2 h
    obtain ⟨kept, read, hkept, hread, hperm⟩ := ih hkeys
    refine ⟨(key, v) :: kept, read, .cons ⟨rfl, hv⟩ hkept, ?_, ?_⟩
    · rw [ofMembers, members?, hv, Option.bind_eq_bind, Option.bind_some, hread]
    · exact (hperm.trans (hput.append_right kept)).trans List.perm_middle.symm

/-- **An object whose keys differ is read with all its members**, whatever their order. -/
theorem value?_ofJson_obj (h : (ms.map Prod.fst).Nodup) :
    ∃ kept read, List.Forall₂ ReadsAs ms kept ∧ (ofJson (.obj ms)).value? = some (.obj read) ∧
      read.Perm kept := by
  obtain ⟨kept, read, hkept, hread, hperm⟩ :=
    members?_ofMembers_of_nodup ((List.nil_append ms).symm ▸ h)
  exact ⟨kept, read, hkept, by rw [ofJson, value?, hread, Option.map_some], hperm⟩

end ReadsAs

/-! ### Changed drafts -/

/-- A member is the same as before, or one of those called `keys` and changed. -/
def MemberAltered (keys : List String) (change : String → Draft → Draft → Prop)
    (before after : Option String × Draft) : Prop :=
  before.1 = after.1 ∧ (before.2 = after.2 ∨
    ∃ key ∈ keys, before.1 = some key ∧ change key before.2 after.2)

/-- A record is the same as before but for changes in its members, which are given by key, or by
position in the order of `keys`. -/
inductive Altered (keys : List String) (change : String → Draft → Draft → Prop) :
    Draft → Draft → Prop
  | object {ms ms' : List (Option String × Draft)}
    (h : List.Forall₂ (MemberAltered keys change) ms ms') : Altered keys change (.obj ms) (.obj ms')
  | array {xs xs' : List Draft} (hlength : xs.length = xs'.length)
    (h : List.Forall₂ (MemberAltered keys change) ((keys.map some).zip xs)
      ((keys.map some).zip xs')) : Altered keys change (.arr xs) (.arr xs')

/-- An array is the same as before but for changes in its items. -/
def ItemsAltered (change : Draft → Draft → Prop) : Draft → Draft → Prop
  | .arr xs, .arr xs' => List.Forall₂ change xs xs'
  | _, _ => False

theorem itemsAltered_iff {change : Draft → Draft → Prop} {x x' : Draft} :
    x.ItemsAltered change x' ↔
      ∃ xs xs', x = .arr xs ∧ x' = .arr xs' ∧ List.Forall₂ change xs xs' := by
  cases x <;> cases x' <;> simp [ItemsAltered]

end Draft

/-! ### Reading again -/

namespace Reading

variable {α β σ : Type}

/-- Where the first reading gives a value, so does the second, and the values are related. -/
def Carries (S : α → α → Prop) (r r' : Reading α) : Prop :=
  ∀ a, r.value = some a → ∃ a', r'.value = some a' ∧ S a a'

variable {S : α → α → Prop} {T : β → β → Prop}

theorem carries_self {r : Reading α} (h : ∀ a, r.value = some a → S a a) : Carries S r r :=
  fun a ha ↦ ⟨a, ha, h a ha⟩

theorem carries_pure {a a' : α} (h : S a a') : Carries S (pure a) (pure a') := by
  rintro _ ⟨⟩
  exact ⟨a', rfl, h⟩

theorem value_bind (r : Reading α) (f : α → Reading β) :
    (r >>= f).value = r.value.bind fun a ↦ (f a).value := by
  show (bind r f).value = _
  rw [bind]
  cases r.value <;> rfl

theorem Carries.bind {r r' : Reading α} {f f' : α → Reading β} (h : Carries S r r')
    (hf : ∀ a a', S a a' → Carries T (f a) (f' a')) : Carries T (r >>= f) (r' >>= f') := by
  intro b hb
  rw [value_bind] at hb
  obtain ⟨a, ha, hfa⟩ := Option.bind_eq_some_iff.1 hb
  obtain ⟨a', ha', hS⟩ := h a ha
  obtain ⟨b', hb', hT⟩ := hf a a' hS b hfa
  exact ⟨b', by rw [value_bind, ha', Option.bind_some, hb'], hT⟩

theorem Carries.items {read : Draft → Reading α} {xs xs' : List Draft}
    (h : List.Forall₂ (fun x x' ↦ Carries S (read x) (read x')) xs xs') :
    Carries (List.Forall₂ S) (items read xs) (items read xs') := by
  induction h with
  | nil => exact carries_pure .nil
  | cons hx _ ih => exact hx.bind fun a a' ha ↦ ih.bind fun as as' has ↦ carries_pure (.cons ha has)

/-- What is left the same by changes in the items of an array is the same in the whole array. -/
theorem carries_map_array {f : α → β} {read : Draft → Reading α}
    {change : Draft → Draft → Prop}
    (hread : ∀ x x', change x x' → Carries (fun a a' ↦ f a = f a') (read x) (read x'))
    {x x' : Draft} (h : x = x' ∨ x.ItemsAltered change x') :
    Carries (fun as as' ↦ as.map f = as'.map f) (array read x) (array read x') := by
  rcases h with rfl | h
  · exact carries_self fun _ _ ↦ rfl
  · obtain ⟨xs, xs', rfl, rfl, hitems⟩ := Draft.itemsAltered_iff.1 h
    intro as has
    obtain ⟨as', has', hf⟩ := Carries.items (hitems.imp hread) as has
    have hmap : as.map f = as'.map f := by
      rwa [← List.forall₂_eq_eq_eq, List.forall₂_map_left_iff, List.forall₂_map_right_iff]
    exact ⟨as', has', hmap⟩

/-! ### Records -/

variable {R : σ → σ → Prop} {members : List (Member σ)} {change : String → Draft → Draft → Prop}

/-- What a reader sets keeps records related, also once its draft has changed. -/
def Member.Respects (R : σ → σ → Prop) (change : String → Draft → Draft → Prop) (m : Member σ) :
    Prop :=
  ∀ x x', x = x' ∨ change m.key x x' → Carries (Relator.LiftFun R R) (m.read x) (m.read x')

/-- A member that does not change needs to respect itself only. -/
theorem Member.Respects.optional {key : String} {read : Json → Option α}
    {set : Option α → σ → σ} (hchange : ∀ x x', ¬ change key x x')
    (hset : ∀ v s s', R s s' → R (set v s) (set v s')) :
    (Member.optional key read set).Respects R change := by
  rintro x x' (rfl | h)
  · refine carries_self fun f hf ↦ ?_
    obtain ⟨v, -, rfl⟩ := Option.map_eq_some_iff.1 hf
    exact fun s s' hs ↦ hset v s s' hs
  · exact absurd h (hchange x x')

theorem Carries.byKey (hm : ∀ m ∈ members, m.Respects R change)
    {ms ms' : List (Option String × Draft)}
    (h : List.Forall₂ (Draft.MemberAltered (members.map (·.key)) change) ms ms')
    (seen : List String) {s s' : σ} (hs : R s s') :
    Carries R (byKey members seen s ms) (byKey members seen s' ms') := by
  induction h generalizing seen s s' with
  | nil => exact carries_pure hs
  | @cons p p' _ _ hp _ ih =>
    obtain ⟨name, x⟩ := p
    obtain ⟨name', x'⟩ := p'
    obtain ⟨hname, hx⟩ := hp
    obtain rfl : name = name' := hname
    cases name with
    | none =>
      rintro _ ⟨⟩
    | some key =>
      rw [Reading.byKey, Reading.byKey]
      cases hfind : members.find? (·.key == key) with
      | none =>
        -- an unknown key is none of those that may change
        obtain rfl : x = x' := hx.resolve_right fun ⟨key', hmem, heq, _⟩ ↦ by
          obtain ⟨m, hm, hkey⟩ := List.mem_map.1 hmem
          obtain rfl := Option.some.inj heq
          exact List.find?_eq_none.1 hfind m hm (beq_iff_eq.2 hkey)
        dsimp only
        split
        · exact ih seen hs
        · rintro _ ⟨⟩
      | some m =>
        have hbeq := List.find?_some hfind
        have hkey : m.key = key := beq_iff_eq.1 hbeq
        have hread : Carries (Relator.LiftFun R R) (m.read x) (m.read x') := by
          refine hm m (List.mem_of_find?_eq_some hfind) x x' (hx.imp_right ?_)
          rintro ⟨key', -, heq, hchange⟩
          obtain rfl := Option.some.inj heq
          rwa [hkey]
        dsimp only
        split
        · rintro _ ⟨⟩
        · exact hread.bind fun set set' hset ↦ ih _ (hset hs)

theorem Carries.byPosition {keys : List String} (hm : ∀ m ∈ members, m.Respects R change)
    {xs xs' : List Draft} (hlength : xs.length = xs'.length)
    (h : List.Forall₂ (Draft.MemberAltered keys change) (((members.map (·.key)).map some).zip xs)
      (((members.map (·.key)).map some).zip xs')) {s s' : σ} (hs : R s s') :
    Carries R (byPosition members s xs) (byPosition members s' xs') := by
  induction members generalizing xs xs' s s' with
  | nil =>
    cases xs with
    | nil =>
      obtain rfl := List.length_eq_zero_iff.1 hlength.symm
      exact carries_pure hs
    | cons x xs =>
      rintro _ ⟨⟩
  | cons m members ih =>
    cases xs with
    | nil =>
      obtain rfl := List.length_eq_zero_iff.1 hlength.symm
      exact carries_pure hs
    | cons x xs =>
      obtain ⟨x', xs', rfl⟩ := List.exists_cons_of_length_eq_add_one hlength.symm
      obtain ⟨⟨-, hx⟩, hrest⟩ := List.forall₂_cons.1 h
      have hread : Carries (Relator.LiftFun R R) (m.read x) (m.read x') := by
        refine hm m List.mem_cons_self x x' (hx.imp_right ?_)
        rintro ⟨key, -, heq, hchange⟩
        obtain rfl := Option.some.inj heq
        exact hchange
      exact hread.bind fun set set' hset ↦
        ih (fun m hm' ↦ hm m (List.mem_cons_of_mem _ hm')) (Nat.succ.inj hlength) hrest (hset hs)

/-- **A record whose members respect a change is read after it if it was before**, and the two
readings are related. -/
theorem Carries.record (hm : ∀ m ∈ members, m.Respects R change) {d d' : Draft}
    (h : Draft.Altered (members.map (·.key)) change d d') {s s' : σ} (hs : R s s') :
    Carries R (record members s d) (record members s' d') := by
  cases h with
  | object h => exact Carries.byKey hm h [] hs
  | array hlength h => exact Carries.byPosition hm hlength h hs

end Reading

end MediaTelemetry
