import MediaTelemetry.Proofs.Grammar
import MediaTelemetry.Proofs.WholeDoubles

/-!
# Writing fragments and reading them back

A fragment that is written and read again is the same, provided that its doubles are finite
(`Fragment.reads_back`): the others have no place in JSON and are written as `null`. What was read
has finite doubles only, because the numbers of JSON values are finite, whole numbers included.
-/

namespace MediaTelemetry

/-! ### Proper values -/

/-- All numbers are such as JSON values hold: whole numbers of 64 bits and finite doubles. -/
inductive Json.IsProper : Json → Prop
  | null : IsProper .null
  | bool (b : Bool) : IsProper (.bool b)
  | str (s : String) : IsProper (.str s)
  | whole {n : Int} (hlow : -2 ^ 63 ≤ n) (hhigh : n < 2 ^ 64) : IsProper (.num (.whole n))
  | double {x : Float} (h : x.isFinite = true) : IsProper (.num (.double x))
  | arr {items : List Json} (h : ∀ v ∈ items, IsProper v) : IsProper (.arr items)
  | obj {ms : List (String × Json)} (h : ∀ m ∈ ms, IsProper m.2) : IsProper (.obj ms)

theorem Json.IsProper.isFinite {n : Number} (h : IsProper (.num n)) :
    n.toFloat.isFinite = true := by
  cases h with
  | whole hlow hhigh => exact Double.isFinite_ofInt (by omega) hhigh
  | double h => exact h

/-! ### Values and members -/

namespace Scalar

/-- A value that JSON has a place for. -/
def IsFinite : (k : Scalar) → k.Value → Prop
  | .number, x => x.isFinite = true
  | _, _ => True

theorem holds_write_iff {k : Scalar} {x : k.Value} : k.Holds (k.write x) x ↔ k.IsFinite x := by
  cases k with
  | number =>
    show (∃ n, Json.float x = .num n ∧ n.toFloat = x) ↔ x.isFinite = true
    rw [Json.float]
    split
    · rename_i hfinite
      exact iff_of_true ⟨_, rfl, rfl⟩ hfinite
    · rename_i hinfinite
      exact iff_of_false (by simp) hinfinite
  | _ => exact iff_of_true rfl trivial

theorem Holds.isFinite {k : Scalar} {v : Json} {x : k.Value} (h : k.Holds v x) (hv : v.IsProper) :
    k.IsFinite x := by
  cases k with
  | number =>
    obtain ⟨n, rfl, rfl⟩ := h
    exact hv.isFinite
  | _ => trivial

end Scalar

namespace Dictionary

variable {σ : Type}

/-- All doubles of the dictionary are finite. -/
def IsFinite (d : Dictionary σ) (s : σ) : Prop :=
  ∀ c ∈ d.columns, ∀ x, c.get s = some x → c.scalar.IsFinite x

theorem given_write_iff {c : Column σ} {s : σ} :
    c.scalar.Given (some (c.write s)) (c.get s) ↔ ∀ x, c.get s = some x → c.scalar.IsFinite x := by
  rw [Column.write]
  cases c.get s with
  | none => exact iff_of_true .null (by simp)
  | some x =>
    constructor
    · rintro h y hy
      obtain rfl := Option.some.inj hy
      exact Scalar.holds_write_iff.1 h.holds
    · intro h
      exact .value (Scalar.holds_write_iff.2 (h x rfl))

variable {d : Dictionary σ} {s : σ}

/-- Each member is found under its key. -/
theorem lookup_members (h : d.Lawful) (tag : String) :
    let ms := ("type", Json.str tag) :: d.members s
    ms.lookup "id" = some (.str (d.getId s)) ∧
      ∀ c ∈ d.columns, ms.lookup c.key = some (c.write s) := by
  intro ms
  have hkeys : ms.map Prod.fst = "type" :: d.keys := by
    simp [ms, members, keys, List.map_map, Function.comp_def]
  have hnodup : (ms.map Prod.fst).Nodup := hkeys ▸ h.keys
  refine ⟨(Fragment.lookup_eq_some_iff_mem hnodup).2 ?_, fun c hc ↦
    (Fragment.lookup_eq_some_iff_mem hnodup).2 ?_⟩
  · exact List.mem_cons_of_mem _ List.mem_cons_self
  · exact List.mem_cons_of_mem _ (List.mem_cons_of_mem _ (List.mem_map_of_mem hc))

/-- A dictionary that was written is described by its members if its doubles are finite. -/
theorem describes_members_iff (h : d.Lawful) (tag : String) :
    d.Describes ((("type", Json.str tag) :: d.members s).lookup ·) s ↔ d.IsFinite s := by
  obtain ⟨hid, hmembers⟩ := lookup_members (s := s) h tag
  constructor
  · intro hdescribes c hc
    have hgiven := hdescribes.members c hc
    rw [hmembers c hc] at hgiven
    exact given_write_iff.1 hgiven
  · intro hfinite
    refine ⟨?_, fun c hc ↦ ?_⟩
    · rw [hid]
      rfl
    · rw [hmembers c hc]
      exact given_write_iff.2 (hfinite c hc)

/-- What is read from proper values is finite. -/
theorem Describes.isFinite {find : String → Option Json} (h : d.Describes find s)
    (hfind : ∀ key v, find key = some v → v.IsProper) : d.IsFinite s := by
  intro c hc x hx
  have hgiven := h.members c hc
  rw [hx] at hgiven
  cases hfound : find c.key with
  | none =>
    rw [hfound] at hgiven
    cases hgiven
  | some v =>
    rw [hfound] at hgiven
    exact hgiven.holds.isFinite (hfind c.key v hfound)

end Dictionary

/-! ### Fragments -/

namespace Fragment

/-- All doubles of the fragment are finite. -/
def IsFinite : Fragment → Prop
  | outboundRtp s => OutboundRtp.dictionary.IsFinite s
  | inboundRtp s => InboundRtp.dictionary.IsFinite s
  | remoteInboundRtp s => RemoteInboundRtp.dictionary.IsFinite s
  | remoteOutboundRtp s => RemoteOutboundRtp.dictionary.IsFinite s
  | mediaSource s => MediaSource.dictionary.IsFinite s
  | candidatePair s => CandidatePair.dictionary.IsFinite s
  | localCandidate s => LocalCandidate.dictionary.IsFinite s
  | other => True

section Kind

variable {tag : String} {σ : Type} {d : Dictionary σ} {make : σ → Fragment}

theorem Kind.isFinite_iff (kind : Kind tag d make) (s : σ) :
    (make s).IsFinite ↔ d.IsFinite s := by
  cases kind <;> rfl

theorem Kind.injective (kind : Kind tag d make) : Function.Injective make := by
  cases kind <;> (rintro s s' ⟨⟩; rfl)

theorem Kind.ofJson?_toJson_iff (kind : Kind tag d make) (s : σ) :
    ofJson? (make s).toJson = some (make s) ↔ (make s).IsFinite := by
  rw [kind.toJson_eq, kind.isFinite_iff, tagged, ofJson?_obj_of_kind kind List.lookup_cons_self,
    ← Option.map_some, (Option.map_injective kind.injective).eq_iff,
    Dictionary.read_eq_some_iff kind.lawful, Dictionary.describes_members_iff kind.lawful]

end Kind

theorem eq_other_or (f : Fragment) : f = other ∨ ∃ (tag : String) (σ : Type) (d : Dictionary σ)
    (make : σ → Fragment) (s : σ), Kind tag d make ∧ f = make s := by
  cases f with
  | outboundRtp s => exact .inr ⟨_, _, _, _, s, .outboundRtp, rfl⟩
  | inboundRtp s => exact .inr ⟨_, _, _, _, s, .inboundRtp, rfl⟩
  | remoteInboundRtp s => exact .inr ⟨_, _, _, _, s, .remoteInboundRtp, rfl⟩
  | remoteOutboundRtp s => exact .inr ⟨_, _, _, _, s, .remoteOutboundRtp, rfl⟩
  | mediaSource s => exact .inr ⟨_, _, _, _, s, .mediaSource, rfl⟩
  | candidatePair s => exact .inr ⟨_, _, _, _, s, .candidatePair, rfl⟩
  | localCandidate s => exact .inr ⟨_, _, _, _, s, .localCandidate, rfl⟩
  | other => exact .inl rfl

/-- Entries may also be written as arrays. -/
theorem isFinite_of_ofJson?_arr {items : List Json} {f : Fragment}
    (hproper : ∀ v ∈ items, v.IsProper) (h : ofJson? (.arr items) = some f) : f.IsFinite := by
  obtain ⟨tag, members, rfl⟩ : ∃ tag members, items = .str tag :: members := by
    rw [ofJson?.eq_def] at h
    split at h
    · cases ‹_ = Json.obj _›
    · cases ‹_ = Json.arr _›
      exact ⟨_, _, rfl⟩
    · cases h
  by_cases hknown : IsKnownTag tag
  · obtain ⟨σ, d, make, kind⟩ := exists_kind hknown
    simp only [ofJson?, kind.variant?_eq, Variant.of, Dictionary.readItems] at h
    obtain ⟨s, hs, rfl⟩ := Option.map_eq_some_iff.1 h
    split at hs
    · cases hs
    · refine (kind.isFinite_iff s).2 <|
        ((Dictionary.read_eq_some_iff kind.lawful).1 hs).isFinite fun key v hfound ↦ ?_
      have hmem : (key, v) ∈ d.keys.zip members := mem_of_lookup_eq_some hfound
      exact hproper v (List.mem_cons_of_mem _ (List.of_mem_zip hmem).2)
  · simp only [ofJson?, variant?_eq_none hknown] at h
    split at h
    · obtain rfl := Option.some.inj h
      trivial
    · cases h

/-- What is read from a proper value has finite doubles. -/
theorem isFinite_of_ofJson? {v : Json} {f : Fragment} (hv : v.IsProper) (h : ofJson? v = some f) :
    f.IsFinite := by
  cases hv with
  | obj hproper =>
    rename_i ms
    have hlookup : ∀ key v, ms.lookup key = some v → v.IsProper := fun key v hfound ↦
      hproper (key, v) (mem_of_lookup_eq_some hfound)
    cases ofJson?_obj_eq_some_iff.1 h with
    | known kind type members => exact (kind.isFinite_iff _).2 (members.isFinite hlookup)
    | other => trivial
  | arr hproper => exact isFinite_of_ofJson?_arr hproper h
  | _ => cases h

theorem ofJson?_toJson_iff (f : Fragment) : ofJson? f.toJson = some f ↔ f.IsFinite := by
  rcases eq_other_or f with rfl | ⟨tag, σ, d, make, s, kind, rfl⟩
  · exact iff_of_true rfl trivial
  · exact kind.ofJson?_toJson_iff s

/-- **A fragment that is written is read back the same**, if and only if its doubles are finite.
Those of what was read from a proper value are, so that writing it and reading it again changes
nothing. -/
theorem reads_back :
    (∀ f : Fragment, ofJson? f.toJson = some f ↔ f.IsFinite) ∧
      ∀ (v : Json) (f : Fragment), v.IsProper → ofJson? v = some f → ofJson? f.toJson = some f :=
  ⟨ofJson?_toJson_iff, fun _ f hv h ↦ (ofJson?_toJson_iff f).2 (isFinite_of_ofJson? hv h)⟩

/-- An entry with a whole number for a double, a `null` and a member that is not known is not
written as it was, but read back the same. -/
theorem reads_back_remote_report :
    let v : Json := .obj [("type", .str "remote-inbound-rtp"), ("packetsLost", .int (-2)),
      ("roundTripTime", .nat 1), ("jitter", .null), ("codec", .arr [])]
    let f : Fragment :=
      .remoteInboundRtp { packetsLost := some (-2), roundTripTime := some (Float.ofInt 1) }
    v.IsProper ∧ ofJson? v = some f ∧ ofJson? f.toJson = some f := by
  intro v f
  have hv : v.IsProper := by
    refine .obj fun m hm ↦ ?_
    simp only [List.mem_cons, List.not_mem_nil, or_false] at hm
    rcases hm with rfl | rfl | rfl | rfl | rfl
    · exact .str _
    · exact .whole (by decide) (by decide)
    · exact .whole (by decide) (by decide)
    · exact .null
    · exact .arr (by simp)
  have hf : ofJson? v = some f := rfl
  exact ⟨hv, hf, reads_back.2 v f hv hf⟩

end Fragment

end MediaTelemetry
