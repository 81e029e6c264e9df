import MediaTelemetry.Fragment.Basic
import MediaTelemetry.Proofs.Dictionaries

/-!
# The grammar of fragments

Seven types of fragments are read in full: `Fragment.Kind` lists them with their tags and tables.
`Fragment.Spells` tells, without the reader, which fragment the members of an object are, and
`Fragment.ofJson?_obj` shows that the reader accepts just the objects that are fragments. Since only
known members are looked up, others can come and go, and the order does not matter.
-/

namespace MediaTelemetry

namespace Fragment

/-! ### Types of fragments -/

/-- The types that are read in full: tag, table, and the fragment made of a dictionary. -/
inductive Kind : String → {σ : Type} → Dictionary σ → (σ → Fragment) → Prop
  | outboundRtp : Kind "outbound-rtp" OutboundRtp.dictionary outboundRtp
  | inboundRtp : Kind "inbound-rtp" InboundRtp.dictionary inboundRtp
  | remoteInboundRtp : Kind "remote-inbound-rtp" RemoteInboundRtp.dictionary remoteInboundRtp
  | remoteOutboundRtp : Kind "remote-outbound-rtp" RemoteOutboundRtp.dictionary remoteOutboundRtp
  | mediaSource : Kind "media-source" MediaSource.dictionary mediaSource
  | candidatePair : Kind "candidate-pair" CandidatePair.dictionary candidatePair
  | localCandidate : Kind "local-candidate" LocalCandidate.dictionary localCandidate

/-- The tag is that of a type that is read in full. -/
def IsKnownTag (tag : String) : Prop :=
  tag ∈ ["outbound-rtp", "inbound-rtp", "remote-inbound-rtp", "remote-outbound-rtp", "media-source",
    "candidate-pair", "local-candidate"]

section Kind

variable {tag : String} {σ : Type} {d : Dictionary σ} {make : σ → Fragment}

/-- Every table is lawful. -/
theorem Kind.lawful (h : Kind tag d make) : d.Lawful := by
  cases h
  all_goals
    refine ⟨by decide, fun id ↦ ?_, ?_, fun id value ↦ rfl, fun id value ↦ ?_, fun s ↦ rfl⟩
    all_goals simp [Column.Fresh, Dictionary.build, OutboundRtp.dictionary, InboundRtp.dictionary,
      RemoteInboundRtp.dictionary, RemoteOutboundRtp.dictionary, MediaSource.dictionary,
      CandidatePair.dictionary, LocalCandidate.dictionary]

theorem Kind.variant?_eq (h : Kind tag d make) : variant? tag = some (.of tag d make) := by
  cases h <;> rfl

theorem Kind.toJson_eq (h : Kind tag d make) (s : σ) :
    (make s).toJson = tagged tag (d.members s) := by
  cases h <;> rfl

end Kind

theorem exists_kind {tag : String} (h : IsKnownTag tag) :
    ∃ (σ : Type) (d : Dictionary σ) (make : σ → Fragment), Kind tag d make := by
  simp only [IsKnownTag, List.mem_cons, List.not_mem_nil, or_false] at h
  rcases h with rfl | rfl | rfl | rfl | rfl | rfl | rfl
  · exact ⟨_, _, _, .outboundRtp⟩
  · exact ⟨_, _, _, .inboundRtp⟩
  · exact ⟨_, _, _, .remoteInboundRtp⟩
  · exact ⟨_, _, _, .remoteOutboundRtp⟩
  · exact ⟨_, _, _, .mediaSource⟩
  · exact ⟨_, _, _, .candidatePair⟩
  · exact ⟨_, _, _, .localCandidate⟩

theorem variant?_eq_none {tag : String} (h : ¬ IsKnownTag tag) : variant? tag = none := by
  refine List.find?_eq_none.2 fun v hv htag ↦ h ?_
  obtain rfl : v.tag = tag := beq_iff_eq.1 htag
  exact List.mem_map_of_mem (f := Variant.tag) hv

/-! ### What objects say -/

/-- The fragment is what the members found by key say. -/
inductive Spells (find : String → Option Json) : Fragment → Prop
  | known {tag : String} {σ : Type} {d : Dictionary σ} {make : σ → Fragment} {s : σ}
      (kind : Kind tag d make) (type : find "type" = some (.str tag))
      (members : d.Describes find s) : Spells find (make s)
  | other {tag : String} (unknown : ¬ IsKnownTag tag) (type : find "type" = some (.str tag)) :
      Spells find other

/-- The members found by key are those of a fragment: the type is a text and either unknown, or all
members of that type are well-formed. -/
def Accepts (find : String → Option Json) : Prop :=
  ∃ tag, find "type" = some (.str tag) ∧ (¬ IsKnownTag tag ∨
    ∃ (σ : Type) (d : Dictionary σ) (make : σ → Fragment), Kind tag d make ∧ d.Accepts find)

/-- The key matters to fragments of the type. -/
def IsKnownKey (type? : Option Json) (key : String) : Prop :=
  key = "type" ∨ ∃ (tag : String) (σ : Type) (d : Dictionary σ) (make : σ → Fragment),
    type? = some (.str tag) ∧ Kind tag d make ∧ key ∈ d.keys

section Spells

variable {find find' : String → Option Json} {f : Fragment}

theorem exists_spells_iff : (∃ f, Spells find f) ↔ Accepts find := by
  constructor
  · rintro ⟨f, h⟩
    cases h with
    | known kind type members =>
      exact ⟨_, type, .inr ⟨_, _, _, kind,
        (Dictionary.exists_describes_iff kind.lawful).1 ⟨_, members⟩⟩⟩
    | other unknown type => exact ⟨_, type, .inl unknown⟩
  · rintro ⟨tag, type, unknown | ⟨σ, d, make, kind, haccepts⟩⟩
    · exact ⟨_, .other unknown type⟩
    · obtain ⟨s, members⟩ := (Dictionary.exists_describes_iff kind.lawful).2 haccepts
      exact ⟨_, .known kind type members⟩

theorem Spells.congr (h : Spells find f)
    (hfind : ∀ key, IsKnownKey (find "type") key → find key = find' key) : Spells find' f := by
  have htype := hfind "type" (.inl rfl)
  cases h with
  | known kind type members =>
    exact .known kind (htype.symm.trans type) <| members.congr fun key hkey ↦
      hfind key (.inr ⟨_, _, _, _, type, kind, hkey⟩)
  | other unknown type => exact .other unknown (htype.symm.trans type)

end Spells

/-! ### The reader -/

theorem ofJson?_obj_of_kind {tag : String} {σ : Type} {d : Dictionary σ} {make : σ → Fragment}
    (kind : Kind tag d make) {ms : List (String × Json)}
    (type : ms.lookup "type" = some (.str tag)) :
    ofJson? (.obj ms) = (d.read (ms.lookup ·)).map make := by
  simp only [ofJson?, type, kind.variant?_eq, Variant.of]

theorem ofJson?_obj_of_unknown {tag : String} (unknown : ¬ IsKnownTag tag)
    {ms : List (String × Json)} (type : ms.lookup "type" = some (.str tag)) :
    ofJson? (.obj ms) = some other := by
  simp only [ofJson?, type, variant?_eq_none unknown]

theorem ofJson?_obj_eq_some_iff {ms : List (String × Json)} {f : Fragment} :
    ofJson? (.obj ms) = some f ↔ Spells (ms.lookup ·) f := by
  constructor
  · intro h
    obtain ⟨tag, type⟩ : ∃ tag, ms.lookup "type" = some (.str tag) := by
      rw [ofJson?] at h
      split at h
      · exact ⟨_, ‹_›⟩
      · cases h
    by_cases hknown : IsKnownTag tag
    · obtain ⟨σ, d, make, kind⟩ := exists_kind hknown
      rw [ofJson?_obj_of_kind kind type] at h
      obtain ⟨s, hs, rfl⟩ := Option.map_eq_some_iff.1 h
      exact .known kind type ((Dictionary.read_eq_some_iff kind.lawful).1 hs)
    · rw [ofJson?_obj_of_unknown hknown type] at h
      obtain rfl := Option.some.inj h
      exact .other hknown type
  · intro h
    cases h with
    | known kind type members =>
      rw [ofJson?_obj_of_kind kind type, (Dictionary.read_eq_some_iff kind.lawful).2 members,
        Option.map_some]
    | other unknown type => exact ofJson?_obj_of_unknown unknown type

section Lookup

variable {ms ms' : List (String × Json)}

theorem mem_of_lookup_eq_some {key : String} {v : Json} (h : ms.lookup key = some v) :
    (key, v) ∈ ms := by
  obtain ⟨l₁, l₂, rfl, -⟩ := List.lookup_eq_some_iff.1 h
  exact List.mem_append_right _ List.mem_cons_self

theorem lookup_eq_some_iff_mem (hnodup : (ms.map Prod.fst).Nodup) {key : String} {v : Json} :
    ms.lookup key = some v ↔ (key, v) ∈ ms := by
  refine ⟨mem_of_lookup_eq_some, fun hmem ↦ ?_⟩
  obtain ⟨l₁, l₂, rfl⟩ := List.append_of_mem hmem
  refine List.lookup_eq_some_iff.2 ⟨l₁, l₂, rfl, fun p hp ↦ bne_iff_ne.2 ?_⟩
  rw [List.map_append, List.map_cons] at hnodup
  have hkeys := (List.nodup_append.1 hnodup).2.2
  exact (hkeys _ (List.mem_map_of_mem hp) _ List.mem_cons_self).symm

theorem lookup_eq_of_perm (hperm : ms'.Perm ms) (hnodup : (ms.map Prod.fst).Nodup) (key : String) :
    ms'.lookup key = ms.lookup key := by
  have hnodup' : (ms'.map Prod.fst).Nodup := (hperm.map _).nodup_iff.2 hnodup
  refine Option.ext fun v ↦ ?_
  rw [lookup_eq_some_iff_mem hnodup', lookup_eq_some_iff_mem hnodup, hperm.mem_iff]

theorem lookup_insert_of_ne {key key' : String} (hne : key' ≠ key) (v : Json) :
    (ms ++ (key, v) :: ms').lookup key' = (ms ++ ms').lookup key' := by
  rw [List.lookup_append, List.lookup_append, List.lookup_cons, beq_eq_false_iff_ne.2 hne]

/-- Objects with the same known members are the same fragments. -/
theorem ofJson?_congr (h : ∀ key, IsKnownKey (ms.lookup "type") key →
    ms.lookup key = ms'.lookup key) : ofJson? (.obj ms) = ofJson? (.obj ms') := by
  have htype := h "type" (.inl rfl)
  refine Option.ext fun f ↦ ?_
  rw [ofJson?_obj_eq_some_iff, ofJson?_obj_eq_some_iff]
  exact ⟨fun hf ↦ hf.congr h, fun hf ↦ hf.congr fun key hkey ↦ (h key (htype ▸ hkey)).symm⟩

end Lookup

/-- **The reader accepts just the objects that are fragments.** What it reads of an object is the
fragment that its members describe, if they describe one: if the type is a text, and either not
known, whatever else there is, or one of those that are read in full, the identifier is missing or a
text, and each other member of the type is missing, `null`, or of its declared type. Neither the
order of members matters, nor are members looked at that are not known to the type. -/
theorem ofJson?_obj (ms : List (String × Json)) :
    (∀ f, ofJson? (.obj ms) = some f ↔ Spells (ms.lookup ·) f) ∧
      ((∃ f, ofJson? (.obj ms) = some f) ↔ Accepts (ms.lookup ·)) ∧
      (∀ ms', ms'.Perm ms → (ms.map Prod.fst).Nodup → ofJson? (.obj ms') = ofJson? (.obj ms)) ∧
      ∀ ms₁ ms₂ key v, ms = ms₁ ++ ms₂ → ¬ IsKnownKey (ms.lookup "type") key →
        ofJson? (.obj (ms₁ ++ (key, v) :: ms₂)) = ofJson? (.obj ms) := by
  refine ⟨fun f ↦ ofJson?_obj_eq_some_iff, ?_, fun ms' hperm hnodup ↦ ?_, ?_⟩
  · simp only [ofJson?_obj_eq_some_iff]
    exact exists_spells_iff
  · exact (ofJson?_congr fun key _ ↦ (lookup_eq_of_perm hperm hnodup key).symm).symm
  · rintro ms₁ ms₂ key v rfl hunknown
    refine (ofJson?_congr fun key' hkey' ↦ (lookup_insert_of_ne ?_ v).symm).symm
    rintro rfl
    exact hunknown hkey'

/-- A received stream with duplicates, its members reordered and one added that streams do not have.
With a counter that is not whole, nothing is read. -/
theorem ofJson?_received_stream :
    let ms : List (String × Json) := [("type", .str "inbound-rtp"), ("id", .str "a"),
      ("kind", .null), ("packetsLost", .int (-3))]
    ofJson? (.obj (ms.reverse ++ [("codec", .arr [])])) =
        some (.inboundRtp { id := "a", packetsLost := some (-3) }) ∧
      ¬ Accepts (fun key ↦ (("packetsReceived", Json.num (.double 1.0)) :: ms).lookup key) := by
  intro ms
  have hread : ofJson? (.obj ms) = some (.inboundRtp { id := "a", packetsLost := some (-3) }) := rfl
  obtain ⟨-, -, hreorder, -⟩ := ofJson?_obj ms
  obtain ⟨-, -, -, hinsert⟩ := ofJson?_obj ms.reverse
  obtain ⟨-, haccepts, -⟩ := ofJson?_obj (("packetsReceived", .num (.double 1.0)) :: ms)
  have hunknown : ¬ IsKnownKey (ms.reverse.lookup "type") "codec" := by
    rintro (hkey | ⟨tag, σ, d, make, -, kind, hkey⟩)
    · exact absurd hkey (by decide)
    · cases kind <;> exact absurd hkey (by decide)
  refine ⟨?_, fun h ↦ ?_⟩
  · rw [hinsert ms.reverse [] "codec" (.arr []) (List.append_nil _).symm hunknown,
      hreorder _ (List.reverse_perm ms) (by decide), hread]
  · obtain ⟨f, hf⟩ := haccepts.2 h
    have hnone : ofJson? (.obj (("packetsReceived", .num (.double 1.0)) :: ms)) = none := rfl
    cases hnone.symm.trans hf

end Fragment

end MediaTelemetry
