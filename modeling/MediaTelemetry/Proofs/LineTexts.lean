import MediaTelemetry.Ledger.Json
import MediaTelemetry.Proofs.Grammar
import MediaTelemetry.Proofs.KeyMap
import MediaTelemetry.Proofs.Reading

/-!
# Lines told apart by their texts

Different lines have different texts (`Line.text_injective`). A text is read as words between
hyphens, none of which holds a hyphen itself, so the text gives its words back. Among these, the
first that names a direction ends the name of the medium, and an index that is not written is zero.

A ledger is written by these texts, so it has a member for each line (`Ledger.one_member_per_line`),
also once it has been read again by a reader to whom the later of two members with one key stands.
-/

namespace MediaTelemetry

/-! ### Words of a text -/

/-- The words of the written name. -/
def Medium.words : Medium → List String
  | .audio => ["audio"]
  | .video => ["video"]
  | .shareAudio => ["audio", "share"]
  | .shareVideo => ["video", "share"]

theorem Medium.text_eq (m : Medium) : m.text = "-".intercalate m.words := by
  cases m <;> rfl

theorem Medium.words_injective : Function.Injective Medium.words := by
  intro m m' h
  cases m <;> cases m' <;> simp_all [words]

/-- The word names a direction. -/
def Direction.isNamedBy (word : String) : Bool :=
  word == Direction.send.text || word == Direction.receive.text

theorem Direction.text_injective : Function.Injective Direction.text := by
  intro d d' h
  cases d <;> cases d' <;> simp_all [text]

namespace Line

/-- The index, where it is written. -/
def indexWords (l : Line) : List String :=
  if l.direction = .send ∧ l.index = 0 then [] else [toString l.index]

/-- The words of the written name. -/
def words (l : Line) : List String := l.medium.words ++ l.direction.text :: l.indexWords

theorem text_eq (l : Line) : l.text = "-".intercalate l.words := by
  have hmedium : l.medium.words ≠ [] := by cases l.medium <;> decide
  rw [words, String.intercalate_append_of_ne_nil hmedium (List.cons_ne_nil _ _), ← Medium.text_eq,
    text, indexWords]
  split
  · rename_i h
    rw [h.1, String.intercalate_singleton, String.append_assoc]
    rfl
  · rw [String.intercalate_cons_cons, String.intercalate_singleton]
    simp only [String.append_assoc]

theorem not_mem_of_mem_words {l : Line} {word : String} (h : word ∈ l.words) :
    '-' ∉ word.toList := by
  rw [words, List.mem_append, List.mem_cons] at h
  rcases h with hmedium | rfl | hindex
  · revert hmedium
    cases l.medium <;> revert word <;> decide
  · cases l.direction <;> decide
  · rw [indexWords] at hindex
    split at hindex
    · exact absurd hindex List.not_mem_nil
    · obtain rfl := List.mem_singleton.1 hindex
      rw [Nat.toString_eq_ofList_toDigits, String.toList_ofList]
      intro hdigit
      exact absurd (Nat.isDigit_of_mem_toDigits (by decide) (by decide) hdigit) (by decide)

/-- The words are what stands between the hyphens of the text. -/
theorem splitOn_text (l : Line) : l.text.toList.splitOn '-' = l.words.map String.toList := by
  rw [text_eq, String.toList_intercalate]
  refine List.splitOn_intercalate '-' (fun cs hcs ↦ ?_) (by simp [words])
  obtain ⟨word, hword, rfl⟩ := List.mem_map.1 hcs
  exact not_mem_of_mem_words hword

/-- The medium is named by the words before the first that names a direction. -/
theorem takeWhile_words (l : Line) :
    l.words.takeWhile (!Direction.isNamedBy ·) = l.medium.words := by
  have hmedium : ∀ word ∈ l.medium.words, (!Direction.isNamedBy word) = true := by
    cases l.medium <;> decide
  have hdirection : Direction.isNamedBy l.direction.text = true := by
    cases l.direction <;> decide
  have hrest : (l.direction.text :: l.indexWords).takeWhile (!Direction.isNamedBy ·) = [] :=
    List.takeWhile_cons_of_neg (by simp [hdirection])
  rw [words, List.takeWhile_append_of_pos hmedium, hrest, List.append_nil]

/-- Two lines of one direction whose written indexes agree have the same index. -/
theorem index_eq_of_indexWords_eq {a b : Line} (hdirection : a.direction = b.direction)
    (h : a.indexWords = b.indexWords) : a.index = b.index := by
  rw [indexWords, indexWords, ← hdirection] at h
  split at h <;> split at h
  · rename_i ha hb
    rw [ha.2, hb.2]
  · cases h
  · cases h
  · exact Nat.repr_injective (List.singleton_inj.1 h)

theorem words_injective : Function.Injective words := by
  intro a b h
  have hmedium : a.medium = b.medium := by
    refine Medium.words_injective ?_
    rw [← takeWhile_words a, ← takeWhile_words b, h]
  rw [words, words, hmedium, List.append_cancel_left_eq, List.cons.injEq] at h
  have hdirection : a.direction = b.direction := Direction.text_injective h.1
  have hindex : a.index = b.index := index_eq_of_indexWords_eq hdirection h.2
  cases a
  cases b
  congr

/-- **Different lines have different texts.** -/
theorem text_injective : Function.Injective text := by
  intro a b h
  refine words_injective (List.map_injective_iff.2 (fun _ _ ↦ String.toList_injective) ?_)
  rw [← splitOn_text a, ← splitOn_text b, h]

end Line

/-! ### Ledgers by text -/

namespace Ledger

/-- The members tell of each line of the ledger and of nothing else: there is one for each line,
under its text, with what `value` makes of its entry. -/
structure ToldBy (ledger : Ledger) (value : Entry → Option Json) (members : List (String × Json)) :
    Prop where
  keys : (members.map Prod.fst).Perm (ledger.keys.map Line.text)
  nodup : (members.map Prod.fst).Nodup
  lookup (line : Line) : members.lookup line.text = (ledger.get? line).bind value

/-- The members of a written ledger. -/
def members (ledger : Ledger) : List (String × Json) :=
  ledger.entries.map fun e ↦ (e.1.text, e.2.toJson)

theorem toJson_eq (ledger : Ledger) : ledger.toJson = .obj [("results", .obj ledger.members)] := rfl

theorem keys_members (ledger : Ledger) :
    ledger.members.map Prod.fst = ledger.keys.map Line.text := by
  rw [members, KeyMap.keys, List.map_map, List.map_map]
  rfl

theorem lookup_members (ledger : Ledger) (line : Line) :
    ledger.members.lookup line.text = (ledger.get? line).map Entry.toJson := by
  rw [members, KeyMap.get?]
  induction ledger.entries with
  | nil => rfl
  | cons a rest ih =>
    obtain ⟨other, e⟩ := a
    rw [List.map_cons, List.lookup_cons, KeyMap.find?]
    by_cases h : other = line
    · subst h
      rw [if_pos Std.ReflOrd.compare_self, BEq.rfl]
      rfl
    · have htext : line.text ≠ other.text := fun heq ↦ h (Line.text_injective heq).symm
      rw [if_neg (mt Std.LawfulEqOrd.eq_of_compare h), beq_eq_false_iff_ne.2 htext, ih]

theorem toldBy_members (ledger : Ledger) : ledger.ToldBy (some ·.toJson) ledger.members := by
  refine ⟨.of_eq ledger.keys_members, ?_, fun line ↦ ?_⟩
  · rw [keys_members]
    exact ledger.nodup_keys.map Line.text_injective
  · rw [lookup_members, Option.map_eq_bind]
    rfl

/-- Reading puts the members in the order of their texts, and loses none. -/
theorem exists_toldBy_of_read (ledger : Ledger) : ∃ read,
    (Draft.ofJson ledger.toJson).value? = some (.obj [("results", .obj read)]) ∧
      ledger.ToldBy (fun e ↦ (Draft.ofJson e.toJson).value?) read := by
  have htold := ledger.toldBy_members
  obtain ⟨kept, read, hkept, hread, hperm⟩ := Draft.value?_ofJson_obj htold.nodup
  have hkeys : kept.map Prod.fst = ledger.members.map Prod.fst := Draft.map_fst_of_readsAs hkept
  have hnodup : (kept.map Prod.fst).Nodup := hkeys ▸ htold.nodup
  refine ⟨read, ?_, ?_, (hperm.map _).nodup_iff.2 hnodup, fun line ↦ ?_⟩
  · rw [toJson_eq, Draft.ofJson, Draft.ofMembers, Draft.value?, Draft.members?, hread]
    rfl
  · exact (hperm.map _).trans (hkeys ▸ htold.keys)
  · rw [Fragment.lookup_eq_of_perm hperm hnodup, Draft.lookup_of_readsAs hkept,
      htold.lookup, Option.bind_assoc]
    rfl

/-- **A ledger is written with one member for each line.** Lines are the same if their texts are, so
the object by line has no key twice, and under the text of a line stands the entry of that line. A
reader to whom the later of two members with one key stands finds just as many lines. -/
theorem one_member_per_line :
    (∀ a b : Line, a.text = b.text ↔ a = b) ∧
      ∀ ledger : Ledger,
        (∃ written, ledger.toJson = .obj [("results", .obj written)] ∧
          ledger.ToldBy (some ·.toJson) written) ∧
        ∃ read, (Draft.ofJson ledger.toJson).value? = some (.obj [("results", .obj read)]) ∧
          ledger.ToldBy (fun e ↦ (Draft.ofJson e.toJson).value?) read :=
  ⟨fun _ _ ↦ Line.text_injective.eq_iff, fun ledger ↦
    ⟨⟨_, ledger.toJson_eq, ledger.toldBy_members⟩, ledger.exists_toldBy_of_read⟩⟩

/-- Three lines whose texts begin alike. Their order is not the order of the texts, so reading moves
members past each other. -/
theorem three_members_of_like_texts :
    let ledger : Ledger := (∅ : Ledger).insert (.send .audio 0) (.new .send)
      |>.insert (.send .shareAudio 0) (.new .send) |>.insert (.receive .audio 10) (.new .receive)
    ledger.keys.map Line.text = ["audio-send", "audio-recv-10", "audio-share-send"] ∧
      ∃ read, (Draft.ofJson ledger.toJson).value? = some (.obj [("results", .obj read)]) ∧
        read.length = 3 ∧ read.lookup (Line.receive .audio 10).text =
          (Draft.ofJson (Entry.new .receive).toJson).value? := by
  intro ledger
  have hkeys : ledger.keys.map Line.text = ["audio-send", "audio-recv-10", "audio-share-send"] := by
    decide
  obtain ⟨-, read, hread, htold⟩ := one_member_per_line.2 ledger
  refine ⟨hkeys, read, hread, ?_, htold.lookup _⟩
  rw [← List.length_map Prod.fst, htold.keys.length_eq, hkeys]
  rfl

end Ledger

end MediaTelemetry
