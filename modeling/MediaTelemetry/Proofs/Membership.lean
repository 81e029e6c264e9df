import MediaTelemetry.Proofs.Sweep
import MediaTelemetry.Quality

/-!
# Which lines a quality report lists, and where

Each of the four lists of a quality report is a walk over the ledger that keeps the lines of one
direction and one kind of medium. A walk may also pass over a line for want of a record; where every
entry has a record of its line's own direction that never happens, so a list is the ledger's lines
less those of another place and those that the window does not list (`lines_report`).

All that there is to know about the lists is read off this equation (`report_lists`): a line is in
one list or in none, once, and the order is that of the ledger, in which camera and microphone come
before shared screens.
-/

namespace MediaTelemetry

/-- The entry has a record of the direction. -/
def Entry.hasRecord (e : Entry) : Direction → Bool
  | .send => e.send.isSome
  | .receive => e.receive.isSome

/-- The lines that a report lists for a direction and a kind of medium, sound or pictures, in report
order. -/
def QualityReport.lines (r : QualityReport) : Direction → Bool → List Line
  | .send, true => r.audioTransmit.map (·.line)
  | .send, false => r.videoTransmit.map (·.line)
  | .receive, true => r.audioReceive.map (·.line)
  | .receive, false => r.videoReceive.map (·.line)

/-- Some list of the report has the line. -/
def QualityReport.Lists (r : QualityReport) (line : Line) : Prop :=
  ∃ direction audio, line ∈ r.lines direction audio

/-! ### The order inside a list -/

/-- Among lines of one direction and one kind of medium the main ones come first, and among those of
one medium lower indexes. -/
theorem Line.main_first {a b : Line} (h : compare a b = .lt)
    (hdirection : a.direction = b.direction) (haudio : a.medium.isAudio = b.medium.isAudio) :
    (b.medium.isMain = true → a.medium.isMain = true) ∧
      (a.medium = b.medium → a.index < b.index) := by
  obtain ⟨m, d, i⟩ := a
  obtain ⟨m', d', i'⟩ := b
  obtain rfl : d = d' := hdirection
  rw [Line.compare_lt_iff] at h
  cases m <;> cases m' <;> simp_all [Medium.rank, Medium.isAudio, Medium.isMain]

/-! ### Walks -/

namespace Window

variable (w : Window) {ledger : Ledger}

/-- The window's lists keep this line of the ledger. -/
def keeps (direction : Direction) (audio : Bool) (l : Line × Entry) : Bool :=
  l.1.direction == direction && l.1.medium.isAudio == audio && w.lists l.2

section Make

variable {φ ρ : Type} (direction : Direction) (audio : Bool) (record : Entry → Option ρ)
  (entry : Line → Entry → ρ → QualityEntry φ)

/-- The entry of a line that is kept, made of its record. -/
def make? (l : Line × Entry) : Option (QualityEntry φ) :=
  if w.keeps direction audio l then (record l.2).map (entry l.1 l.2) else none

/-- A walk that makes an entry of every line it keeps lists these lines. -/
theorem lines_walk (hline : ∀ l e r, (entry l e r).line = l) {l : List (Line × Entry)}
    (hrecord : ∀ a ∈ l, a.1.direction = direction → (record a.2).isSome = true) :
    (l.filterMap (w.make? direction audio record entry)).map (·.line) =
      (l.filter (w.keeps direction audio)).map (·.1) := by
  rw [List.map_filterMap, ← List.filterMap_eq_map, List.filterMap_filter]
  refine List.filterMap_congr fun a ha ↦ ?_
  rw [make?]
  split
  · rename_i hkept
    rw [keeps, Bool.and_eq_true, Bool.and_eq_true, beq_iff_eq] at hkept
    obtain ⟨r, hr⟩ := Option.isSome_iff_exists.1 (hrecord a ha hkept.1.1)
    rw [hr, Option.map_some, Option.map_some, hline]
    rfl
  · rfl

variable {w direction audio record entry}

theorem make?_eq_some_iff {a : Line × Entry} {q : QualityEntry φ} :
    w.make? direction audio record entry a = some q ↔
      (a.1.direction = direction ∧ a.1.medium.isAudio = audio ∧ w.lists a.2 = true) ∧
        ∃ r, record a.2 = some r ∧ entry a.1 a.2 r = q := by
  rw [make?, Option.ite_none_right_eq_some, Option.map_eq_some_iff, keeps, Bool.and_eq_true,
    Bool.and_eq_true, beq_iff_eq, beq_iff_eq, and_assoc (a := a.1.direction = direction)]

end Make

theorem transmit?_eq (audio : Bool) :
    w.transmit? audio = w.make? .send audio (·.send) w.transmitEntry :=
  rfl

theorem receive?_eq (audio : Bool) :
    w.receive? audio = w.make? .receive audio (·.receive) w.receiveEntry := by
  funext a
  have hreceive : (!a.1.isSend) = (a.1.direction == .receive) := by
    rw [Line.isSend]
    cases a.1.direction <;> rfl
  rw [receive?, hreceive, make?, keeps]

/-- **A list of a report is the ledger's lines of its place that the window lists**, in the order of
the ledger. -/
theorem lines_report (hown : ∀ a ∈ ledger.entries, a.2.hasRecord a.1.direction = true)
    (direction : Direction) (audio : Bool) :
    (w.report ledger).lines direction audio =
      (ledger.entries.filter (w.keeps direction audio)).map (·.1) := by
  cases direction with
  | send =>
    have hrecord : ∀ a ∈ ledger.entries, a.1.direction = .send → a.2.send.isSome = true := by
      intro a ha hsend
      have hhas := hown a ha
      rwa [hsend] at hhas
    have hwalk := w.lines_walk .send audio (·.send) w.transmitEntry (fun _ _ _ ↦ rfl) hrecord
    rw [← w.transmit?_eq] at hwalk
    cases audio <;> exact hwalk
  | receive =>
    have hrecord : ∀ a ∈ ledger.entries,
        a.1.direction = .receive → a.2.receive.isSome = true := by
      intro a ha hreceive
      have hhas := hown a ha
      rwa [hreceive] at hhas
    have hwalk := w.lines_walk .receive audio (·.receive) w.receiveEntry (fun _ _ _ ↦ rfl) hrecord
    rw [← w.receive?_eq] at hwalk
    cases audio <;> exact hwalk

/-- A window lists what is requested and was seen after its start, if it has one. -/
theorem lists_iff {e : Entry} :
    w.lists e = true ↔
      e.notes.isRequestedAt w.now w.recency = true ∧
        ∀ mark ∈ w.start, mark.tick < e.notes.lastSeen := by
  rw [lists, misses, Bool.and_eq_true, Bool.not_eq_true', Option.any_eq_false, and_comm]
  simp only [decide_eq_false_iff_not, Nat.not_le, Option.mem_def]

/-- Where a line is found in a report. -/
theorem mem_lines_report_iff (hown : ∀ a ∈ ledger.entries, a.2.hasRecord a.1.direction = true)
    {line : Line} {direction : Direction} {audio : Bool} :
    line ∈ (w.report ledger).lines direction audio ↔
      line.direction = direction ∧ line.medium.isAudio = audio ∧
        ∃ e ∈ ledger.get? line, w.lists e = true := by
  rw [w.lines_report hown, List.mem_map]
  constructor
  · rintro ⟨⟨line, e⟩, hmem, rfl⟩
    obtain ⟨he, hkept⟩ := List.mem_filter.1 hmem
    rw [keeps, Bool.and_eq_true, Bool.and_eq_true, beq_iff_eq, beq_iff_eq] at hkept
    exact ⟨hkept.1.1, hkept.1.2, e, KeyMap.mem_entries_iff.1 he, hkept.2⟩
  · rintro ⟨rfl, rfl, e, he, hlists⟩
    refine ⟨(line, e), List.mem_filter.2 ⟨KeyMap.mem_entries_iff.2 he, ?_⟩, rfl⟩
    rw [keeps, beq_self_eq_true, beq_self_eq_true, Bool.true_and, Bool.true_and, hlists]

/-- Each list comes in strictly increasing order of lines. -/
theorem pairwise_lines_report (hown : ∀ a ∈ ledger.entries, a.2.hasRecord a.1.direction = true)
    (direction : Direction) (audio : Bool) :
    ((w.report ledger).lines direction audio).Pairwise fun a b ↦ compare a b = .lt := by
  rw [w.lines_report hown, List.pairwise_map]
  exact List.Pairwise.filter _ ledger.pairwise_entries

/-- **Which lines a report lists, and where.** Let every line of a ledger have a record of its own
direction. The report of a window lists a line exactly if the ledger has it, it is requested, and
the window is the first one or the line was seen after the window's start. A line that is listed
stands once in the list of its own direction and kind of medium, and in no other. Every list is in
strictly increasing order of lines, so main media come before shared screens and lower indexes of a
medium first. -/
theorem report_lists (hown : ∀ a ∈ ledger.entries, a.2.hasRecord a.1.direction = true) :
    let r := w.report ledger
    (∀ line, r.Lists line ↔ ∃ e ∈ ledger.get? line,
        e.notes.isRequestedAt w.now w.recency = true ∧
          ∀ mark ∈ w.start, mark.tick < e.notes.lastSeen) ∧
      (∀ line, r.Lists line → ∀ direction audio,
        (r.lines direction audio).count line =
          if direction = line.direction ∧ audio = line.medium.isAudio then 1 else 0) ∧
      ∀ direction audio,
        ((r.lines direction audio).Pairwise fun a b ↦ compare a b = .lt) ∧
          (r.lines direction audio).Pairwise fun a b ↦
            (b.medium.isMain = true → a.medium.isMain = true) ∧
              (a.medium = b.medium → a.index < b.index) := by
  intro r
  have hmem : ∀ line direction audio, line ∈ r.lines direction audio ↔
      line.direction = direction ∧ line.medium.isAudio = audio ∧
        ∃ e ∈ ledger.get? line, w.lists e = true := fun _ _ _ ↦ w.mem_lines_report_iff hown
  have hordered : ∀ direction audio,
      (r.lines direction audio).Pairwise fun a b ↦ compare a b = .lt :=
    w.pairwise_lines_report hown
  refine ⟨fun line ↦ ?_, fun line hlisted direction audio ↦ ?_, fun direction audio ↦
    ⟨hordered direction audio, ?_⟩⟩
  · constructor
    · rintro ⟨direction, audio, hline⟩
      obtain ⟨-, -, e, he, hlists⟩ := (hmem line direction audio).1 hline
      exact ⟨e, he, w.lists_iff.1 hlists⟩
    · rintro ⟨e, he, hlists⟩
      exact ⟨_, _, (hmem line _ _).2 ⟨rfl, rfl, e, he, w.lists_iff.2 hlists⟩⟩
  · have hnodup : (r.lines direction audio).Nodup :=
      (hordered direction audio).imp KeyMap.ne_of_compare_lt
    obtain ⟨direction', audio', hline⟩ := hlisted
    obtain ⟨-, -, hentry⟩ := (hmem line direction' audio').1 hline
    split
    · rename_i hplace
      exact List.count_eq_one_of_mem hnodup ((hmem _ _ _).2 ⟨hplace.1.symm, hplace.2.symm, hentry⟩)
    · rename_i hplace
      refine List.count_eq_zero.2 fun hother ↦ hplace ?_
      obtain ⟨hdirection, haudio, -⟩ := (hmem _ _ _).1 hother
      exact ⟨hdirection.symm, haudio.symm⟩
  · -- within a list direction and kind of medium do not decide
    refine (hordered direction audio).imp_of_mem fun ha hb hlt ↦ ?_
    obtain ⟨hdirection, haudio, -⟩ := (hmem _ _ _).1 ha
    obtain ⟨hdirection', haudio', -⟩ := (hmem _ _ _).1 hb
    exact Line.main_first hlt (hdirection.trans hdirection'.symm) (haudio.trans haudio'.symm)

/-- Two cameras and a shared screen that are sent, put into the ledger in another order, a camera
that was not seen during the window and a speaker that is not requested. -/
theorem screen_after_cameras :
    let entry (line : Line) (lastSeen : Nat) (requested : Bool) : Entry :=
      { Entry.new line.direction with notes := { lastSeen, requested := some requested } }
    let lines : List (Line × Nat × Bool) := [(.send .shareVideo 0, 2, true),
      (.send .video 1, 2, true), (.send .video 0, 3, true), (.send .video 2, 1, true),
      (.receive .audio 0, 2, false)]
    let ledger : Ledger :=
      lines.foldl (fun ledger (line, seen, requested) ↦
        ledger.insert line (entry line seen requested)) ∅
    let w : Window :=
      { start := some ⟨1, 0, ∅⟩, span := ⟨60000⟩, transport := .udp, address := "", now := 60000,
        recency := 30000, display := {} }
    let r := w.report ledger
    (∀ a ∈ ledger.entries, a.2.hasRecord a.1.direction = true) ∧
      r.lines .send false = [.send .video 0, .send .video 1, .send .shareVideo 0] ∧
      r.Lists (.send .shareVideo 0) ∧ ¬ r.Lists (.send .video 2) ∧ ¬ r.Lists (.receive .audio 0) ∧
      (r.lines .send false).count (.send .video 1) = 1 ∧
      (r.lines .send true).count (.send .video 1) = 0 := by
  intro entry lines ledger w r
  have hown : ∀ a ∈ ledger.entries, a.2.hasRecord a.1.direction = true := by decide +kernel
  obtain ⟨hlists, hcount, -⟩ := report_lists w hown
  have hcamera : r.Lists (.send .video 1) := ⟨.send, false, by decide +kernel⟩
  refine ⟨hown, by decide +kernel, ⟨.send, false, by decide +kernel⟩, ?_, ?_,
    hcount _ hcamera .send false, hcount _ hcamera .send true⟩
  · rw [hlists]
    decide +kernel
  · rw [hlists]
    decide +kernel

end Window

end MediaTelemetry
