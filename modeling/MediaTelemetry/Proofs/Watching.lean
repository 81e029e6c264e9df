import MediaTelemetry.Proofs.Records

/-!
# Watching for what is missing

Packets and frames are watched for in the same way (`Missing`), so all that is said about a look at
a line is said once for both. A sample looks whether something is missing on a line if the line was
seen, is expected and is active (`Taking.LooksFor`).

* `mem_missing_remarks_iff` is what a sample remarks on: what it looks for, finds missing, and was
  not noted missing before.
* `notedIn_after` is what it notes: what it found where it looked. Where it did not look, the note
  stays as it was, whatever came on the line.

Nothing else that is remarked while a sample is taken is about what is missing (`missing_remarks`),
and a sweep leaves the notes alone (`notedIn_swept`).
-/

namespace MediaTelemetry

/-! ### What can be missing -/

/-- What can be missing on a line. -/
inductive Missing where
  | packets
  | frames
deriving DecidableEq

namespace Missing

/-- Packets are looked for on every line, frames on lines that carry pictures. -/
def isDue (line : Line) : Missing → Bool
  | packets => true
  | frames => line.medium.isVideo

/-- The count that stands still while it is missing. -/
def count (line : Line) : Missing → Counters → Nat
  | packets, counters => counters.packets line
  | frames, counters => counters.liveness line

/-- What is remarked on a line where it is missing. -/
def remark (line : Line) : Missing → Remark
  | packets => .noPackets line
  | frames => .noFrames line

/-- It is noted to be missing. -/
def isNoted : Missing → Notes → Bool
  | packets, notes => notes.packetsSilent
  | frames, notes => notes.framesSilent

/-- A ledger has a line noted to lack it. -/
def notedIn (k : Missing) (ledger : Ledger) (line : Line) : Bool :=
  (ledger.get? line).any fun e ↦ k.isNoted e.notes

/-- In the order of remarks. -/
def all : List Missing := [packets, frames]

theorem mem_all (k : Missing) : k ∈ all := by cases k <;> decide

end Missing

/-- What a remark finds missing on a line. -/
def Remark.missing? (line : Line) : Remark → Option Missing
  | .noPackets other => if other = line then some .packets else none
  | .noFrames other => if other = line then some .frames else none
  | _ => none

theorem Remark.missing?_eq_some_iff {line : Line} {r : Remark} {k : Missing} :
    r.missing? line = some k ↔ r = k.remark line := by
  cases r <;> cases k <;> simp [missing?, Missing.remark]

theorem Remark.mem_filterMap_missing? {line : Line} {k : Missing} {remarks : List Remark} :
    k ∈ remarks.filterMap (·.missing? line) ↔ k.remark line ∈ remarks := by
  simp only [List.mem_filterMap, missing?_eq_some_iff, exists_eq_right]

/-! ### Looking at one line -/

namespace Watch

variable (w : Watch) (line : Line) (e : Entry)

/-- Growth since the previous sample of the count of what can be missing. -/
def growth (k : Missing) : Nat :=
  grown (k.count line e.counters) (k.count line ((Mark.of? w.previous line).getD {}))

/-- The look finds something newly missing. -/
def finds (k : Missing) : Bool :=
  w.covers line e && k.isDue line && w.growth line e k == 0 && !k.isNoted e.notes

/-- A look remarks on what it finds newly missing. -/
theorem remarks_eq :
    w.remarks line e = (Missing.all.filter (w.finds line e)).map (·.remark line) := by
  have hpackets : w.finds line e .packets =
      (w.covers line e && (w.lacksPackets line e && !e.notes.packetsSilent)) := by
    rw [finds, Bool.and_assoc, Bool.and_assoc]
    rfl
  have hframes : w.finds line e .frames =
      (w.covers line e && (line.medium.isVideo && w.lacksFrames line e &&
        !e.notes.framesSilent)) := by
    rw [finds, Bool.and_assoc, Bool.and_assoc, Bool.and_assoc]
    rfl
  rw [remarks, Missing.all, List.filter_cons, List.filter_cons, List.filter_nil, hpackets, hframes]
  cases w.covers line e
  · rfl
  · rw [Bool.true_and, Bool.true_and, if_pos rfl]
    split <;> split <;> rfl

/-- What a look notes. -/
theorem isNoted_note (k : Missing) :
    k.isNoted (w.note line e).notes =
      if w.covers line e && k.isDue line then w.growth line e k == 0 else k.isNoted e.notes := by
  rw [note]
  cases w.covers line e
  · rfl
  · cases k with
    | packets => rfl
    | frames =>
      rw [Bool.true_and]
      rfl

end Watch

/-- What is remarked to be missing on a line, while all lines are looked at. -/
theorem Watch.missing_remarksAll (w : Watch) (ledger : Ledger) (line : Line) :
    (w.remarksAll ledger).filterMap (·.missing? line) =
      (ledger.get? line).elim [] fun e ↦ Missing.all.filter (w.finds line e) := by
  have hmissing : ∀ (a : Line × Entry), (w.remarks a.1 a.2).filterMap (·.missing? line) =
      if a.1 = line then Missing.all.filter (w.finds a.1 a.2) else [] := by
    intro a
    rw [Watch.remarks_eq, List.filterMap_map]
    split
    · rename_i heq
      refine (List.filterMap_congr fun k _ ↦ ?_).trans List.filterMap_some
      exact Remark.missing?_eq_some_iff.2 (by rw [heq])
    · rename_i hne
      refine List.filterMap_eq_nil_iff.2 fun k _ ↦ ?_
      cases k <;> exact if_neg hne
  rw [Watch.remarksAll, List.filterMap_flatMap]
  simp only [hmissing]
  rw [KeyMap.flatMap_entries_at line fun a ha ↦ if_neg ha]
  simp only [if_pos]

/-! ### Other remarks -/

/-- A walk whose steps remark on nothing of a kind remarks on nothing of it. -/
theorem filterMap_narrate {σ : Type*} {α β : Type} {step : σ → α → σ}
    {remarks : σ → α → List Remark} {f : Remark → Option β}
    (h : ∀ s a, (remarks s a).filterMap f = []) (l : List α) (s : σ) :
    (narrate step remarks s l).filterMap f = [] := by
  induction l generalizing s with
  | nil => rfl
  | cons a rest ih => rw [narrate, List.filterMap_append, h, ih, List.nil_append]

theorem Fragment.missing_localRemarks (threshold : LossThreshold) (line other : Line)
    (candidates : List LocalCandidate) (state : Entry × Option Path) (f : Fragment) :
    (f.localRemarks threshold other candidates state).filterMap (·.missing? line) = [] := by
  cases f with
  | outboundRtp s => rw [localRemarks]; split <;> rfl
  | inboundRtp s =>
    rw [localRemarks]
    dsimp only
    split
    · rfl
    · split <;> rfl
  | candidatePair p =>
    rw [localRemarks]
    split
    · rfl
    · cases p.dangling? candidates <;> rfl
  | _ => rfl

theorem Fragment.missing_farRemarks (threshold : LossThreshold) (line other : Line) (e : Entry)
    (f : Fragment) : (f.farRemarks threshold other e).filterMap (·.missing? line) = [] := by
  cases f with
  | remoteInboundRtp r =>
    rw [farRemarks]
    dsimp only
    split
    · split <;> rfl
    · rfl
  | remoteOutboundRtp s => rw [farRemarks]; split <;> rfl
  | _ => rfl

theorem Ledger.missing_sweepRemarks (threshold : LossThreshold) (ledger : Ledger) (s : Snapshot)
    (tick : Nat) (line : Line) :
    (Ledger.sweepRemarks threshold ledger s tick).filterMap (·.missing? line) = [] := by
  refine filterMap_narrate (fun state r ↦ ?_) _ _
  rw [Entry.reportRemarks, List.filterMap_append,
    filterMap_narrate (fun _ _ ↦ Fragment.missing_localRemarks ..),
    filterMap_narrate (fun _ _ ↦ Fragment.missing_farRemarks ..), List.nil_append]

/-- Whatever monitors remark, they never report a silence. -/
theorem Monitor.missing_remarksAll (ledger : Ledger) (u : Monitor) (reports : List FarReport)
    (line : Line) : (u.remarksAll ledger reports).filterMap (·.missing? line) = [] := by
  refine filterMap_narrate (fun u r ↦ ?_) _ _
  rw [List.filterMap_map]
  exact List.filterMap_eq_nil_iff.2 fun _ _ ↦ rfl

theorem Measurement.missing_qualityRemarks (m : Measurement) (c : Settings) (d : Host)
    (p : Measurement.Pass) (line : Line) :
    (m.qualityRemarks c d p).filterMap (·.missing? line) = [] := by
  have hleft : ∀ (w : Window) (a : Line × Entry),
      (w.remarks a.1 a.2).filterMap (·.missing? line) = [] := by
    intro w a
    rw [Window.remarks]
    split
    · rfl
    · split <;> rfl
  have hover : ∀ (w : Window) (ledger : Ledger),
      (w.remarksOver ledger).filterMap (·.missing? line) = [] := by
    intro w ledger
    rw [Window.remarksOver, List.filterMap_flatMap]
    exact List.flatMap_eq_nil_iff.2 fun a _ ↦ hleft w a
  rw [qualityRemarks]
  split
  · dsimp only
    rw [List.filterMap_append, List.filterMap_append, hover]
    split <;> rfl
  · rfl

/-! ### The notes between two looks -/

namespace Missing

variable (k : Missing) (e : Entry) (line : Line) (report : List Fragment)

theorem isNoted_foldl {α : Type} {f : Entry → α → Entry}
    (hf : ∀ e a, k.isNoted (f e a).notes = k.isNoted e.notes) (l : List α) :
    k.isNoted (l.foldl f e).notes = k.isNoted e.notes :=
  foldl_kept (p := fun e : Entry ↦ k.isNoted e.notes) hf l e

theorem isNoted_takeLocal : k.isNoted (e.takeLocal line report).notes = k.isNoted e.notes := by
  have hlayers : ∀ (e : Entry) layers, (e.takeLayers layers).notes = e.notes := by
    intro e layers
    rw [Entry.takeLayers]
    split <;> rfl
  rw [Entry.takeLocal]
  cases line.direction with
  | send =>
    dsimp only
    rw [hlayers]
    exact k.isNoted_foldl e (f := Entry.takeSource) (fun _ _ ↦ rfl) _
  | receive => exact k.isNoted_foldl e (f := Entry.takeInbound) (fun _ _ ↦ rfl) _

theorem isNoted_takeFar : k.isNoted (e.takeFar line report).notes = k.isNoted e.notes := by
  rw [Entry.takeFar]
  cases line.direction with
  | send =>
    refine k.isNoted_foldl e (fun _ _ ↦ ?_) _
    cases k <;> rfl
  | receive =>
    refine k.isNoted_foldl e (fun _ reported ↦ ?_) _
    cases reported <;> cases k <;> rfl

theorem isNoted_annotate (r : LineReport) (notes : Notes) :
    k.isNoted (r.annotate notes) = k.isNoted notes := by
  cases r <;> cases k <;> rfl

theorem isNoted_clearSamples (notes : Notes) : k.isNoted notes.clearSamples = k.isNoted notes := by
  cases k <;> rfl

theorem isNoted_takeReport (tick : Nat) :
    k.isNoted (e.takeReport line report tick).notes = k.isNoted e.notes := by
  have hreported : k.isNoted ((e.takeLocal line report).takeFar line report).notes =
      k.isNoted e.notes := (k.isNoted_takeFar ..).trans (k.isNoted_takeLocal ..)
  rw [← hreported]
  cases k <;> rfl

/-- A report keeps the notes on its line; a new line has none. -/
theorem any_isNoted_update (r : LineReport) (tick : Nat) (before : Option Entry) :
    ((r.update line tick before).any fun e ↦ k.isNoted e.notes) =
      before.any fun e ↦ k.isNoted e.notes := by
  have hnew : k.isNoted (Entry.new line.direction).notes = false := by
    cases line.direction <;> cases k <;> rfl
  rw [LineReport.update]
  split
  · rw [Option.map_some, Option.any_some, isNoted_annotate, isNoted_takeReport]
    cases before with
    | none => exact hnew
    | some e => rfl
  · cases before with
    | none => rfl
    | some e => exact k.isNoted_annotate r e.notes

end Missing

namespace Taking

variable (t : Taking) (c : Settings) (d : Host) (line : Line)

/-- What is remarked while the sample is taken. -/
def remarks : List Remark :=
  t.before.remarks c d t.sample.request t.sample.time t.sample.snapshot

/-- The remarks on what is missing are those of looking at the lines. -/
theorem missing_remarks :
    (t.remarks c d).filterMap (·.missing? line) =
      ((t.pass c).rated.get? line).elim [] fun e ↦
        Missing.all.filter ((t.pass c).watch.finds line e) := by
  have haddress : (if (t.pass c).address = t.before.address then []
      else [Remark.addressChanged (t.pass c).address]).filterMap (·.missing? line) = [] := by
    split <;> rfl
  have hflows : ((t.before.flows.changes (t.pass c).live).map fun a ↦
      Remark.flow a.1 a.2).filterMap (·.missing? line) = [] := by
    rw [List.filterMap_map]
    exact List.filterMap_eq_nil_iff.2 fun _ _ ↦ rfl
  have hpass : t.before.pass c t.sample.time t.sample.snapshot = t.pass c := rfl
  rw [remarks, Measurement.remarks, hpass]
  simp only [List.filterMap_append]
  rw [Ledger.missing_sweepRemarks, haddress, Monitor.missing_remarksAll, hflows,
    Watch.missing_remarksAll, Measurement.missing_qualityRemarks, List.append_nil]
  rfl

/-- The sweep keeps the notes on silence. -/
theorem notedIn_swept (k : Missing) :
    k.notedIn (t.pass c).swept line = k.notedIn t.before.ledger line := by
  rw [Missing.notedIn, pass, Measurement.get?_swept]
  cases t.sample.snapshot.at? line with
  | none => rfl
  | some r => exact k.any_isNoted_update line r _ _

/-! ### One sample -/

/-- The sample looks whether something is missing on a line: the line was seen, is expected and is
active. -/
structure LooksFor (t : Taking) (c : Settings) (k : Missing) (line : Line) : Prop where
  due : k.isDue line = true
  seen : line ∈ (t.pass c).sweep.seen
  expected : t.before.status.expects line = true
  active : ∃ e ∈ (t.after c).ledger.get? line, e.notes.isActiveAt t.sample.time c.recency = true

/-- Growth since the sample before of the count of what can be missing. -/
def growth (t : Taking) (c : Settings) (k : Missing) (line : Line) : Nat :=
  grown (k.count line (((t.after c).ledger.countersAt line).getD {}))
    (k.count line ((t.before.ledger.countersAt line).getD {}))

/-- The rates of a line that the sweep left as `e`. -/
abbrev rated (e : Entry) : Entry := t.before.rate c t.sample.time t.sample.snapshot line e

variable {t c d line} {k : Missing} {e : Entry}

theorem not_looksFor (he : (t.pass c).swept.get? line = none) : ¬ t.LooksFor c k line := by
  intro h
  obtain ⟨e, he'⟩ := exists_swept_of_seen h.seen
  exact absurd (he.symm.trans he') nofun

theorem covers_rated_iff (hseen : t.before.SeenBySamples)
    (he : (t.pass c).swept.get? line = some e) :
    ((t.pass c).watch.covers line (t.rated c line e) && k.isDue line) = true ↔
      t.LooksFor c k line := by
  have hbooks := t.before.sameBooks_rate c t.sample.time t.sample.snapshot line e
  have hlast : e.notes.lastSeen = t.before.ticks + 1 ↔ line ∈ (t.pass c).sweep.seen := by
    rcases Measurement.swept_cases he with ⟨hmem, hnow⟩ | ⟨hmem, e', he', -, hearlier⟩
    · exact iff_of_true hnow hmem
    · refine iff_of_false (fun hnow ↦ ?_) hmem
      have hle := hseen line e' he'
      omega
  have hactive : e.notes.isActiveAt t.sample.time c.recency = true ↔
      ∃ e' ∈ (t.after c).ledger.get? line, e'.notes.isActiveAt t.sample.time c.recency = true := by
    rw [get?_after, he]
    simp only [Option.map_some, Option.mem_some, exists_eq_left',
      (t.before.sameBooks_finish c t.sample.time t.sample.snapshot line e).isActiveAt]
  have hcovers : (t.pass c).watch.covers line (t.rated c line e) = true ↔
      (e.notes.lastSeen = t.before.ticks + 1 ∧ t.before.status.expects line = true) ∧
        e.notes.isActiveAt t.sample.time c.recency = true := by
    rw [Watch.covers, Bool.and_eq_true, Bool.and_eq_true, beq_iff_eq, hbooks.lastSeen,
      hbooks.isActiveAt]
    rfl
  rw [Bool.and_eq_true, hcovers, hlast, hactive]
  exact ⟨fun ⟨⟨⟨seen, expected⟩, active⟩, due⟩ ↦ ⟨due, seen, expected, active⟩,
    fun h ↦ ⟨⟨⟨h.seen, h.expected⟩, h.active⟩, h.due⟩⟩

theorem growth_rated (hcoherent : t.before.Coherent) (he : (t.pass c).swept.get? line = some e) :
    (t.pass c).watch.growth line (t.rated c line e) k = t.growth c k line := by
  have hprevious : (t.pass c).watch.previous = t.before.previous := rfl
  have hafter : (t.after c).ledger.countersAt line = some e.counters := by
    rw [Ledger.countersAt, get?_after, he, Option.map_some, Option.map_some,
      (t.before.sameBooks_finish c t.sample.time t.sample.snapshot line e).counters]
  rw [Watch.growth, growth, hprevious, hcoherent line, hafter, Option.getD_some,
    (t.before.sameBooks_rate c t.sample.time t.sample.snapshot line e).counters]

theorem isNoted_rated (he : (t.pass c).swept.get? line = some e) :
    k.isNoted (t.rated c line e).notes = k.notedIn t.before.ledger line := by
  have hnotes : (t.rated c line e).notes = e.notes := by
    rw [rated, Measurement.rate]
    split
    · exact e.notes_setTickRates ..
    · rfl
  rw [hnotes, ← t.notedIn_swept c line k, Missing.notedIn, he, Option.any_some]

/-- **What a sample remarks on**: what it looks for, finds missing, and was not noted missing. -/
theorem mem_missing_remarks_iff (hcoherent : t.before.Coherent) (hseen : t.before.SeenBySamples) :
    k ∈ (t.remarks c d).filterMap (·.missing? line) ↔
      t.LooksFor c k line ∧ t.growth c k line = 0 ∧ k.notedIn t.before.ledger line = false := by
  have hrated : (t.pass c).rated.get? line = ((t.pass c).swept.get? line).map (t.rated c line) :=
    t.before.get?_rated ..
  rw [missing_remarks, hrated]
  cases he : (t.pass c).swept.get? line with
  | none => exact iff_of_false List.not_mem_nil fun h ↦ not_looksFor he h.1
  | some e =>
    rw [Option.map_some, Option.elim_some, List.mem_filter, Watch.finds, Bool.and_eq_true,
      Bool.and_eq_true, covers_rated_iff hseen he, growth_rated hcoherent he, isNoted_rated he,
      beq_iff_eq, Bool.not_eq_true', and_assoc]
    exact and_iff_right k.mem_all

/-- **What a sample notes**: what it found where it looked, and what was noted elsewhere. -/
theorem notedIn_after (hcoherent : t.before.Coherent) (hseen : t.before.SeenBySamples) :
    k.notedIn (t.after c).ledger line = true ↔
      t.LooksFor c k line ∧ t.growth c k line = 0 ∨
        ¬ t.LooksFor c k line ∧ k.notedIn t.before.ledger line = true := by
  cases he : (t.pass c).swept.get? line with
  | none =>
    have hbefore : k.notedIn t.before.ledger line = false := by
      rw [Missing.notedIn, Measurement.get?_eq_none_of_swept he, Option.any_none]
    have hafter : k.notedIn (t.after c).ledger line = false := by
      rw [Missing.notedIn, get?_after, he, Option.map_none, Option.any_none]
    simp [hbefore, hafter, not_looksFor he]
  | some e =>
    have hfinish : k.isNoted (t.before.finish c t.sample.time t.sample.snapshot line e).notes =
        k.isNoted ((t.pass c).watch.note line (t.rated c line e)).notes := by
      rw [Measurement.finish]
      split
      · exact k.isNoted_clearSamples _
      · rfl
    rw [Missing.notedIn, get?_after, he, Option.map_some, Option.any_some, hfinish,
      Watch.isNoted_note, growth_rated hcoherent he, isNoted_rated he]
    by_cases hlooks : t.LooksFor c k line
    · rw [if_pos ((covers_rated_iff hseen he).2 hlooks), beq_iff_eq]
      simp [hlooks]
    · rw [if_neg ((covers_rated_iff hseen he).not.2 hlooks)]
      simp [hlooks]

end Taking

end MediaTelemetry
