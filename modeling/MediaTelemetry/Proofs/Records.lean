import MediaTelemetry.Proofs.Sample

/-!
# What an entry keeps over a run

Two facts about every entry of the ledger hold after any samples: it has a record of its own
direction and none of the other (`ownRecords_run`), and it was last seen at a sample that has been
taken (`seenBySamples_run`). The first is why a listed line always has figures to report, the
second why the number of a sample tells whether a line was seen since.

`Measurement.swept_cases` says how a sample can leave an entry: seen, with the sample's own number,
or with counters and number as they were.
-/

namespace MediaTelemetry

/-! ### Records -/

/-- The entry has a record of the direction, and none of the other. -/
def Entry.IsOf (e : Entry) : Direction → Prop
  | .send => e.send.isSome ∧ e.receive = none
  | .receive => e.send = none ∧ e.receive.isSome

namespace Entry

variable {e : Entry} {line : Line}

theorem isOf_new (d : Direction) : (new d).IsOf d := by
  cases d <;> exact ⟨rfl, rfl⟩

theorem isOf_foldl {α : Type} {f : Entry → α → Entry} {d : Direction}
    (hf : ∀ e a, IsOf e d → (f e a).IsOf d) :
    ∀ (l : List α) (e : Entry), IsOf e d → (l.foldl f e).IsOf d
  | [], _, h => h
  | a :: l, e, h => isOf_foldl hf l (f e a) (hf e a h)

theorem IsOf.takeLocal (h : e.IsOf line.direction) (report : List Fragment) :
    (e.takeLocal line report).IsOf line.direction := by
  rw [Entry.takeLocal]
  cases hd : line.direction with
  | send =>
    rw [hd] at h
    dsimp only
    have hsources := isOf_foldl (f := takeSource) (d := .send) (fun _ _ h ↦ ⟨rfl, h.2⟩)
      (if line.medium.isAudio then Fragment.sources report else []) e h
    rw [Entry.takeLayers]
    split
    · exact hsources
    · exact ⟨rfl, hsources.2⟩
  | receive =>
    rw [hd] at h
    exact isOf_foldl (f := takeInbound) (d := .receive) (fun _ _ h ↦ ⟨h.1, rfl⟩) _ e h

theorem IsOf.takeFar (h : e.IsOf line.direction) (report : List Fragment) :
    (e.takeFar line report).IsOf line.direction := by
  rw [Entry.takeFar]
  cases hd : line.direction with
  | send =>
    rw [hd] at h
    exact isOf_foldl (f := takeRemote) (d := .send) (fun _ _ h ↦ ⟨rfl, h.2⟩) _ e h
  | receive =>
    rw [hd] at h
    refine isOf_foldl (f := takeRoundTrip) (d := .receive) (fun e t h ↦ ?_) _ e h
    cases t with
    | none => exact h
    | some t => exact ⟨h.1, rfl⟩

theorem IsOf.takeReport (h : e.IsOf line.direction) (report : List Fragment) (tick : Nat) :
    (e.takeReport line report tick).IsOf line.direction :=
  (h.takeLocal report).takeFar report

theorem IsOf.setTickRates (h : e.IsOf line.direction) (mark : Option Mark) (elapsed : Span) :
    (e.setTickRates line mark elapsed).IsOf line.direction := by
  rw [Entry.setTickRates]
  cases hd : line.direction with
  | send => rw [hd] at h; exact ⟨rfl, h.2⟩
  | receive => rw [hd] at h; exact ⟨h.1, rfl⟩

/-- Notes are no record. -/
theorem IsOf.notes (h : e.IsOf line.direction) (notes : Notes) :
    ({ e with notes } : Entry).IsOf line.direction := by
  cases hd : line.direction with
  | send => rw [hd] at h; exact h
  | receive => rw [hd] at h; exact h

theorem IsOf.note (h : e.IsOf line.direction) (w : Watch) :
    (w.note line e).IsOf line.direction := by
  rw [Watch.note]
  split
  · exact h.notes _
  · exact h

end Entry

theorem LineReport.isOf_update {r : LineReport} {line : Line} {tick : Nat} {before : Option Entry}
    (h : ∀ e ∈ before, e.IsOf line.direction) :
    ∀ e ∈ r.update line tick before, e.IsOf line.direction := by
  rintro e he
  rw [LineReport.update, Option.mem_def, Option.map_eq_some_iff] at he
  obtain ⟨e, he, rfl⟩ := he
  refine Entry.IsOf.notes ?_ _
  split at he
  · obtain rfl := Option.some.inj he
    refine Entry.IsOf.takeReport ?_ _ _
    cases before with
    | none => exact Entry.isOf_new _
    | some e => exact h e rfl
  · exact h e he

namespace Measurement

variable {m : Measurement} {c : Settings} {now : Nat} {s : Snapshot} {line : Line}

/-- All entries have a record of their own direction only. -/
def OwnRecords (m : Measurement) : Prop :=
  ∀ line, ∀ e ∈ m.ledger.get? line, e.IsOf line.direction

theorem OwnRecords.swept (h : m.OwnRecords) :
    ∀ e ∈ (m.pass c now s).swept.get? line, e.IsOf line.direction := by
  rw [get?_swept]
  cases s.at? line with
  | none => exact h line
  | some r => exact LineReport.isOf_update (h line)

theorem OwnRecords.rateAndNote (h : m.OwnRecords) :
    ∀ e ∈ (m.pass c now s).noted.get? line, e.IsOf line.direction := by
  intro e he
  rw [get?_noted, Option.mem_def, Option.map_eq_some_iff] at he
  obtain ⟨e, he, rfl⟩ := he
  refine Entry.IsOf.note ?_ _
  rw [rate]
  split
  · exact (h.swept e he).setTickRates _ _
  · exact h.swept e he

theorem OwnRecords.take (h : m.OwnRecords) : (m.take c now s).OwnRecords := by
  intro line e he
  have hnoted : ∀ e ∈ (m.pass c now s).noted.get? line, e.IsOf line.direction := h.rateAndNote
  rw [get?_take, Option.mem_def, Option.map_eq_some_iff] at he
  obtain ⟨e, he, rfl⟩ := he
  have hown : (m.rateAndNote c now s line e).IsOf line.direction :=
    hnoted _ (by rw [get?_noted, he]; rfl)
  rw [finish]
  split
  · exact hown.notes _
  · exact hown

/-! ### When a line was seen -/

/-- **How a sweep can leave a line**: seen now, or with the counters and the number of the sample
that it had. -/
theorem swept_cases {e : Entry} (h : (m.pass c now s).swept.get? line = some e) :
    (line ∈ (m.pass c now s).sweep.seen ∧ e.notes.lastSeen = m.ticks + 1) ∨
      (line ∉ (m.pass c now s).sweep.seen ∧
        ∃ e', m.ledger.get? line = some e' ∧ e.counters = e'.counters ∧
          e.notes.lastSeen = e'.notes.lastSeen) := by
  rw [mem_seen]
  rw [get?_swept] at h
  cases hr : s.at? line with
  | none =>
    rw [hr] at h
    exact .inr ⟨by simp, e, h, rfl, rfl⟩
  | some r =>
    rw [hr, Option.elim_some, LineReport.update, Option.map_eq_some_iff] at h
    obtain ⟨e', he', rfl⟩ := h
    have hnotes : ∀ n : Notes, (r.annotate n).lastSeen = n.lastSeen := fun n ↦ by
      cases r <;> rfl
    by_cases hconcerns : r.concerns line = true
    · rw [if_pos hconcerns] at he'
      obtain rfl := Option.some.inj he'
      exact .inl ⟨⟨r, rfl, hconcerns⟩, hnotes _⟩
    · rw [if_neg hconcerns] at he'
      refine .inr ⟨?_, e', he', rfl, hnotes _⟩
      rintro ⟨r', hr', hconcerns'⟩
      rw [Option.some.inj hr'] at hconcerns
      exact hconcerns hconcerns'

/-- Lines are never dropped. -/
theorem get?_eq_none_of_swept (h : (m.pass c now s).swept.get? line = none) :
    m.ledger.get? line = none := by
  rw [get?_swept] at h
  cases hr : s.at? line with
  | none => rwa [hr] at h
  | some r =>
    rw [hr, Option.elim_some, LineReport.update, Option.map_eq_none_iff] at h
    split at h
    · exact absurd h (by simp)
    · exact h

/-- No entry was seen after the last sample. -/
def SeenBySamples (m : Measurement) : Prop :=
  ∀ line, ∀ e ∈ m.ledger.get? line, e.notes.lastSeen ≤ m.ticks

theorem SeenBySamples.take (h : m.SeenBySamples) : (m.take c now s).SeenBySamples := by
  intro line e he
  rw [get?_take, Option.mem_def, Option.map_eq_some_iff] at he
  obtain ⟨e, he, rfl⟩ := he
  rw [(m.sameBooks_finish c now s line e).lastSeen]
  show e.notes.lastSeen ≤ m.ticks + 1
  rcases swept_cases he with ⟨-, hseen⟩ | ⟨-, e', he', -, hseen⟩
  · exact Nat.le_of_eq hseen
  · rw [hseen]
    exact Nat.le_succ_of_le (h line e' he')

/-- The last reported window ended at a sample that has been taken. -/
def ReportedAtSample (m : Measurement) : Prop := ∀ mark ∈ m.reported, mark.tick ≤ m.ticks

theorem ReportedAtSample.take (h : m.ReportedAtSample) : (m.take c now s).ReportedAtSample := by
  intro mark hmark
  rw [reported_take] at hmark
  split at hmark
  · obtain rfl := Option.some.inj hmark
    exact Nat.le_refl _
  · exact Nat.le_succ_of_le (h mark hmark)

end Measurement

namespace Meter

variable {c : Settings} {d : Host} {monitor : Monitor} {m : Meter}

theorem ownRecords_run (hm : Meter.new c d monitor = .ok m) (ops : List Op) :
    (m.run ops).measurement.OwnRecords := by
  refine history_induction (P := fun _ before ↦ before.OwnRecords) m ?_ (fun _ _ _ h ↦ h)
    (fun _ _ h ↦ h.take) ops
  rw [measurement_of_new hm]
  intro line e he
  exact absurd he (by simp)

theorem seenBySamples_run (hm : Meter.new c d monitor = .ok m) (ops : List Op) :
    (m.run ops).measurement.SeenBySamples := by
  refine history_induction (P := fun _ before ↦ before.SeenBySamples) m ?_ (fun _ _ _ h ↦ h)
    (fun _ _ h ↦ h.take) ops
  rw [measurement_of_new hm]
  intro line e he
  exact absurd he (by simp)

end Meter

end MediaTelemetry
