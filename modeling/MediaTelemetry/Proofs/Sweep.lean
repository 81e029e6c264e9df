import Mathlib.Data.List.Induction
import Mathlib.Data.List.Nodup
import MediaTelemetry.Proofs.KeyMap
import MediaTelemetry.Sweep

/-!
# A sweep, line by line

A snapshot speaks about a line at most once, and what it says is found by position
(`Snapshot.at?`). Sweeping is therefore done line by line: what the ledger holds for a line
afterwards depends only on what it held for that line before and on what the snapshot says about it
(`get?_sweep`), and the lines seen are those that their reports concern (`mem_seen_sweep`).

* `Snapshot.pairwise_lines` puts the lines of a snapshot in strictly increasing order, so none is
  listed twice;
* `LineReport.update` is the whole effect of a report on its line, starting from nothing if the line
  is new.

No other line has a say anywhere in a sweep, so figures can be followed one line at a time.
-/

namespace MediaTelemetry

/-! ### Walks along a list -/

/-- A part that no step of a walk changes is that of its start. -/
theorem foldl_kept {α σ γ : Type*} {f : σ → α → σ} {p : σ → γ} (hstep : ∀ s a, p (f s a) = p s)
    (l : List α) (s : σ) : p (l.foldl f s) = p s := by
  induction l generalizing s with
  | nil => rfl
  | cons a l ih => rw [List.foldl_cons, ih, hstep]

/-- The last value given, over one more element. -/
theorem getLast?_filterMap_concat {α β : Type*} (l : List α) (a : α) (given : α → Option β)
    (b : β) :
    ((l ++ [a]).filterMap given).getLast?.getD b =
      (given a).getD ((l.filterMap given).getLast?.getD b) := by
  cases h : given a <;> simp [h]

/-- What the steps of a walk take over wherever it is given is the last value given. -/
theorem foldl_latest {α σ β : Type*} {f : σ → α → σ} {p : σ → β} {given : α → Option β}
    (hstep : ∀ s a, p (f s a) = (given a).getD (p s)) (l : List α) (s : σ) :
    p (l.foldl f s) = (l.filterMap given).getLast?.getD (p s) := by
  induction l using List.reverseRecOn with
  | nil => rfl
  | append_singleton l last ih =>
    rw [List.foldl_append, List.foldl_cons, List.foldl_nil, hstep, ih, getLast?_filterMap_concat]

/-! ### The order of lines -/

theorem Line.compare_lt_iff {a b : Line} :
    compare a b = .lt ↔ a.medium.rank < b.medium.rank ∨ a.medium.rank = b.medium.rank ∧
      (a.direction.rank < b.direction.rank ∨
        a.direction.rank = b.direction.rank ∧ a.index < b.index) := by
  show Line.order a b = .lt ↔ _
  simp only [Line.order, compareLex, compareOn, Ordering.then_eq_lt, Nat.compare_eq_lt,
    Nat.compare_eq_eq]

/-! ### What a snapshot says about a line -/

namespace Snapshot

/-- What a snapshot says about a line, if anything: the report at the line's place. -/
def at? (s : Snapshot) (line : Line) : Option LineReport :=
  match line.direction with
  | .send => (s.medium line.medium).senders[line.index]?.map .sender
  | .receive => (s.medium line.medium).receivers[line.index]?.map .receiver

theorem mem_lines_iff {s : Snapshot} {line : Line} {r : LineReport} :
    (line, r) ∈ s.lines ↔ s.at? line = some r := by
  obtain ⟨m, d, i⟩ := line
  have hall : m ∈ Medium.all := by cases m <;> decide
  simp only [lines, MediumReport.lines, List.mem_flatMap, List.mem_append, List.mem_mapIdx,
    Line.send, Line.receive, Prod.mk.injEq, Line.mk.injEq]
  constructor
  · rintro ⟨m', -, ⟨j, hj, ⟨rfl, rfl, rfl⟩, rfl⟩ | ⟨j, hj, ⟨rfl, rfl, rfl⟩, rfl⟩⟩
    · simp [at?, List.getElem?_eq_getElem hj]
    · simp [at?, List.getElem?_eq_getElem hj]
  · intro h
    refine ⟨m, hall, ?_⟩
    cases d with
    | send =>
      obtain ⟨x, hx, rfl⟩ := Option.map_eq_some_iff.1 h
      obtain ⟨hi, rfl⟩ := List.getElem?_eq_some_iff.1 hx
      exact .inl ⟨i, hi, ⟨rfl, rfl, rfl⟩, rfl⟩
    | receive =>
      obtain ⟨x, hx, rfl⟩ := Option.map_eq_some_iff.1 h
      obtain ⟨hi, rfl⟩ := List.getElem?_eq_some_iff.1 hx
      exact .inr ⟨i, hi, ⟨rfl, rfl, rfl⟩, rfl⟩

/-- The lines of a medium come in order: senders before receivers, each by index. -/
theorem pairwise_mediumLines (r : MediumReport) (m : Medium) :
    (r.lines m).Pairwise fun a b ↦ compare a.1 b.1 = .lt := by
  refine List.pairwise_append.2 ⟨?_, ?_, ?_⟩
  · rw [List.pairwise_iff_getElem]
    intro i j hi hj hij
    simp [Line.compare_lt_iff, Line.send, hij]
  · rw [List.pairwise_iff_getElem]
    intro i j hi hj hij
    simp [Line.compare_lt_iff, Line.receive, hij]
  · intro a ha b hb
    obtain ⟨i, hi, rfl⟩ := List.mem_mapIdx.1 ha
    obtain ⟨j, hj, rfl⟩ := List.mem_mapIdx.1 hb
    simp [Line.compare_lt_iff, Line.send, Line.receive, Direction.rank]

theorem medium_of_mem_mediumLines {r : MediumReport} {m : Medium} {a : Line × LineReport}
    (h : a ∈ r.lines m) : a.1.medium = m := by
  rcases List.mem_append.1 h with h | h
  · obtain ⟨i, hi, rfl⟩ := List.mem_mapIdx.1 h
    rfl
  · obtain ⟨i, hi, rfl⟩ := List.mem_mapIdx.1 h
    rfl

/-- The lines of a snapshot come in strictly increasing order. -/
theorem pairwise_lines (s : Snapshot) :
    s.lines.Pairwise fun a b ↦ compare a.1 b.1 = .lt := by
  refine List.pairwise_flatMap.2 ⟨fun m _ ↦ pairwise_mediumLines _ m, ?_⟩
  have hranks : Medium.all.Pairwise fun m m' ↦ m.rank < m'.rank := by decide
  refine hranks.imp fun hlt a ha b hb ↦ Line.compare_lt_iff.2 (.inl ?_)
  rwa [medium_of_mem_mediumLines ha, medium_of_mem_mediumLines hb]

/-- A snapshot speaks about a line at most once. -/
theorem nodup_lines (s : Snapshot) : (s.lines.map (·.1)).Nodup :=
  List.pairwise_map.2 (s.pairwise_lines.imp fun h ↦ KeyMap.ne_of_compare_lt h)

/-- A walk over a snapshot that passes over all lines but one reads what is said about that line. -/
theorem flatMap_lines_at (s : Snapshot) {β : Type} (line : Line) {f : Line × LineReport → List β}
    (hf : ∀ a, a.1 ≠ line → f a = []) :
    s.lines.flatMap f = (s.at? line).toList.flatMap fun r ↦ f (line, r) := by
  cases h : s.at? line with
  | none =>
    refine List.flatMap_eq_nil_iff.2 fun a ha ↦ hf a ?_
    rintro rfl
    rw [mem_lines_iff.1 ha] at h
    exact absurd h (by simp)
  | some r =>
    rw [Option.toList_some, List.flatMap_singleton]
    refine flatMap_eq_of_mem s.nodup_lines.of_map (mem_lines_iff.2 h) fun a ha hne ↦ hf a ?_
    rintro rfl
    rw [mem_lines_iff.1 ha] at h
    exact hne (by rw [← Option.some.inj h])

end Snapshot

/-! ### What a report does to its line -/

namespace LineReport

/-- The report says something about the line. -/
def concerns (r : LineReport) (line : Line) : Bool := r.report.any (·.concerns line)

/-- What is known about a line after a report on it, from what was known before. -/
def update (r : LineReport) (line : Line) (tick : Nat) (before : Option Entry) : Option Entry :=
  let swept :=
    if r.concerns line then
      some ((before.getD (.new line.direction)).takeReport line r.report tick)
    else before
  swept.map fun e ↦ { e with notes := r.annotate e.notes }

end LineReport

/-- A report that says nothing about a line holds none of the fragments that do. -/
theorem Fragment.filterMap_of_not_concerns {line : Line} {report : List Fragment}
    (h : ¬ report.any (·.concerns line) = true) {α : Type} {g : Fragment → Option α}
    (hg : ∀ f, ¬ f.concerns line = true → g f = none) : report.filterMap g = [] := by
  refine List.filterMap_eq_nil_iff.2 fun f hf ↦ hg f fun hconcerns ↦ h ?_
  exact List.any_eq_true.2 ⟨f, hf, hconcerns⟩

theorem Fragment.outbounds_of_not_concerns {line : Line} {report : List Fragment}
    (h : ¬ report.any (·.concerns line) = true) (hsend : line.direction = .send) :
    outbounds report = [] :=
  filterMap_of_not_concerns h fun f hf ↦ by
    cases f with
    | outboundRtp s => exact absurd (by simp [concerns, Line.isSend, hsend]) hf
    | _ => rfl

theorem Fragment.inbounds_of_not_concerns {line : Line} {report : List Fragment}
    (h : ¬ report.any (·.concerns line) = true) (hreceive : line.direction = .receive) :
    inbounds report = [] :=
  filterMap_of_not_concerns h fun f hf ↦ by
    cases f with
    | inboundRtp s => exact absurd (by simp [concerns, Line.isSend, hreceive]) hf
    | _ => rfl

namespace Ledger

theorem get?_takeReport_of_ne (ledger : Ledger) {line other : Line} (h : line ≠ other)
    (report : List Fragment) (tick : Nat) :
    (ledger.takeReport line report tick).get? other = ledger.get? other := by
  rw [takeReport]
  split
  · rw [KeyMap.get?_insert_of_ne _ h]
  · rfl

theorem get?_modify_self (ledger : Ledger) (line : Line) (f : Entry → Entry) :
    (Ledger.modify ledger line f).get? line = (ledger.get? line).map f := by
  rw [Ledger.modify]
  split
  · rename_i e he
    rw [KeyMap.get?_insert_self, he, Option.map_some]
  · rename_i he
    rw [he, Option.map_none]

theorem get?_modify_of_ne (ledger : Ledger) {line other : Line} (h : line ≠ other)
    (f : Entry → Entry) : (Ledger.modify ledger line f).get? other = ledger.get? other := by
  rw [Ledger.modify]
  split
  · rw [KeyMap.get?_insert_of_ne _ h]
  · rfl

end Ledger

namespace Sweep

variable {tick : Nat} {state : Ledger × Sweep} {r : Line × LineReport}

theorem get?_step_self :
    (step tick state r).1.get? r.1 = r.2.update r.1 tick (state.1.get? r.1) := by
  rw [step, Ledger.get?_modify_self, LineReport.update, Ledger.takeReport, LineReport.concerns]
  split
  · rw [KeyMap.get?_insert_self, Ledger.entry]
  · rfl

theorem get?_step_of_ne {line : Line} (h : r.1 ≠ line) :
    (step tick state r).1.get? line = state.1.get? line := by
  rw [step, Ledger.get?_modify_of_ne _ h, Ledger.get?_takeReport_of_ne _ h]

theorem get?_foldl_of_not_mem {line : Line} :
    ∀ {l : List (Line × LineReport)} {state : Ledger × Sweep}, line ∉ l.map (·.1) →
      (l.foldl (step tick) state).1.get? line = state.1.get? line := by
  intro l
  induction l with
  | nil => intro state _; rfl
  | cons r rest ih =>
    intro state h
    rw [List.map_cons, List.mem_cons, not_or] at h
    rw [List.foldl_cons, ih h.2, get?_step_of_ne (Ne.symm h.1)]

theorem get?_foldl_of_mem {line : Line} {said : LineReport} :
    ∀ {l : List (Line × LineReport)} {state : Ledger × Sweep}, (l.map (·.1)).Nodup →
      (line, said) ∈ l →
        (l.foldl (step tick) state).1.get? line = said.update line tick (state.1.get? line) := by
  intro l
  induction l with
  | nil => intro state _ h; simp at h
  | cons r rest ih =>
    intro state hnd h
    rw [List.map_cons, List.nodup_cons] at hnd
    rw [List.foldl_cons]
    rcases List.mem_cons.1 h with rfl | hmem
    · -- the reports after it are about other lines
      rw [get?_foldl_of_not_mem hnd.1, get?_step_self]
    · have hne : r.1 ≠ line := fun heq ↦ hnd.1 (List.mem_map.2 ⟨_, hmem, heq.symm⟩)
      rw [ih hnd.2 hmem, get?_step_of_ne hne]

theorem seen_foldl :
    ∀ (l : List (Line × LineReport)) (state : Ledger × Sweep),
      (l.foldl (step tick) state).2.seen =
        state.2.seen ++ (l.filter fun r ↦ r.2.concerns r.1).map (·.1) := by
  intro l
  induction l with
  | nil => intro state; simp
  | cons r rest ih =>
    intro state
    rw [List.foldl_cons, ih, List.filter_cons]
    by_cases h : r.2.concerns r.1
    · have hadd : (step tick state r).2.seen = state.2.seen ++ [r.1] := by
        rw [LineReport.concerns] at h
        simp [step, add, h]
      simp [h, hadd]
    · have hadd : (step tick state r).2.seen = state.2.seen := by
        rw [LineReport.concerns] at h
        simp [step, add, h]
      simp [h, hadd]

end Sweep

namespace Ledger

/-- **Sweeping is done line by line.** -/
theorem get?_sweep (ledger : Ledger) (s : Snapshot) (tick : Nat) (line : Line) :
    (Ledger.sweep ledger s tick).1.get? line =
      (s.at? line).elim (ledger.get? line) fun r ↦ r.update line tick (ledger.get? line) := by
  cases h : s.at? line with
  | none =>
    refine Sweep.get?_foldl_of_not_mem fun hmem ↦ ?_
    obtain ⟨⟨line', r⟩, hr, rfl⟩ := List.mem_map.1 hmem
    rw [Snapshot.mem_lines_iff.1 hr] at h
    exact absurd h (by simp)
  | some r => exact Sweep.get?_foldl_of_mem s.nodup_lines (Snapshot.mem_lines_iff.2 h)

/-- The lines seen are those that their reports concern. -/
theorem mem_seen_sweep {ledger : Ledger} {s : Snapshot} {tick : Nat} {line : Line} :
    line ∈ (Ledger.sweep ledger s tick).2.seen ↔ ∃ r, s.at? line = some r ∧ r.concerns line := by
  rw [Ledger.sweep, Sweep.seen_foldl]
  simp only [List.nil_append, List.mem_map, List.mem_filter, Prod.exists]
  constructor
  · rintro ⟨line', r, ⟨hr, hc⟩, rfl⟩
    exact ⟨r, Snapshot.mem_lines_iff.1 hr, hc⟩
  · rintro ⟨r, hr, hc⟩
    exact ⟨line, r, ⟨Snapshot.mem_lines_iff.2 hr, hc⟩, rfl⟩

end Ledger

end MediaTelemetry
