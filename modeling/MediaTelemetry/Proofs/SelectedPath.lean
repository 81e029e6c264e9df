import MediaTelemetry.Proofs.History
import MediaTelemetry.Proofs.Sweep

/-!
# The path in use

The path that a sweep finds is that of the first pair of the snapshot that resolves
(`Snapshot.path?_eq_some_iff`): a succeeded pair that names a candidate of its own report. Pairs
come in the order of their sites, by line and then by place in the report, and a pair that does not
resolve is as good as absent.

A meter keeps of the paths of its samples the last address and the last transport that was known
(`Meter.path_in_use`). A sample without a path changes neither, and a path of unknown transport
changes the address alone.
-/

namespace MediaTelemetry

/-! ### Pairs that resolve -/

/-- A pair has succeeded and names a candidate of a report: the last one with its identifier. -/
structure CandidatePair.Resolves (p : CandidatePair) (report : List Fragment)
    (c : LocalCandidate) : Prop where
  succeeded : p.state = some "succeeded"
  named : p.localCandidateId = some c.id
  last : ∃ earlier later, report = earlier ++ .localCandidate c :: later ∧
    ∀ d, .localCandidate d ∈ later → d.id ≠ c.id

theorem PairState.ofText_eq_succeeded {s : String} : ofText s = .succeeded ↔ s = "succeeded" := by
  by_cases hs : s = "succeeded"
  · subst hs
    decide
  · simp only [ofText, hs, if_false]
    split_ifs <;> decide

theorem CandidatePair.uses?_eq_some_iff {p : CandidatePair} {id : String} :
    p.uses? = some id ↔ p.state = some "succeeded" ∧ p.localCandidateId = some id := by
  have hprogress : p.progress = .succeeded ↔ p.state = some "succeeded" := by
    rw [progress]
    cases p.state with
    | none => simp
    | some s => simp [PairState.ofText_eq_succeeded]
  rw [uses?, Option.ite_none_right_eq_some, hprogress]

theorem LocalCandidate.find?_eq_some_iff {id : String} {candidates : List LocalCandidate}
    {c : LocalCandidate} :
    find? id candidates = some c ↔ id = c.id ∧
      ∃ earlier later, candidates = earlier ++ c :: later ∧ ∀ d ∈ later, d.id ≠ c.id := by
  rw [find?, List.find?_eq_some_iff_append, beq_iff_eq, eq_comm (a := c.id)]
  refine and_congr_right fun hid ↦ ?_
  subst hid
  constructor
  · rintro ⟨later, earlier, hsplit, hlater⟩
    refine ⟨earlier.reverse, later.reverse, ?_, fun d hd ↦ ?_⟩
    · rw [← List.reverse_reverse candidates, hsplit]
      simp
    · simpa using hlater d (List.mem_reverse.1 hd)
  · rintro ⟨earlier, later, rfl, hlater⟩
    exact ⟨later.reverse, earlier.reverse, by simp, fun d hd ↦ by
      simpa using hlater d (List.mem_reverse.1 hd)⟩

/-- The last of the candidates of a report with an identifier is the last in the report. -/
theorem Fragment.candidates_split_iff {report : List Fragment} {c : LocalCandidate} :
    (∃ earlier later, candidates report = earlier ++ c :: later ∧ ∀ d ∈ later, d.id ≠ c.id) ↔
      ∃ earlier later, report = earlier ++ .localCandidate c :: later ∧
        ∀ d, .localCandidate d ∈ later → d.id ≠ c.id := by
  have hmem : ∀ {d : LocalCandidate} {report : List Fragment},
      d ∈ candidates report ↔ .localCandidate d ∈ report := by
    intro d report
    rw [candidates, List.mem_filterMap]
    constructor
    · rintro ⟨f, hf, hd⟩
      cases f with
      | localCandidate d' => rwa [← Option.some.inj hd]
      | _ => cases hd
    · exact fun hd ↦ ⟨_, hd, rfl⟩
  constructor
  · rintro ⟨earlier, later, hsplit, hlater⟩
    obtain ⟨front, rest, rfl, -, hrest⟩ := List.filterMap_eq_append_iff.1 hsplit
    obtain ⟨between, f, back, rfl, -, hf, hback⟩ := List.filterMap_eq_cons_iff.1 hrest
    have hc : f = .localCandidate c := by
      cases f with
      | localCandidate d => rw [← Option.some.inj hf]
      | _ => cases hf
    subst hc
    refine ⟨front ++ between, back, by simp, fun d hd ↦ hlater d ?_⟩
    rw [← hback]
    exact hmem.2 hd
  · rintro ⟨earlier, later, rfl, hlater⟩
    refine ⟨candidates earlier, candidates later, ?_, fun d hd ↦ hlater d (hmem.1 hd)⟩
    rw [candidates, List.filterMap_append]
    rfl

theorem CandidatePair.path?_eq_some_iff {p : CandidatePair} {report : List Fragment} {x : Path} :
    p.path? (Fragment.candidates report) = some x ↔
      ∃ c, p.Resolves report c ∧ x = c.path := by
  rw [path?, Option.bind_eq_some_iff]
  constructor
  · rintro ⟨id, huses, hfound⟩
    obtain ⟨c, hc, rfl⟩ := Option.map_eq_some_iff.1 hfound
    obtain ⟨hstate, hnamed⟩ := uses?_eq_some_iff.1 huses
    obtain ⟨rfl, hlast⟩ := LocalCandidate.find?_eq_some_iff.1 hc
    exact ⟨c, ⟨hstate, hnamed, Fragment.candidates_split_iff.1 hlast⟩, rfl⟩
  · rintro ⟨c, h, rfl⟩
    refine ⟨c.id, uses?_eq_some_iff.2 ⟨h.succeeded, h.named⟩, Option.map_eq_some_iff.2 ⟨c, ?_, rfl⟩⟩
    exact LocalCandidate.find?_eq_some_iff.2 ⟨rfl, Fragment.candidates_split_iff.2 h.last⟩

/-! ### The first of some things -/

/-- What a search finds in a list is found at the first element, in the order of the list, at which
there is something to be found. -/
theorem findSome?_eq_some_iff_first {α β : Type} {R : α → α → Prop} {l : List α}
    (hl : l.Pairwise R) (hR : ∀ a b, R a b → ¬ R b a) {f : α → Option β} {b : β} :
    l.findSome? f = some b ↔ ∃ a ∈ l, f a = some b ∧ ∀ a' ∈ l, R a' a → f a' = none := by
  rw [List.findSome?_eq_some_iff]
  constructor
  · rintro ⟨before, a, behind, rfl, ha, hbefore⟩
    refine ⟨a, by simp, ha, fun a' ha' hlt ↦ ?_⟩
    rcases List.mem_append.1 ha' with ha' | ha'
    · exact hbefore a' ha'
    · -- `a` is the first of what is left
      rcases List.mem_cons.1 ha' with rfl | ha'
      · exact absurd hlt (hR _ _ hlt)
      · exact absurd hlt (hR _ _ (List.rel_of_pairwise_cons (List.pairwise_append.1 hl).2.1 ha'))
  · rintro ⟨a, ha, hfound, hfirst⟩
    obtain ⟨before, behind, rfl⟩ := List.append_of_mem ha
    refine ⟨before, a, behind, rfl, hfound, fun a' ha' ↦ hfirst a' (by simp [ha']) ?_⟩
    exact (List.pairwise_append.1 hl).2.2 a' ha' a (by simp)

/-! ### Sites -/

/-- A place in a snapshot: a line, and a place in its report. -/
structure Site where
  line : Line
  place : Nat
deriving DecidableEq, Inhabited

/-- The order in which a sweep comes to sites. -/
def Site.Before (a b : Site) : Prop :=
  compare a.line b.line = .lt ∨ a.line = b.line ∧ a.place < b.place

theorem Site.Before.asymm {a b : Site} (h : a.Before b) : ¬ b.Before a := by
  obtain ⟨line, place⟩ := a
  obtain ⟨line', place'⟩ := b
  intro h'
  simp only [Before, Line.compare_lt_iff] at h h'
  rcases h with h | ⟨rfl, h⟩
  · rcases h' with h' | ⟨rfl, -⟩ <;> omega
  · rcases h' with h' | ⟨-, h'⟩ <;> omega

/-- The path that a fragment of a report resolves to. -/
def Fragment.pathAmong? (report : List Fragment) : Fragment → Option Path
  | .candidatePair p => p.path? (candidates report)
  | _ => none

theorem Fragment.path?_eq_findSome? (report : List Fragment) :
    path? report = report.findSome? (pathAmong? report) := by
  rw [path?, pairs, ← List.head?_filterMap, List.filterMap_filterMap, ← List.head?_filterMap]
  congr 2
  funext f
  cases f <;> rfl

namespace Snapshot

/-- At a site there is a pair that resolves to a candidate of the report it stands in. -/
def ResolvesAt (s : Snapshot) (site : Site) (c : LocalCandidate) : Prop :=
  ∃ r p, s.at? site.line = some r ∧ r.report[site.place]? = some (.candidatePair p) ∧
    p.Resolves r.report c

/-- The fragments of a snapshot in sweep order, each with its site and the report it stands in. -/
def fragments (s : Snapshot) : List (Site × List Fragment × Fragment) :=
  s.lines.flatMap fun r ↦ r.2.report.zipIdx.map fun f ↦ (⟨r.1, f.2⟩, r.2.report, f.1)

/-- The first path that the reports of a snapshot resolve to. -/
def path? (s : Snapshot) : Option Path := s.lines.findSome? fun r ↦ Fragment.path? r.2.report

variable {s : Snapshot}

theorem mem_fragments_iff {site : Site} {report : List Fragment} {f : Fragment} :
    (site, report, f) ∈ s.fragments ↔
      ∃ r, s.at? site.line = some r ∧ r.report = report ∧ r.report[site.place]? = some f := by
  simp only [fragments, List.mem_flatMap, List.mem_map, Prod.exists, mem_lines_iff,
    List.mem_zipIdx_iff_getElem?, Prod.mk.injEq]
  constructor
  · rintro ⟨line, r, hr, f, place, hf, rfl, rfl, rfl⟩
    exact ⟨r, hr, rfl, hf⟩
  · rintro ⟨r, hr, rfl, hf⟩
    exact ⟨site.line, r, hr, f, site.place, hf, rfl, rfl, rfl⟩

theorem pairwise_fragments (s : Snapshot) :
    s.fragments.Pairwise fun a b ↦ a.1.Before b.1 := by
  refine List.pairwise_flatMap.2 ⟨fun r _ ↦ ?_, s.pairwise_lines.imp fun hlt a ha b hb ↦ ?_⟩
  · rw [List.pairwise_map, List.pairwise_iff_getElem]
    intro i j hi hj hij
    exact .inr ⟨rfl, by simpa using hij⟩
  · obtain ⟨f, -, rfl⟩ := List.mem_map.1 ha
    obtain ⟨f', -, rfl⟩ := List.mem_map.1 hb
    exact .inl hlt

theorem path?_eq_findSome? (s : Snapshot) :
    s.path? = s.fragments.findSome? fun f ↦ f.2.2.pathAmong? f.2.1 := by
  rw [fragments, ← List.head?_filterMap, List.filterMap_flatMap, List.head?_flatMap, path?]
  congr 1
  funext r
  have hfst : ∀ g : Fragment → Option Path,
      r.2.report.zipIdx.filterMap (g ∘ Prod.fst) = r.2.report.filterMap g := by
    intro g
    rw [← List.filterMap_map, List.zipIdx_map_fst]
  rw [Fragment.path?_eq_findSome?, ← List.head?_filterMap, ← hfst, List.filterMap_map]
  rfl

/-- The pairs that resolve are the fragments that a path is found for. -/
theorem exists_resolvesAt_iff {site : Site} {x : Path} :
    (∃ c, s.ResolvesAt site c ∧ x = c.path) ↔
      ∃ report f, (site, report, f) ∈ s.fragments ∧ f.pathAmong? report = some x := by
  constructor
  · rintro ⟨c, ⟨r, p, hr, hp, hresolves⟩, hx⟩
    exact ⟨r.report, .candidatePair p, mem_fragments_iff.2 ⟨r, hr, rfl, hp⟩,
      CandidatePair.path?_eq_some_iff.2 ⟨c, hresolves, hx⟩⟩
  · rintro ⟨report, f, hmem, hf⟩
    obtain ⟨r, hr, rfl, hplace⟩ := mem_fragments_iff.1 hmem
    cases f with
    | candidatePair p =>
      obtain ⟨c, hresolves, hx⟩ := CandidatePair.path?_eq_some_iff.1 hf
      exact ⟨c, ⟨r, p, hr, hplace, hresolves⟩, hx⟩
    | _ => cases hf

/-- A path is found at the first site with a pair that resolves. -/
theorem path?_eq_some_iff {x : Path} :
    s.path? = some x ↔ ∃ site c, s.ResolvesAt site c ∧ x = c.path ∧
      ∀ site' c', s.ResolvesAt site' c' → ¬ site'.Before site := by
  rw [path?_eq_findSome?,
    findSome?_eq_some_iff_first s.pairwise_fragments fun _ _ h ↦ Site.Before.asymm h]
  constructor
  · rintro ⟨⟨site, report, f⟩, hmem, hf, hfirst⟩
    obtain ⟨c, hresolves, hx⟩ := exists_resolvesAt_iff.2 ⟨report, f, hmem, hf⟩
    refine ⟨site, c, hresolves, hx, fun site' c' hresolves' hlt ↦ ?_⟩
    obtain ⟨report', f', hmem', hf'⟩ := exists_resolvesAt_iff.1 ⟨c', hresolves', rfl⟩
    have hnone := hfirst _ hmem' hlt
    rw [hf'] at hnone
    exact Option.some_ne_none _ hnone
  · rintro ⟨site, c, hresolves, hx, hfirst⟩
    obtain ⟨report, f, hmem, hf⟩ := exists_resolvesAt_iff.1 ⟨c, hresolves, hx⟩
    refine ⟨_, hmem, hf, fun ⟨site', report', f'⟩ hmem' hlt ↦ ?_⟩
    by_contra hsome
    obtain ⟨y, hy⟩ := Option.ne_none_iff_exists'.1 hsome
    obtain ⟨c', hresolves', -⟩ := exists_resolvesAt_iff.2 ⟨report', f', hmem', hy⟩
    exact hfirst site' c' hresolves' hlt

theorem path?_eq_none_iff : s.path? = none ↔ ∀ site c, ¬ s.ResolvesAt site c := by
  rw [path?_eq_findSome?, List.findSome?_eq_none_iff]
  constructor
  · intro h site c hresolves
    obtain ⟨report, f, hmem, hf⟩ := exists_resolvesAt_iff.1 ⟨c, hresolves, rfl⟩
    exact Option.some_ne_none _ (hf.symm.trans (h _ hmem))
  · intro h ⟨site, report, f⟩ hmem
    by_contra hsome
    obtain ⟨x, hx⟩ := Option.ne_none_iff_exists'.1 hsome
    obtain ⟨c, hresolves, -⟩ := exists_resolvesAt_iff.2 ⟨report, f, hmem, hx⟩
    exact h site c hresolves

/-- What a sweep finds does not depend on the ledger. -/
theorem path_sweep (s : Snapshot) (ledger : Ledger) (tick : Nat) :
    (Ledger.sweep ledger s tick).2.path = s.path? := by
  have hfold : ∀ (l : List (Line × LineReport)) (state : Ledger × Sweep),
      (l.foldl (Sweep.step tick) state).2.path =
        state.2.path.or (l.findSome? fun r ↦ Fragment.path? r.2.report) := by
    intro l
    induction l with
    | nil => intro state; simp
    | cons r rest ih =>
      intro state
      rw [List.foldl_cons, ih, List.findSome?_cons]
      show (state.2.path.or (Fragment.path? r.2.report)).or _ = _
      cases state.2.path <;> cases Fragment.path? r.2.report <;> rfl
  exact (hfold s.lines (ledger, {})).trans Option.none_or

end Snapshot

/-! ### Over a run -/

namespace Meter

/-- **The path in use.** In every snapshot, whatever the ledger, the path found is that of the first
pair in sweep order that has succeeded and names a candidate of its own report, the last candidate
with that identifier; no path is found if there is no such pair. After any operations the address
of a new meter is that of the last sample taken in which a path was found, and the transport that of
the last path found whose transport was known. -/
theorem path_in_use {c : Settings} {d : Host} {monitor : Monitor} {m : Meter}
    (hm : Meter.new c d monitor = .ok m)
    (ops : List Op) :
    (∀ (s : Snapshot) (ledger : Ledger) (tick : Nat),
      (∀ x, (Ledger.sweep ledger s tick).2.path = some x ↔
        ∃ site c, s.ResolvesAt site c ∧ x = c.path ∧
          ∀ site' c', s.ResolvesAt site' c' → ¬ site'.Before site) ∧
      ((Ledger.sweep ledger s tick).2.path = none ↔ ∀ site c, ¬ s.ResolvesAt site c)) ∧
    (m.run ops).measurement.address =
      ((m.history ops).filterMap fun t ↦
        (t.pass c).sweep.path.map (·.address)).getLast?.getD "" ∧
    (m.run ops).measurement.transport =
      ((m.history ops).filterMap fun t ↦
        (t.pass c).sweep.path.bind (·.transport)).getLast?.getD .udp := by
  refine ⟨fun s ledger tick ↦ ?_, ?_⟩
  · rw [s.path_sweep]
    exact ⟨fun x ↦ Snapshot.path?_eq_some_iff, Snapshot.path?_eq_none_iff⟩
  · refine history_induction (P := fun ts before ↦
      before.address = (ts.filterMap fun t ↦
          (t.pass c).sweep.path.map (·.address)).getLast?.getD "" ∧
        before.transport = (ts.filterMap fun t ↦
          (t.pass c).sweep.path.bind (·.transport)).getLast?.getD .udp)
      m ?_ (fun _ _ _ h ↦ h) ?_ ops
    · rw [measurement_of_new hm]
      exact ⟨rfl, rfl⟩
    · rintro ts t ⟨haddress, htransport⟩
      rw [getLast?_filterMap_concat, getLast?_filterMap_concat, ← haddress, ← htransport,
        settings_of_new hm]
      exact ⟨rfl, rfl⟩

/-- In the first of three samples a failed pair, and one that names a candidate of another report,
come before one that resolves, to the second of two candidates with one identifier. In the second
sample no pair resolves, and in the third one does, to a candidate whose transport is not known. -/
theorem path_of_three_samples :
    let m : Meter := { settings := {}, host := {} }
    let pair (state id : String) : Fragment :=
      .candidatePair { state := some state, localCandidateId := some id }
    let host (id address protocol : String) : Fragment := .localCandidate
      { id, address := some address, protocol := some protocol, candidateType := some "host" }
    let first : Snapshot :=
      { audio := { senders := [{ report := [pair "failed" "A", pair "succeeded" "B",
                                            host "A" "10.0.0.1" "udp"] }] }
        video := { receivers := [{ report := [host "B" "10.0.0.2" "udp", pair "succeeded" "B",
                                              host "B" "10.0.0.3" "tcp"] }] } }
    let second : Snapshot := { audio := { senders := [{ report := [pair "succeeded" "A"] }] } }
    let third : Snapshot :=
      { audio := { senders := [{ report := [pair "succeeded" "A", host "A" "10.0.0.4" "quic"] }] } }
    let ops : List Op := [.start 0, .timeout 0, .nextRequest, .read ⟨⟨1, 0⟩, 5000, first⟩,
      .timeout 5000, .nextRequest, .read ⟨⟨1, 1⟩, 10000, second⟩,
      .timeout 10000, .nextRequest, .read ⟨⟨1, 2⟩, 15000, third⟩]
    Meter.new {} {} = .ok m ∧
      (∃ site c, first.ResolvesAt site c ∧ (⟨"10.0.0.3", some .tcp⟩ : Path) = c.path ∧
        ∀ site' c', first.ResolvesAt site' c' → ¬ site'.Before site) ∧
      (∀ site c, ¬ second.ResolvesAt site c) ∧
      (m.run ops).measurement.address = "10.0.0.4" ∧
      (m.run ops).measurement.transport = .tcp := by
  intro m pair host first second third ops
  have hm : Meter.new {} {} = .ok m := rfl
  obtain ⟨hsweep, haddress, htransport⟩ := path_in_use hm ops
  refine ⟨hm, ((hsweep first ∅ 1).1 _).1 ?_, (hsweep second ∅ 1).2.1 ?_, haddress.trans ?_,
    htransport.trans ?_⟩ <;> decide +kernel

end Meter

end MediaTelemetry
