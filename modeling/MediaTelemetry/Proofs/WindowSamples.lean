import MediaTelemetry.Proofs.Doubles
import MediaTelemetry.Proofs.Marks

/-!
# Window samples are used once

Round trip times and jitters are sampled as the far end reports them and summed up when a quality
window is reported. At any time the notes of a line hold what has been sampled on it since the last
reported window (`sampled_history`), and a report gives mean and maximum of just that, with its own
sample included (`summarises_of_mem_figures`). As the windows cut the run of samples into pieces
(`flatten_closedWindows_append`), every value goes into one window, whether or not its line is in
the report.

* `Sampled.of?` says what a fragment is sampled for. The two kinds of samples go through the same
  lemmas.
* `sampled_noted` and `sampled_after` are one sample: what it finds is appended, and a closing one
  empties the notes of all lines, after the report has read them.
* `Summarises` says what mean and maximum are. They are the only ones (`Summarises.unique`).
-/

namespace MediaTelemetry

/-! ### What is sampled -/

/-- What is sampled over a quality window. -/
inductive Sampled where
  | roundTrip
  | jitter

/-- What a fragment gives to a line's samples: a round trip time from what the far end receives, and
on lines that receive also from what it sends; a jitter from what it receives on lines that send. -/
def Sampled.of? (line : Line) : Sampled → Fragment → Option Float
  | .roundTrip, .remoteInboundRtp s => s.roundTripTime
  | .roundTrip, .remoteOutboundRtp s => if line.isSend then none else s.roundTripTime
  | .jitter, .remoteInboundRtp s => if line.isSend then s.jitter else none
  | _, _ => none

/-- The samples noted. -/
def Notes.sampled (n : Notes) : Sampled → List Float
  | .roundTrip => n.roundTrips
  | .jitter => n.jitters

/-- Mean and maximum of the samples that an entry of a quality report gives. -/
def CommonFigures.summary (f : CommonFigures) : Sampled → Float × Float
  | .roundTrip => f.roundTrip
  | .jitter => f.jitter

/-- The samples that a report gives a line, in report order. -/
def LineReport.sampled (r : LineReport) (line : Line) (k : Sampled) : List Float :=
  r.report.filterMap (k.of? line)

/-- The samples noted for a line; none for a line that is not listed. -/
def Ledger.sampled (ledger : Ledger) (line : Line) (k : Sampled) : List Float :=
  (ledger.get? line).elim [] (·.notes.sampled k)

/-- The samples that a taking gives a line. -/
def Taking.sampled (t : Taking) (line : Line) (k : Sampled) : List Float :=
  (t.sample.snapshot.at? line).elim [] (·.sampled line k)

/-- A fragment that is sampled concerns the line. -/
theorem Sampled.concerns_of_of? {line : Line} {k : Sampled} {f : Fragment} {x : Float}
    (h : k.of? line f = some x) : f.concerns line = true := by
  cases k <;> cases f <;> simp_all [of?, Fragment.concerns]

/-! ### A report -/

/-- Where each step of a walk appends to a part, the walk appends all of it in order. -/
theorem foldl_appends {α σ γ : Type*} {f : σ → α → σ} {p : σ → List γ} {g : α → List γ}
    (hstep : ∀ s a, p (f s a) = p s ++ g a) (l : List α) (s : σ) :
    p (l.foldl f s) = p s ++ l.flatMap g := by
  induction l generalizing s with
  | nil => rw [List.foldl_nil, List.flatMap_nil, List.append_nil]
  | cons a l ih => rw [List.foldl_cons, ih, hstep, List.flatMap_cons, List.append_assoc]

namespace Entry

variable (e : Entry) (line : Line) (report : List Fragment)

/-- Nothing is noted before the far end's word. -/
theorem notes_takeLocal : (e.takeLocal line report).notes = e.notes := by
  rw [takeLocal]
  cases line.direction with
  | send =>
    have hlayers : ∀ (e : Entry) (layers : List OutboundRtp),
        (e.takeLayers layers).notes = e.notes := by
      intro e layers
      rw [takeLayers]
      split <;> rfl
    dsimp only
    rw [hlayers, foldl_kept (f := takeSource) (p := (·.notes)) fun _ _ ↦ rfl]
  | receive => exact foldl_kept (f := takeInbound) (p := (·.notes)) (fun _ _ ↦ rfl) _ e

/-- The far end's word is sampled in report order. -/
theorem sampled_takeFar (k : Sampled) :
    (e.takeFar line report).notes.sampled k =
      e.notes.sampled k ++ report.filterMap (k.of? line) := by
  rw [takeFar]
  cases hd : line.direction with
  | send =>
    have hstep : ∀ (e : Entry) (r : RemoteInboundRtp), (e.takeRemote r).notes.sampled k =
        e.notes.sampled k ++ (k.of? line (.remoteInboundRtp r)).toList := by
      intro e r
      cases k with
      | roundTrip => rfl
      | jitter => simp [takeRemote, Notes.sampled, Sampled.of?, Line.isSend, hd]
    have hwalk : ((Fragment.remoteInbounds report).flatMap fun r ↦
        (k.of? line (.remoteInboundRtp r)).toList) = report.filterMap (k.of? line) := by
      rw [Fragment.remoteInbounds, ← List.filterMap_eq_flatMap_toList, List.filterMap_filterMap]
      refine List.filterMap_congr fun f _ ↦ ?_
      cases f <;> cases k <;> simp [Sampled.of?, Line.isSend, hd]
    dsimp only
    rw [foldl_appends (f := takeRemote) (p := (·.notes.sampled k)) hstep, hwalk]
  | receive =>
    have hstep : ∀ (e : Entry) (trip : Option Float), (e.takeRoundTrip trip).notes.sampled k =
        e.notes.sampled k ++ (match k with | .roundTrip => trip | .jitter => none).toList := by
      intro e trip
      cases trip <;> cases k <;> simp [takeRoundTrip, Notes.sampled]
    have hwalk : ((Fragment.remoteRoundTrips report).flatMap fun trip ↦
        (match k with | .roundTrip => trip | .jitter => none).toList) =
          report.filterMap (k.of? line) := by
      rw [Fragment.remoteRoundTrips, ← List.filterMap_eq_flatMap_toList, List.filterMap_filterMap]
      refine List.filterMap_congr fun f _ ↦ ?_
      cases f <;> cases k <;> simp [Sampled.of?, Line.isSend, hd]
    dsimp only
    rw [foldl_appends (f := takeRoundTrip) (p := (·.notes.sampled k)) hstep, hwalk]

end Entry

/-- A report appends its samples to those of its line. -/
theorem LineReport.sampled_update (r : LineReport) (line : Line) (tick : Nat)
    (before : Option Entry) (k : Sampled) :
    (r.update line tick before).elim [] (·.notes.sampled k) =
      before.elim [] (·.notes.sampled k) ++ r.sampled line k := by
  have hannotate : ∀ n : Notes, (r.annotate n).sampled k = n.sampled k := by
    intro n
    cases r <;> cases k <;> rfl
  rw [update]
  split
  · have hnew : (before.getD (.new line.direction)).notes.sampled k =
        before.elim [] (·.notes.sampled k) := by
      cases before with
      | none => cases k <;> cases line.direction <;> rfl
      | some e => rfl
    have hseen : ∀ (e : Entry) (n : Nat),
        ({ e.notes with lastSeen := n } : Notes).sampled k = e.notes.sampled k := by
      intro e n
      cases k <;> rfl
    rw [Option.map_some, Option.elim_some, hannotate, Entry.takeReport, hseen,
      Entry.sampled_takeFar, Entry.notes_takeLocal, hnew]
    rfl
  · rename_i hconcerns
    have hnone : r.sampled line k = [] := List.filterMap_eq_nil_iff.2 fun f hf ↦ by
      cases hf' : k.of? line f with
      | none => rfl
      | some x =>
        exact absurd (List.any_eq_true.2 ⟨f, hf, Sampled.concerns_of_of? hf'⟩) hconcerns
    rw [hnone, List.append_nil]
    cases before with
    | none => rfl
    | some e => exact hannotate e.notes

/-! ### A sample -/

namespace Taking

variable (t : Taking) (c : Settings) (d : Host) (line : Line) (k : Sampled)

theorem sampled_swept :
    (t.pass c).swept.sampled line k = t.before.ledger.sampled line k ++ t.sampled line k := by
  rw [Ledger.sampled, pass, Measurement.get?_swept, sampled]
  cases t.sample.snapshot.at? line with
  | none => rw [Option.elim_none, Option.elim_none, List.append_nil]; rfl
  | some r => exact r.sampled_update line _ _ k

/-- A report finds the samples of its own taking noted. -/
theorem sampled_noted :
    Ledger.sampled (t.pass c).noted line k =
      t.before.ledger.sampled line k ++ t.sampled line k := by
  have hkeep : ∀ e : Entry, (t.before.rateAndNote c t.sample.time t.sample.snapshot line
      e).notes.sampled k = e.notes.sampled k := by
    intro e
    have hrate : (t.before.rate c t.sample.time t.sample.snapshot line e).notes = e.notes := by
      rw [Measurement.rate]
      split
      · exact e.notes_setTickRates ..
      · rfl
    have hnote : ∀ (w : Watch) (e : Entry),
        (w.note line e).notes.sampled k = e.notes.sampled k := by
      intro w e
      rw [Watch.note]
      split
      · cases k <;> rfl
      · rfl
    rw [Measurement.rateAndNote, hnote, hrate]
  rw [← t.sampled_swept c, Ledger.sampled, get?_noted, Ledger.sampled]
  cases (t.pass c).swept.get? line with
  | none => rfl
  | some e => exact hkeep e

/-- A taking leaves its samples noted, unless it closes the window. -/
theorem sampled_after :
    (t.after c).ledger.sampled line k =
      if (t.pass c).closes then []
      else t.before.ledger.sampled line k ++ t.sampled line k := by
  rw [← t.sampled_noted c]
  show (Measurement.closed (t.pass c)).sampled line k = _
  rw [Measurement.closed]
  split
  · rw [Ledger.sampled, KeyMap.get?_map]
    cases (t.pass c).noted.get? line with
    | none => rfl
    | some e => cases k <;> rfl
  · rfl

end Taking

/-! ### Mean and maximum -/

/-- The largest of a list, of equal values the last. What is not a number is left out. -/
structure IsLargest (l : List Float) (x : Float) : Prop where
  isNumber : x.isNaN = false
  splits : ∃ before after, l = before ++ x :: after ∧
    (∀ y ∈ before, y.isNaN = false → y ≤ x) ∧ ∀ y ∈ after, y.isNaN = false → y < x

namespace IsLargest

variable {l : List Float} {x y : Float}

theorem singleton (h : x.isNaN = false) : IsLargest [x] x :=
  ⟨h, [], [], rfl, fun _ h ↦ (List.not_mem_nil h).elim, fun _ h ↦ (List.not_mem_nil h).elim⟩

/-- One more value is the largest, if the one so far is not larger. -/
theorem concat (h : IsLargest l x) (y : Float) : IsLargest (l ++ [y]) (if x ≤ y then y else x) := by
  obtain ⟨hx, before, after, rfl, hbefore, hafter⟩ := h
  split
  · rename_i hle
    refine ⟨Double.isNaN_right_of_le hle, _, [], rfl, fun z hz hnumber ↦ ?_,
      fun _ h ↦ (List.not_mem_nil h).elim⟩
    rcases List.mem_append.1 hz with hz | hz
    · exact Double.le_trans (hbefore z hz hnumber) hle
    · rcases List.mem_cons.1 hz with rfl | hz
      · exact hle
      · exact Double.le_trans (Double.le_of_lt (hafter z hz hnumber)) hle
  · rename_i hnot
    refine ⟨hx, before, after ++ [y], by simp, hbefore, fun z hz hnumber ↦ ?_⟩
    rcases List.mem_append.1 hz with hz | hz
    · exact hafter z hz hnumber
    · obtain rfl := List.mem_singleton.1 hz
      exact (Double.le_or_lt hx hnumber).resolve_left hnot

theorem foldl (h : x.isNaN = false) (l : List Float) :
    IsLargest (x :: l) (l.foldl (fun a b ↦ if a ≤ b then b else a) x) := by
  induction l using List.reverseRecOn with
  | nil => exact singleton h
  | append_singleton l y ih =>
    rw [List.foldl_append, List.foldl_cons, List.foldl_nil]
    exact ih.concat y

/-- Of two splits of a list at a largest value neither is further back. -/
theorem eq_of_rest {between after after' : List Float} (hx : x.isNaN = false)
    (hy : y.isNaN = false) (hrest : x :: after = between ++ y :: after')
    (hafter : ∀ z ∈ after, z.isNaN = false → z < x)
    (hbetween : ∀ z ∈ between, z.isNaN = false → z ≤ y) : x = y := by
  cases between with
  | nil => exact (List.cons.inj hrest).1
  | cons z between =>
    obtain ⟨rfl, rfl⟩ := List.cons.inj hrest
    have hlt : y < x := hafter y (by simp) hy
    exact absurd (hbetween x (by simp) hx) (Double.not_le_of_lt hlt)

/-- There is only one. -/
theorem eq (hx : IsLargest l x) (hy : IsLargest l y) : x = y := by
  obtain ⟨hx, before, after, rfl, hbefore, hafter⟩ := hx
  obtain ⟨hy, before', after', hsplit, hbefore', hafter'⟩ := hy
  rcases List.append_eq_append_iff.1 hsplit with ⟨between, rfl, hrest⟩ | ⟨between, rfl, hrest⟩
  · exact eq_of_rest hx hy hrest hafter fun z hz ↦ hbefore' z (List.mem_append_right _ hz)
  · exact (eq_of_rest hy hx hrest hafter' fun z hz ↦ hbefore z (List.mem_append_right _ hz)).symm

end IsLargest

/-- Figures of samples in seconds, as milliseconds: their mean, where each but the first is added to
the sum of those before it, and the largest of them and zero. Both are zero if there are none. -/
inductive Summarises : List Float → Float × Float → Prop
  | empty : Summarises [] (0.0, 0.0)
  | cons {first : Float} {others : List Float} {largest : Float}
      (h : IsLargest (0.0 :: first :: others) largest) :
      Summarises (first :: others)
        (others.foldl (· + ·) first * 1000.0 / Float.ofNat (others.length + 1), largest * 1000.0)

theorem summarises_meanAndMax (samples : List Float) : Summarises samples (meanAndMax samples) := by
  cases samples with
  | nil => exact .empty
  | cons first others =>
    rw [meanAndMax, List.isEmpty_cons, if_neg Bool.false_ne_true, List.foldl_cons,
      Double.negZero_add]
    exact .cons (.foldl rfl _)

/-- Samples have one mean and one maximum. -/
theorem Summarises.unique {samples : List Float} {figures figures' : Float × Float}
    (h : Summarises samples figures) (h' : Summarises samples figures') : figures = figures' := by
  cases h with
  | empty => cases h'; rfl
  | cons h =>
    cases h' with
    | cons h' => rw [h.eq h']

/-! ### Windows -/

/-- The samples of every window reported: for each that closes one, the samples since the one before
it that did, and itself. -/
def closedWindows (c : Settings) (ts : List Taking) : List (List Taking) :=
  ts.inits.filterMap fun earlier ↦
    (earlier.getLast?.filter fun t ↦ (t.pass c).closes).map fun t ↦
      openWindow c earlier.dropLast ++ [t]

theorem closedWindows_concat (c : Settings) (ts : List Taking) (t : Taking) :
    closedWindows c (ts ++ [t]) =
      closedWindows c ts ++ if (t.pass c).closes then [openWindow c ts ++ [t]] else [] := by
  have hinits : (ts ++ [t]).inits = ts.inits ++ [ts ++ [t]] := by simp [List.inits_append]
  rw [closedWindows, hinits, List.filterMap_append, closedWindows]
  congr 1
  rw [List.filterMap_cons, List.getLast?_concat, List.dropLast_concat]
  split <;> simp_all [Option.filter]

/-- The windows cut the samples into pieces. -/
theorem flatten_closedWindows_append (c : Settings) (ts : List Taking) :
    (closedWindows c ts).flatten ++ openWindow c ts = ts := by
  induction ts using List.reverseRecOn with
  | nil => rfl
  | append_singleton ts t ih =>
    rw [closedWindows_concat, openWindow_concat, List.flatten_append]
    split
    · rw [List.flatten_singleton, List.append_nil, ← List.append_assoc, ih]
    · rw [List.flatten_nil, List.append_nil, ← List.append_assoc, ih]

/-! ### Reports -/

/-- The figures that a report gives of its lines, whatever their direction and medium. -/
def QualityReport.figures (r : QualityReport) : List (Line × CommonFigures) :=
  (r.audioTransmit ++ r.videoTransmit).map (fun q ↦ (q.line, q.common)) ++
    (r.audioReceive ++ r.videoReceive).map (fun q ↦ (q.line, q.common))

/-- The figures that a report gives of a line are made from its entry in the ledger. -/
theorem Window.common_of_mem_figures {w : Window} {ledger : Ledger} {f : Line × CommonFigures}
    (h : f ∈ (w.report ledger).figures) :
    ∃ e, ledger.get? f.1 = some e ∧ f.2 = w.common f.1 e := by
  have htransmit : ∀ audio, ∀ q ∈ ledger.entries.filterMap (w.transmit? audio),
      ∃ e, ledger.get? q.line = some e ∧ q.common = w.common q.line e := by
    intro audio q hq
    obtain ⟨⟨line, e⟩, he, hentry⟩ := List.mem_filterMap.1 hq
    rw [transmit?, Option.ite_none_right_eq_some, Option.map_eq_some_iff] at hentry
    obtain ⟨-, r, -, rfl⟩ := hentry
    exact ⟨e, KeyMap.mem_entries_iff.1 he, rfl⟩
  have hreceive : ∀ audio, ∀ q ∈ ledger.entries.filterMap (w.receive? audio),
      ∃ e, ledger.get? q.line = some e ∧ q.common = w.common q.line e := by
    intro audio q hq
    obtain ⟨⟨line, e⟩, he, hentry⟩ := List.mem_filterMap.1 hq
    rw [receive?, Option.ite_none_right_eq_some, Option.map_eq_some_iff] at hentry
    obtain ⟨-, r, -, rfl⟩ := hentry
    exact ⟨e, KeyMap.mem_entries_iff.1 he, rfl⟩
  simp only [QualityReport.figures, report, List.mem_append, List.mem_map] at h
  rcases h with ⟨q, hq | hq, rfl⟩ | ⟨q, hq | hq, rfl⟩
  · exact htransmit _ q hq
  · exact htransmit _ q hq
  · exact hreceive _ q hq
  · exact hreceive _ q hq

/-- A report sums up the samples that it finds noted. -/
theorem Window.summarises_of_mem_figures {w : Window} {ledger : Ledger} {f : Line × CommonFigures}
    (h : f ∈ (w.report ledger).figures) (k : Sampled) :
    Summarises (ledger.sampled f.1 k) (f.2.summary k) := by
  obtain ⟨e, he, hcommon⟩ := common_of_mem_figures h
  rw [hcommon, Ledger.sampled, he]
  cases k with
  | roundTrip => exact summarises_meanAndMax e.notes.roundTrips
  | jitter => exact summarises_meanAndMax e.notes.jitters

/-- The report gives mean and maximum of what its lines sampled during the samples. -/
def QualityReport.SumsUp (ts : List Taking) (r : QualityReport) : Prop :=
  ∀ f ∈ r.figures, ∀ k, Summarises (ts.flatMap (·.sampled f.1 k)) (f.2.summary k)

/-! ### Runs -/

namespace Meter

variable {c : Settings} {d : Host} {monitor : Monitor} {m : Meter}

/-- What is noted for a line is what it sampled since the last reported window, and every window
reported so far was summed up by its report. -/
theorem sampled_history (hm : Meter.new c d monitor = .ok m) (ops : List Op) :
    let ts := m.history ops
    (∀ line k, (m.run ops).measurement.ledger.sampled line k =
        (openWindow c ts).flatMap (·.sampled line k)) ∧
      List.Forall₂ QualityReport.SumsUp (closedWindows c ts) (ts.flatMap (·.reports c d)) := by
  obtain rfl := eq_of_new hm
  refine history_induction
    (P := fun ts before ↦
      (∀ line k, before.ledger.sampled line k = (openWindow c ts).flatMap (·.sampled line k)) ∧
        List.Forall₂ QualityReport.SumsUp (closedWindows c ts) (ts.flatMap (·.reports c d)))
    { settings := c, host := d, measurement := { monitor } } ⟨fun _ _ ↦ rfl, .nil⟩ ?_ ?_ ops
  · exact fun _ _ _ h ↦ h
  rintro ts t ⟨hnoted, hreports⟩
  have hsampled : ∀ line k, t.before.ledger.sampled line k ++ t.sampled line k =
      (openWindow c ts ++ [t]).flatMap (·.sampled line k) := by
    intro line k
    rw [List.flatMap_append, List.flatMap_singleton, hnoted]
  refine ⟨fun line k ↦ ?_, ?_⟩
  · rw [t.sampled_after, openWindow_concat, hsampled]
    split <;> rfl
  · rw [closedWindows_concat, List.flatMap_append, List.flatMap_singleton, Taking.reports_eq]
    split
    · refine List.rel_append hreports (.cons (fun f hf k ↦ ?_) .nil)
      rw [← hsampled, ← t.sampled_noted c]
      exact Window.summarises_of_mem_figures hf k
    · rwa [List.append_nil, List.append_nil]

/-- **Window samples are used once.** After any operations on a new meter, what is noted as sampled
on a line are the round trip times, or the jitters, that its reports gave since the sample that last
told a quality report, in order; a line that receives has no jitters. The quality reports told are
those of the closed windows, one each, in order, and the mean and maximum of each entry are those of
what its line sampled in the window, up to the sample that closed it. The closed windows and the
open one make up the samples taken, so each value counts in one window, also if its line is left out
of the report. -/
theorem samples_used_once (hm : Meter.new c d monitor = .ok m) (ops : List Op) :
    let ts := m.history ops
    let ledger := (m.run ops).measurement.ledger
    (∀ t ∈ ts, (t.pass c).closes = true ↔ t.reports c d ≠ []) ∧
      (∀ line k, ledger.sampled line k = (openWindow c ts).flatMap (·.sampled line k)) ∧
      (∀ line, line.direction = .receive → ledger.sampled line .jitter = []) ∧
      List.Forall₂ QualityReport.SumsUp (closedWindows c ts) (ts.flatMap (·.reports c d)) ∧
      (closedWindows c ts).flatten ++ openWindow c ts = ts := by
  intro ts ledger
  obtain ⟨hnoted, hreports⟩ := sampled_history hm ops
  refine ⟨fun t _ ↦ ?_, hnoted, fun line hreceive ↦ ?_, hreports, flatten_closedWindows_append c ts⟩
  · have hempty := Taking.isEmpty_reports (t := t) (c := c) (d := d)
    rw [Ne, ← List.isEmpty_iff, hempty]
    cases (t.pass c).closes <;> simp
  · have hnone : ∀ f, Sampled.jitter.of? line f = none := by
      intro f
      cases f <;> simp [Sampled.of?, Line.isSend, hreceive]
    rw [hnoted]
    refine List.flatMap_eq_nil_iff.2 fun t _ ↦ ?_
    rw [Taking.sampled]
    cases t.sample.snapshot.at? line with
    | none => rfl
    | some r => exact List.filterMap_eq_nil_iff.2 fun f _ ↦ hnone f

/-- The third of four samples tells a report: of round trips of 500 and 125 milliseconds the mean is
312.5, and the one jitter is mean and maximum. The camera is not requested, so the report leaves it
out, but what it sampled is used up with the rest. The fourth sample is of the next window. -/
theorem samples_of_two_windows :
    let c : Settings := { interval := 2, qualityInterval := 6 }
    let m : Meter := { settings := c, host := {} }
    let heard (requested : Bool) (trip jitter : Option Float) : MediumReport :=
      { senders := [{ requested := some requested
                      report := [.remoteInboundRtp { roundTripTime := trip, jitter }] }] }
    let ops : List Op := [.start 0, .timeout 0, .nextRequest,
      .read ⟨⟨1, 0⟩, 2, { audio := heard true (some 0.5) (some 0.25)
                          video := heard false (some 0.75) none }⟩,
      .timeout 2, .nextRequest,
      .read ⟨⟨1, 1⟩, 4, { video := heard false (some 0.25) none }⟩,
      .timeout 4, .nextRequest,
      .read ⟨⟨1, 2⟩, 6, { audio := heard true (some 0.125) none }⟩,
      .timeout 6, .nextRequest,
      .read ⟨⟨1, 3⟩, 8, { audio := heard true (some 0.0625) none
                          video := heard false none (some 0.5) }⟩]
    let ledger := (m.run ops).measurement.ledger
    Meter.new c {} = .ok m ∧
      (∃ r, (m.history ops).flatMap (·.reports c {}) = [r] ∧
        r.figures.map (·.1) = [.send .audio 0] ∧
        ∀ f ∈ r.figures, f.2.roundTrip = (312.5, 500.0) ∧ f.2.jitter = (250.0, 250.0)) ∧
      ledger.sampled (.send .audio 0) .roundTrip = [0.0625] ∧
      ledger.sampled (.send .video 0) .roundTrip = [] ∧
      ledger.sampled (.send .video 0) .jitter = [0.5] := by
  intro c m heard ops ledger
  have hm : Meter.new { interval := 2, qualityInterval := 6 } {} = .ok m := rfl
  obtain ⟨-, hnoted, -, hreports, -⟩ := samples_used_once hm ops
  have hone : ((m.history ops).flatMap (·.reports c {})).map (·.figures.map (·.1)) =
      [[.send .audio 0]] := by decide +kernel
  obtain ⟨r, hr, hlines⟩ := List.map_eq_singleton_iff.1 hone
  have hwhole : (closedWindows c (m.history ops)).map (fun ts ↦
      (ts.flatMap (·.sampled (.send .audio 0) .roundTrip),
        ts.flatMap (·.sampled (.send .audio 0) .jitter))) = [([0.5, 0.125], [0.25])] := by
    decide +kernel
  obtain ⟨ts, hts, hwindow⟩ := List.map_eq_singleton_iff.1 hwhole
  obtain ⟨htrips, hjitters⟩ := Prod.mk.inj hwindow
  rw [hr, hts] at hreports
  refine ⟨hm, ⟨r, hr, hlines, fun f hf ↦ ?_⟩, ?_⟩
  · have hline : f.1 = .send .audio 0 :=
      List.mem_singleton.1 (hlines ▸ List.mem_map_of_mem hf)
    have hsums := (List.forall₂_cons.1 hreports).1 f hf
    have hroundTrip := htrips ▸ hline ▸ hsums .roundTrip
    have hjitter := hjitters ▸ hline ▸ hsums .jitter
    exact ⟨(hroundTrip.unique (summarises_meanAndMax _)).trans (by decide +kernel),
      (hjitter.unique (summarises_meanAndMax _)).trans (by decide +kernel)⟩
  · simp only [ledger, hnoted]
    decide +kernel

end Meter

end MediaTelemetry
