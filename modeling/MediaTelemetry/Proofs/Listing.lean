import MediaTelemetry.Proofs.Records

/-!
# What a quality report says about a line

A quality report is four lists, each a walk over the ledger that keeps the lines of one direction
and one kind of medium. A line belongs to one of them only, so what the report says about it is
found by look-up: it is listed once, if it was seen during the window and is requested, and its
packet figure is the growth of its packet count since the window's start (`packets_report`).
-/

namespace MediaTelemetry

namespace QualityReport

/-- The lines listed, each with its rates. -/
def rates (r : QualityReport) : List (Line × Rates) :=
  (r.audioTransmit ++ r.videoTransmit).map (fun e ↦ (e.line, e.common.rates)) ++
    (r.audioReceive ++ r.videoReceive).map (fun e ↦ (e.line, e.common.rates))

/-- The packet figures that the report has for a line. -/
def packets (r : QualityReport) (line : Line) : List Nat :=
  r.rates.filterMap fun (listed, rates) ↦ if listed = line then some rates.packets else none

end QualityReport

namespace Window

variable (w : Window) (line : Line) (e : Entry)

/-- The packet figure of a line is the growth of its packet count. -/
theorem packets_rates : (w.rates line e).packets = e.packetGrowth line w.start := by
  rw [rates, Growth.rates, Entry.growth, Entry.packetGrowth, Counters.packets, Counters.packets]
  cases line.direction <;> rfl

/-- The packet figures for a line that one walk over the ledger gives: at most one, that of the
line's own entry. -/
theorem packets_walk {φ ρ : Type} (listed : Line × Entry → Bool) (record : Entry → Option ρ)
    (entry : Line → Entry → ρ → QualityEntry φ) (hline : ∀ l e r, (entry l e r).line = l)
    (hrates : ∀ l e r, (entry l e r).common.rates = w.rates l e) (ledger : Ledger) :
    ((ledger.entries.filterMap fun l ↦
          if listed l then (record l.2).map (entry l.1 l.2) else none).map fun q ↦
        (q.line, q.common.rates)).filterMap
          (fun (l, rates) ↦ if l = line then some rates.packets else none) =
      ((ledger.get? line).bind fun e ↦
        if listed (line, e) then (record e).map fun _ ↦ e.packetGrowth line w.start
        else none).toList := by
  rw [List.filterMap_map, List.filterMap_filterMap, KeyMap.filterMap_entries_at line]
  · congr 2
    funext e
    split
    · cases record e with
      | none => rfl
      | some r => simp [hline, hrates, packets_rates]
    · rfl
  · intro a hne
    dsimp only
    split
    · cases record a.2 with
      | none => rfl
      | some r => simp [hline, hne]
    · rfl

/-- **A report has one packet figure for each line it lists**, and none for others. -/
theorem packets_report (ledger : Ledger)
    (hown : ∀ e ∈ ledger.get? line, e.IsOf line.direction) :
    (w.report ledger).packets line =
      (((ledger.get? line).filter w.lists).map fun e ↦ e.packetGrowth line w.start).toList := by
  have htransmit := fun audio ↦ w.packets_walk line
    (fun l ↦ l.1.isSend && l.1.medium.isAudio == audio && w.lists l.2) (·.send) w.transmitEntry
    (fun _ _ _ ↦ rfl) (fun _ _ _ ↦ rfl) ledger
  have hreceive := fun audio ↦ w.packets_walk line
    (fun l ↦ !l.1.isSend && l.1.medium.isAudio == audio && w.lists l.2) (·.receive) w.receiveEntry
    (fun _ _ _ ↦ rfl) (fun _ _ _ ↦ rfl) ledger
  rw [QualityReport.packets, QualityReport.rates, List.map_append, List.map_append,
    List.filterMap_append, List.filterMap_append, List.filterMap_append]
  unfold report transmit? receive?
  dsimp only
  rw [htransmit, htransmit, hreceive, hreceive]
  cases h : ledger.get? line with
  | none => rfl
  | some e =>
    have hrecord := hown e h
    -- the line's direction and kind of medium leave one of the four lists
    cases hd : line.direction with
    | send =>
      rw [hd] at hrecord
      obtain ⟨r, hr⟩ := Option.isSome_iff_exists.1 hrecord.1
      cases hlists : w.lists e <;> cases haudio : line.medium.isAudio <;>
        simp [Line.isSend, hd, hr, hlists, haudio, Option.filter]
    | receive =>
      rw [hd] at hrecord
      obtain ⟨r, hr⟩ := Option.isSome_iff_exists.1 hrecord.2
      cases hlists : w.lists e <;> cases haudio : line.medium.isAudio <;>
        simp [Line.isSend, hd, hr, hlists, haudio, Option.filter]

end Window

/-! ### The reports told -/

/-- The quality report that a notice is, if it is one. -/
def Notice.report? : Notice → Option QualityReport
  | .quality r => some r
  | _ => none

namespace Taking

variable (t : Taking) (c : Settings) (d : Host) (line : Line)

/-- The quality reports that the sample tells. -/
def reports : List QualityReport := (t.told c d).filterMap Notice.report?

/-- The packet figures that the sample tells for a line. -/
def packets : List Nat := (t.reports c d).flatMap (QualityReport.packets · line)

/-- A sample that closes a window tells one report, that of the window, and others tell none. -/
theorem reports_eq :
    t.reports c d =
      if (t.pass c).closes then
        [(t.before.qualityWindow c d (t.pass c)).report (t.pass c).noted]
      else [] := by
  have hverdicts : (t.pass c).verdicts.filterMap (fun v ↦ (Notice.uplink v).report?) = [] :=
    List.filterMap_eq_nil_iff.2 fun _ _ ↦ rfl
  have hflows : (t.before.flows.changes (t.pass c).live).filterMap
      (fun a ↦ (Notice.flow a.1 a.2).report?) = [] :=
    List.filterMap_eq_nil_iff.2 fun _ _ ↦ rfl
  rw [reports, filterMap_told, hverdicts, hflows, List.nil_append, List.nil_append,
    Measurement.report?]
  split <;> rfl

/-- The sample tells a packet figure for a line if it closes a window that lists it. -/
theorem packets_eq (hown : t.before.OwnRecords) :
    t.packets c d line =
      if (t.pass c).closes then
        ((((t.pass c).noted.get? line).filter (t.before.qualityWindow c d (t.pass c)).lists).map
          fun e ↦ e.packetGrowth line t.before.reported).toList
      else [] := by
  rw [packets, reports_eq]
  split
  · rw [List.flatMap_singleton, Window.packets_report]
    · rfl
    · exact hown.rateAndNote
  · rfl

end Taking

end MediaTelemetry
