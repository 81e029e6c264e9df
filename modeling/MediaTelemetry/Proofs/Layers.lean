import Mathlib.Algebra.GroupWithZero.Nat
import Mathlib.Algebra.Ring.Int.Defs
import MediaTelemetry.Proofs.Figures
import MediaTelemetry.Proofs.Verdicts

/-!
# Packets and losses of layers

A picture may be sent in several layers, each a stream of its own with its own counters. The packets
of the layers of a report are added up; the losses are not. Each report of the far end is set
against the one before it, whatever layer that was about, so a line keeps its losses as if the
layers were successive reports of a single stream (`UplinkBasis.take_ofLayers`).
With one layer the growth is that since the previous report, and nothing if the report is read
again. With several it is what sets the last layer apart from the one before it, however often the
report is read (`Ledger.losses_of_last_layer`).
-/

namespace MediaTelemetry

/-! ### Reports of layers -/

/-- The counts of one layer. -/
structure Layer where
  sent : UInt64
  /-- As the far end reports it. -/
  lost : Int64
deriving DecidableEq, Inhabited

/-- The report has one sent stream and one report of the far end for each layer, and both give their
counts. The layers are in the order of the far end's reports; that of the streams may differ. -/
structure Fragment.OfLayers (report : List Fragment) (layers : List Layer) : Prop where
  sent : ∃ sent : List UInt64, (outbounds report).map (·.packetsSent) = sent.map some ∧
    sent.Perm (layers.map (·.sent))
  lost : (remoteInbounds report).map (·.packetsLost) = layers.map fun l ↦ some l.lost

/-- Takes in reports of one line, one after the other, each with its sample number. -/
def Ledger.takeReports (ledger : Ledger) (line : Line) (reports : List (List Fragment × Nat)) :
    Ledger :=
  reports.foldl (fun ledger r ↦ ledger.takeReport line r.1 r.2) ledger

/-! ### One report -/

/-- After a walk through losses the total is the last of them. -/
theorem UplinkLoss.total_walk {ρ : Type} [RatioArithmetic ρ] (l : UplinkLoss ρ) (sent : Nat)
    (lost : List Int) :
    (lost.foldl (·.report · sent) l).total = lost.getLast?.getD l.total := by
  induction lost using List.reverseRecOn with
  | nil => rfl
  | append_singleton lost last _ =>
    rw [List.foldl_append, List.getLast?_concat]
    rfl

/-- The last loss is set against the one before it, or against the total if it is the only one. -/
theorem UplinkLoss.recent_walk_concat {ρ : Type} [RatioArithmetic ρ] (l : UplinkLoss ρ) (sent : Nat)
    (lost : List Int) (last : Int) :
    ((lost ++ [last]).foldl (·.report · sent) l).recent =
      grownSigned last (lost.getLast?.getD l.total) := by
  rw [← l.total_walk sent, List.foldl_append]
  rfl

namespace UplinkBasis

variable {b : UplinkBasis} {line : Line} {report : List Fragment} {layers : List Layer}

/-- The far end's reports leave the packets alone, and the losses that they give are walked
through. -/
theorem foldl_takeRemote (remotes : List RemoteInboundRtp) (b : UplinkBasis) :
    (remotes.foldl takeRemote b).packets = b.packets ∧
      (remotes.foldl takeRemote b).loss =
        ((remotes.filterMap (·.packetsLost)).map Int64.toInt).foldl (·.report · b.packets)
          b.loss := by
  induction remotes generalizing b with
  | nil => exact ⟨rfl, rfl⟩
  | cons r remotes ih =>
    obtain ⟨hpackets, hloss⟩ := ih (b.takeRemote r)
    rw [List.foldl_cons, hpackets, hloss, takeRemote]
    cases hr : r.packetsLost with
    | none => exact ⟨rfl, by rw [List.filterMap_cons_none hr]; rfl⟩
    | some lost => exact ⟨rfl, by rw [List.filterMap_cons_some hr]; rfl⟩

/-- The losses that the far end gives are set against the packets of the same report. -/
theorem take_send (hsend : line.direction = .send) (b : UplinkBasis) (r : LineReport) :
    (b.take line r).packets =
        (OutboundRtp.total (Fragment.outbounds r.report) (·.packetsSent)).getD b.packets ∧
      (b.take line r).loss =
        (((Fragment.remoteInbounds r.report).filterMap (·.packetsLost)).map Int64.toInt).foldl
          (·.report · (b.take line r).packets) b.loss := by
  have hlayers : ∀ layers, (b.takeLayers layers).packets =
        (OutboundRtp.total layers (·.packetsSent)).getD b.packets ∧
      (b.takeLayers layers).loss = b.loss := by
    intro layers
    rw [takeLayers]
    split
    · rename_i hempty
      rw [List.isEmpty_iff.1 hempty]
      exact ⟨rfl, rfl⟩
    · exact ⟨rfl, rfl⟩
  obtain ⟨hpackets, hloss⟩ := hlayers (Fragment.outbounds r.report)
  obtain ⟨hpackets', hloss'⟩ := foldl_takeRemote (Fragment.remoteInbounds r.report)
    (b.takeLayers (Fragment.outbounds r.report))
  have htake : b.take line r = (Fragment.remoteInbounds r.report).foldl takeRemote
      (b.takeLayers (Fragment.outbounds r.report)) := by
    rw [take, hsend]
  rw [htake, hpackets', hloss', hpackets, hloss]
  exact ⟨rfl, rfl⟩

/-- A report of layers adds up their packets and walks through their losses. -/
theorem take_ofLayers (hsend : line.direction = .send) (h : Fragment.OfLayers report layers)
    (hne : layers ≠ []) :
    (b.take line (.sender { report })).packets = (layers.map (·.sent.toNat)).sum ∧
      (b.take line (.sender { report })).loss =
        (layers.map (·.lost.toInt)).foldl (·.report · (layers.map (·.sent.toNat)).sum) b.loss := by
  obtain ⟨sent, hsent, hperm⟩ := h.sent
  have hsum : (sent.map UInt64.toNat).sum = (layers.map (·.sent.toNat)).sum := by
    have := (hperm.map UInt64.toNat).sum_nat
    simpa [Function.comp_def] using this
  have htotal : OutboundRtp.total (Fragment.outbounds report) (·.packetsSent) =
      some (layers.map (·.sent.toNat)).sum := by
    have hnat : (Fragment.outbounds report).map (fun l ↦ l.packetsSent.map UInt64.toNat) =
        (sent.map UInt64.toNat).map some := by
      have := congrArg (List.map (Option.map UInt64.toNat)) hsent
      simpa [Function.comp_def] using this
    rw [OutboundRtp.total, hnat, ← hsum]
    cases sent with
    | nil => exact absurd (List.map_eq_nil_iff.1 (List.nil_perm.1 hperm)) hne
    | cons s sent => rw [sumPresent_eq, List.filterMap_map]; simp [sum?]
  have hlosses : ((Fragment.remoteInbounds report).filterMap (·.packetsLost)).map Int64.toInt =
      layers.map (·.lost.toInt) := by
    have := congrArg (fun losses ↦ (losses.filterMap id).map Int64.toInt) h.lost
    simpa [List.filterMap_map, Function.comp_def] using this
  obtain ⟨hpackets, hloss⟩ := b.take_send hsend (.sender { report })
  have hadded : (b.take line (.sender { report })).packets = (layers.map (·.sent.toNat)).sum :=
    hpackets.trans (congrArg (·.getD b.packets) htotal)
  exact ⟨hadded, by rw [hloss, hadded, ← hlosses]; rfl⟩

end UplinkBasis

namespace Ledger

variable (ledger : Ledger) {line : Line}

/-- A report on a line does to the basis of its scores what it would do in a snapshot. -/
theorem uplinkBasis_takeReport (line : Line) (report : List Fragment) (tick : Nat) :
    (ledger.takeReport line report tick).uplinkBasis line =
      (ledger.uplinkBasis line).take line (.sender { report }) := by
  rw [takeReport]
  split
  · have hentry : (ledger.entry line).uplinkBasis = ledger.uplinkBasis line := by
      rw [entry, uplinkBasis]
      cases ledger.get? line with
      | none => cases line.direction <;> rfl
      | some e => rfl
    rw [uplinkBasis, KeyMap.get?_insert_self, Option.getD_some]
    exact (Entry.uplinkBasis_takeReport _ line (.sender { report }) tick).trans (by rw [hentry])
  · rename_i hconcerns
    exact (LineReport.take_of_not_concerns (r := .sender { report }) hconcerns _).symm

theorem takeReports_concat (reports : List (List Fragment × Nat)) (r : List Fragment × Nat) :
    ledger.takeReports line (reports ++ [r]) =
      (ledger.takeReports line reports).takeReport line r.1 r.2 := by
  rw [takeReports, List.foldl_append]
  rfl

/-- The total is the last loss of the last report. -/
theorem total_takeReports (hsend : line.direction = .send) {reports : List (List Fragment × Nat)}
    {layers : List (List Layer)}
    (h : List.Forall₂ (fun r ls ↦ Fragment.OfLayers r.1 ls ∧ ls ≠ []) reports layers) :
    ((ledger.takeReports line reports).uplinkBasis line).loss.total =
      (layers.flatten.getLast?.map (·.lost.toInt)).getD (ledger.uplinkBasis line).loss.total := by
  induction h generalizing ledger with
  | nil => rfl
  | @cons r ls reports layers hr _ ih =>
    obtain ⟨hlayers, hne⟩ := hr
    have hstep := (UplinkBasis.take_ofLayers (b := ledger.uplinkBasis line) hsend hlayers hne).2
    have hrest := ih (ledger.takeReport line r.1 r.2)
    rw [ledger.uplinkBasis_takeReport, hstep, UplinkLoss.total_walk] at hrest
    refine hrest.trans ?_
    rw [List.flatten_cons, List.getLast?_append, List.getLast?_map]
    cases layers.flatten.getLast? <;> rfl

/-- **The loss of layers is that of the last one.** Reports of layers on a send line are taken one
after the other. The packets are the sum over the layers of the last report, also when it is taken
once more. The loss is that of its last layer alone. What the loss grew by counts, for a report of
one layer, from the last layer of the report before, and it is zero when the same report is taken
once more; for a report of several layers it counts from the last layer but one, each time. -/
theorem losses_of_last_layer (hsend : line.direction = .send)
    {reports : List (List Fragment × Nat)} {layers : List (List Layer)}
    (h : List.Forall₂ (fun r ls ↦ Fragment.OfLayers r.1 ls ∧ ls ≠ []) reports layers)
    {report : List Fragment} {ls : List Layer} (hls : Fragment.OfLayers report ls) (hne : ls ≠ [])
    (tick tick' : Nat) :
    let known := (ledger.uplinkBasis line).loss.total
    let once := (ledger.takeReports line (reports ++ [(report, tick)])).uplinkBasis line
    let twice :=
      (ledger.takeReports line (reports ++ [(report, tick), (report, tick')])).uplinkBasis line
    once.packets = (ls.map (·.sent.toNat)).sum ∧ twice.packets = once.packets ∧
      (∀ front l, ls = front ++ [l] →
        once.loss.total = l.lost.toInt ∧ twice.loss.total = l.lost.toInt) ∧
      (∀ l, ls = [l] →
        once.loss.recent = grownSigned l.lost.toInt
          ((layers.flatten.getLast?.map (·.lost.toInt)).getD known) ∧
        twice.loss.recent = 0) ∧
      ∀ front l' l, ls = front ++ [l', l] →
        once.loss.recent = grownSigned l.lost.toInt l'.lost.toInt ∧
          twice.loss.recent = once.loss.recent := by
  intro known once twice
  -- what is known before the report, of which only the total matters
  set before := (ledger.takeReports line reports).uplinkBasis line with hbefore
  have htotal : before.loss.total =
      (layers.flatten.getLast?.map (·.lost.toInt)).getD known := ledger.total_takeReports hsend h
  have honce : once = before.take line (.sender { report }) := by
    show (ledger.takeReports line (reports ++ [(report, tick)])).uplinkBasis line = _
    rw [takeReports_concat, uplinkBasis_takeReport]
  have htwice : twice = once.take line (.sender { report }) := by
    show (ledger.takeReports line (reports ++ [(report, tick), (report, tick')])).uplinkBasis
      line = _
    rw [List.append_cons, takeReports_concat, uplinkBasis_takeReport]
  obtain ⟨hpackets, hloss⟩ := UplinkBasis.take_ofLayers (b := before) hsend hls hne
  obtain ⟨hpackets', hloss'⟩ := UplinkBasis.take_ofLayers (b := once) hsend hls hne
  rw [← honce] at hpackets hloss
  rw [← htwice] at hpackets' hloss'
  have hlast : ∀ front l, ls = front ++ [l] →
      once.loss.total = l.lost.toInt ∧ twice.loss.total = l.lost.toInt := by
    rintro front l rfl
    rw [hloss', hloss, UplinkLoss.total_walk, UplinkLoss.total_walk, List.map_append,
      List.map_singleton, List.getLast?_concat]
    exact ⟨rfl, rfl⟩
  refine ⟨hpackets, hpackets'.trans hpackets.symm, hlast, ?_, ?_⟩
  · rintro l rfl
    have hrecent : once.loss.recent = grownSigned l.lost.toInt before.loss.total := by
      rw [hloss]
      exact before.loss.recent_walk_concat _ [] _
    have hrecent' : twice.loss.recent = grownSigned l.lost.toInt once.loss.total := by
      rw [hloss']
      exact once.loss.recent_walk_concat _ [] _
    rw [(hlast [] l rfl).1] at hrecent'
    exact ⟨by rw [hrecent, htotal], by rw [hrecent', grownSigned]; simp⟩
  · rintro front l' l rfl
    have hsplit : (front ++ [l', l]).map (·.lost.toInt) =
        (front ++ [l']).map (·.lost.toInt) ++ [l.lost.toInt] := by simp
    have hfront : ∀ known : Int,
        ((front ++ [l']).map (·.lost.toInt)).getLast?.getD known = l'.lost.toInt := by simp
    rw [hloss', hloss, hsplit, UplinkLoss.recent_walk_concat, UplinkLoss.recent_walk_concat, hfront,
      hfront]
    exact ⟨rfl, rfl⟩

/-- A report of one layer and then a report of two: only the last layer's losses are kept. Taken
once more, the second report makes the same growth again. -/
theorem losses_of_two_layers :
    let line : Line := .send .video 0
    let report (layers : List Layer) : List Fragment :=
      layers.map (fun l ↦ .outboundRtp { packetsSent := some l.sent }) ++
        layers.map fun l ↦ .remoteInboundRtp { packetsLost := some l.lost }
    let one : List Layer := [⟨50, 2⟩]
    let two : List Layer := [⟨100, 1⟩, ⟨400, 5⟩]
    let once := (Ledger.takeReports ∅ line [(report one, 1), (report two, 2)]).uplinkBasis line
    let twice := (Ledger.takeReports ∅ line
      [(report one, 1), (report two, 2), (report two, 3)]).uplinkBasis line
    Fragment.OfLayers (report one) one ∧ Fragment.OfLayers (report two) two ∧
      once.packets = 500 ∧ once.loss.total = 5 ∧ once.loss.recent = 4 ∧
        twice.loss.total = 5 ∧ twice.loss.recent = 4 := by
  intro line report one two once twice
  have hone : Fragment.OfLayers (report one) one := ⟨⟨[50], rfl, .refl _⟩, rfl⟩
  have htwo : Fragment.OfLayers (report two) two := ⟨⟨[100, 400], rfl, .refl _⟩, rfl⟩
  have hsend : line.direction = .send := rfl
  have hfirst : List.Forall₂ (fun r ls ↦ Fragment.OfLayers r.1 ls ∧ ls ≠ []) [(report one, 1)]
      [one] := .cons ⟨hone, by simp [one]⟩ .nil
  obtain ⟨hpackets, -, hlast, -, hseveral⟩ :=
    losses_of_last_layer ∅ hsend hfirst htwo (by simp [two]) 2 3
  obtain ⟨htotal, htotal'⟩ := hlast [⟨100, 1⟩] ⟨400, 5⟩ rfl
  obtain ⟨hrecent, hrecent'⟩ := hseveral [] ⟨100, 1⟩ ⟨400, 5⟩ rfl
  exact ⟨hone, htwo, hpackets, htotal, hrecent, htotal', hrecent'.trans hrecent⟩

/-- **The losses of layers do not add up like their packets.** Two layers that lost 10 and 3 packets
make a total of 3, and the report makes losses grow also when it is taken once more. -/
theorem losses_not_added :
    let line : Line := .send .video 0
    let report : List Fragment := [.outboundRtp { packetsSent := some 100 },
      .outboundRtp { packetsSent := some 400 }, .remoteInboundRtp { packetsLost := some 10 },
      .remoteInboundRtp { packetsLost := some 3 }]
    let layers : List Layer := [⟨100, 10⟩, ⟨400, 3⟩]
    let once := (Ledger.takeReports ∅ line [(report, 1)]).uplinkBasis line
    let twice := (Ledger.takeReports ∅ line [(report, 1), (report, 2)]).uplinkBasis line
    Fragment.OfLayers report layers ∧ (∀ l ∈ layers, 0 ≤ l.lost) ∧
      once.packets = (layers.map (·.sent.toNat)).sum ∧
      once.loss.total ≠ (layers.map (·.lost.toInt)).sum ∧ twice.loss.recent ≠ 0 := by
  intro line report layers once twice
  exact ⟨⟨⟨[100, 400], rfl, .refl _⟩, rfl⟩, by decide +kernel, by decide +kernel,
    by decide +kernel, by decide +kernel⟩

end Ledger

end MediaTelemetry
