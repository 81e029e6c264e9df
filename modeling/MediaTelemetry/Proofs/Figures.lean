import Mathlib.Algebra.GroupWithZero.Nat
import Mathlib.Data.List.Induction
import MediaTelemetry.Proofs.Sweep

/-!
# The figures of streams

What a record keeps of the streams of its line it keeps figure by figure. A `Figure` says what a
stream gives, what the values given in one report amount to, and where the record keeps the amount:
for received streams the last value, for sent streams the sum, the largest or the first one. The
tables `ReceiveRecord.figures` and `SendRecord.figures` list them.

A report leaves in the record of its line the amount of each figure, or what was there if no stream
gives the figure, and it leaves every other line alone (`Ledger.figures_taken`). That rests on one
law per kind of step: `takeInbound` and `takeLayers` set the figures, and what else a report says
sets none of them.
-/

namespace MediaTelemetry

/-! ### Amounts -/

/-- The sum of values, if there are any. -/
def sum? (values : List Nat) : Option Nat := if values.isEmpty then none else some values.sum

theorem sumPresent_eq (values : List (Option Nat)) :
    sumPresent values = sum? (values.filterMap id) := by
  induction values using List.reverseRecOn with
  | nil => rfl
  | append_singleton values last ih =>
    rw [sumPresent] at ih ⊢
    rw [List.foldl_append, List.filterMap_append, ih]
    cases last with
    | none => simp [sum?]
    | some v => cases values.filterMap id <;> simp [sum?, Nat.add_assoc]

theorem maxPresent_eq (values : List (Option Nat)) :
    maxPresent values = (values.filterMap id).max? := by
  induction values using List.reverseRecOn with
  | nil => rfl
  | append_singleton values last ih =>
    rw [maxPresent] at ih ⊢
    rw [List.foldl_append, List.filterMap_append, ih]
    cases last with
    | none => simp
    | some v =>
      cases values.filterMap id with
      | nil => rfl
      | cons a rest =>
        show _ = ((a :: rest) ++ [v]).max?
        rw [List.cons_append, List.max?_cons', List.max?_cons', List.foldl_append]
        generalize rest.foldl max a = largest
        show some (if largest < v then v else largest) = some (max largest v)
        congr 1
        split <;> omega

theorem firstPresent_eq {α : Type} (values : List (Option α)) :
    firstPresent values = (values.filterMap id).head? :=
  (List.head?_filterMap ..).symm

theorem elim_eq_getD {α β : Type} (o : Option α) (b : β) (f : α → β) :
    o.elim b f = (o.map f).getD b := by
  cases o <;> rfl

theorem or_eq_getD {α : Type} (o o' : Option α) : o.or o' = (o.map some).getD o' := by
  cases o <;> rfl

/-! ### Figures -/

/-- A figure of streams `σ` that records `ρ` keep. -/
structure Figure (σ ρ : Type) where
  {Value : Type}
  /-- What a stream gives. -/
  given : σ → Option Value
  /-- What the values given in one report amount to. -/
  amount : List Value → Option Value
  /-- Where a record keeps the amount. -/
  kept : ρ → Value
  /-- Where no value is given there is no amount. -/
  amount_nil : amount [] = none

namespace Figure

variable {σ ρ α : Type}

/-- A figure of which the last value counts. -/
def latest (given : σ → Option α) (kept : ρ → α) : Figure σ ρ :=
  ⟨given, List.getLast?, kept, rfl⟩

/-- A figure of which the first value counts. -/
def first (given : σ → Option α) (kept : ρ → α) : Figure σ ρ := ⟨given, List.head?, kept, rfl⟩

/-- A figure of which the values add up. -/
def total (given : σ → Option Nat) (kept : ρ → Nat) : Figure σ ρ := ⟨given, sum?, kept, rfl⟩

/-- A figure of which the largest value counts. -/
def largest (given : σ → Option Nat) (kept : ρ → Nat) : Figure σ ρ :=
  ⟨given, List.max?, kept, rfl⟩

/-- The record `after` keeps of the figure what the streams of a report give, or else what the
record `before` kept. -/
def Taken (f : Figure σ ρ) (streams : List σ) (before after : ρ) : Prop :=
  f.kept after = (f.amount (streams.filterMap f.given)).getD (f.kept before)

/-- Where there are no streams, what was kept stays. -/
theorem taken_nil (f : Figure σ ρ) (r : ρ) : f.Taken [] r r := by
  rw [Taken, List.filterMap_nil, f.amount_nil, Option.getD_none]

end Figure

open Figure in
/-- The figures of received streams. -/
def ReceiveRecord.figures : List (Figure InboundRtp ReceiveRecord) := [
  latest (·.ssrc.map some) (·.ssrc),
  latest (·.bytesReceived.map UInt64.toNat) (·.bytes),
  latest (·.headerBytesReceived.map UInt64.toNat) (·.headerBytes),
  latest (·.packetsReceived.map UInt64.toNat) (·.packets),
  latest (·.packetsLost.map Int64.toInt) (·.lost),
  latest (·.packetsDiscarded.map UInt64.toNat) (·.discarded),
  latest (·.fecPacketsReceived.map UInt64.toNat) (·.fecReceived),
  latest (·.fecPacketsDiscarded.map UInt64.toNat) (·.fecDiscarded),
  latest (·.retransmittedBytesReceived.map UInt64.toNat) (·.retransmittedBytes),
  latest (·.retransmittedPacketsReceived.map UInt64.toNat) (·.retransmittedPackets),
  latest (·.jitter) (·.jitter),
  latest (·.jitterBufferDelay) (·.bufferDelay),
  latest (·.jitterBufferEmittedCount.map UInt64.toNat) (·.bufferEmitted),
  latest (·.nackCount.map UInt32.toNat) (·.nacks),
  latest (·.pliCount.map UInt32.toNat) (·.plis),
  latest (·.firCount.map UInt32.toNat) (·.firs),
  latest (·.framesReceived.map UInt64.toNat) (·.framesReceived),
  latest (·.framesDecoded.map UInt64.toNat) (·.framesDecoded),
  latest (·.framesDropped.map UInt64.toNat) (·.framesDropped),
  latest (·.keyFramesDecoded.map UInt64.toNat) (·.keyFrames),
  latest (·.frameWidth.map UInt32.toNat) (·.frameWidth),
  latest (·.frameHeight.map UInt32.toNat) (·.frameHeight),
  latest (·.framesPerSecond) (·.framesPerSecond),
  latest (·.requestedBitrate) (·.requestedBitrate),
  latest (·.decoderImplementation.map some) (·.decoder),
  latest (·.audioLevel) (·.audioLevel),
  latest (·.totalAudioEnergy) (·.audioEnergy),
  latest (·.totalSamplesReceived.map UInt64.toNat) (·.samplesReceived),
  latest (·.totalSamplesDuration) (·.samplesDuration),
  latest (·.concealedSamples.map UInt64.toNat) (·.concealedSamples),
  latest (·.concealmentEvents.map UInt64.toNat) (·.concealmentEvents)]

/-- The record with all that is no figure of received streams taken from another one: what is worked
out from the figures, and what the far end reports. -/
def ReceiveRecord.completedBy (r other : ReceiveRecord) : ReceiveRecord :=
  { r with
    remoteRoundTripTime := other.remoteRoundTripTime
    packetsPerTick := other.packetsPerTick
    bitrate := other.bitrate
    lossRatio := other.lossRatio
    bufferDelayPerTick := other.bufferDelayPerTick }

/-- The table is complete: records with the same figures differ in nothing else. -/
theorem ReceiveRecord.eq_of_figures {r r' : ReceiveRecord}
    (h : ∀ f ∈ figures, f.kept r' = f.kept r) : r' = r.completedBy r' := by
  obtain ⟨⟩ := r
  obtain ⟨⟩ := r'
  simpa [figures, Figure.latest, completedBy] using h

open Figure in
/-- The figures of sent streams that several layers make up together. -/
def SendRecord.figures : List (Figure OutboundRtp SendRecord) := [
  total (·.bytesSent.map UInt64.toNat) (·.bytes),
  total (·.headerBytesSent.map UInt64.toNat) (·.headerBytes),
  total (·.packetsSent.map UInt64.toNat) (·.packets),
  total (·.retransmittedBytesSent.map UInt64.toNat) (·.retransmittedBytes),
  total (·.retransmittedPacketsSent.map UInt64.toNat) (·.retransmittedPackets),
  total (·.nackCount.map UInt32.toNat) (·.nacks),
  total (·.pliCount.map UInt32.toNat) (·.plis),
  total (·.firCount.map UInt32.toNat) (·.firs),
  total (·.framesSent.map UInt64.toNat) (·.framesSent),
  total (·.framesEncoded.map UInt64.toNat) (·.framesEncoded),
  total (·.keyFramesEncoded.map UInt64.toNat) (·.keyFrames),
  largest (·.frameWidth.map UInt32.toNat) (·.frameWidth),
  largest (·.frameHeight.map UInt32.toNat) (·.frameHeight),
  first (·.requestedBitrate) (·.requestedBitrate),
  first (·.requestedFrameSize.map UInt32.toNat) (·.requestedFrameSize),
  first (·.qualityLimitationReason.map some) (·.limitation)]

/-! ### Steps -/

namespace ReceiveRecord

/-- A received stream sets each figure that it gives. -/
theorem kept_take (r : ReceiveRecord) (s : InboundRtp) :
    ∀ f ∈ figures, f.kept (r.take s) = (f.given s).getD (f.kept r) := by
  -- one goal for each figure of the table, of one of three forms
  simp only [figures, List.forall_mem_cons]
  and_intros <;> first | rfl | exact or_eq_getD _ _ | exact elim_eq_getD _ _ _ | exact nofun

/-- Received streams set each figure that one of them gives, the last one last. -/
theorem taken_foldl_take (r : ReceiveRecord) (streams : List InboundRtp) :
    ∀ f ∈ figures, f.Taken streams r (streams.foldl take r) := by
  intro f hf
  have hlatest : ∀ f ∈ figures, ∀ values, f.amount values = values.getLast? := by
    simp only [figures, List.forall_mem_cons]
    and_intros <;> first | exact fun _ ↦ rfl | exact nofun
  rw [Figure.Taken, hlatest f hf]
  exact foldl_latest (fun r s ↦ kept_take r s f hf) streams r

/-- A round trip time sets none of the figures. -/
theorem kept_roundTrip (r : ReceiveRecord) (t : Float) :
    ∀ f ∈ figures, f.kept { r with remoteRoundTripTime := t } = f.kept r := by
  simp only [figures, List.forall_mem_cons]
  and_intros <;> first | rfl | exact nofun

end ReceiveRecord

namespace SendRecord

/-- The layers of a report set each figure that one of them gives. -/
theorem kept_takeLayers (s : SendRecord) (layers : List OutboundRtp) :
    ∀ f ∈ figures, f.Taken layers s (s.takeLayers layers) := by
  -- what layers are merged into is read off the values that are present
  have htotal : ∀ (g : OutboundRtp → Option Nat) (n : Nat),
      (sumPresent (layers.map g)).getD n = (sum? (layers.filterMap g)).getD n := by
    intro g n
    rw [sumPresent_eq, List.filterMap_map]
    rfl
  have hlargest : ∀ (g : OutboundRtp → Option Nat) (n : Nat),
      (maxPresent (layers.map g)).getD n = (layers.filterMap g).max?.getD n := by
    intro g n
    rw [maxPresent_eq, List.filterMap_map]
    rfl
  have hfirst : ∀ {α : Type} (g : OutboundRtp → Option α) (a : α),
      (firstPresent (layers.map g)).getD a = (layers.filterMap g).head?.getD a := by
    intro α g a
    rw [firstPresent_eq, List.filterMap_map]
    rfl
  have hmap : ∀ {α β : Type} (g : OutboundRtp → Option α) (h : α → β) (b : β),
      ((firstPresent (layers.map g)).map h).getD b =
        (layers.filterMap fun l ↦ (g l).map h).head?.getD b := by
    intro α β g h b
    rw [firstPresent_eq, List.filterMap_map, ← List.head?_map, List.map_filterMap]
    rfl
  simp only [figures, List.forall_mem_cons]
  and_intros <;> first
    | exact htotal _ _
    | exact hlargest _ _
    | exact hfirst _ _
    | exact (elim_eq_getD _ _ _).trans (hmap _ _ _)
    | exact (or_eq_getD _ _).trans (hmap _ _ _)
    | exact nofun

/-- Capture sources set none of the figures. -/
theorem kept_takeSource (s : SendRecord) (m : MediaSource) :
    ∀ f ∈ figures, f.kept (s.takeSource m) = f.kept s := by
  simp only [figures, List.forall_mem_cons]
  and_intros <;> first | rfl | exact nofun

/-- The far end sets none of the figures. -/
theorem kept_takeRemote (s : SendRecord) (r : RemoteInboundRtp) :
    ∀ f ∈ figures, f.kept (s.takeRemote r) = f.kept s := by
  simp only [figures, List.forall_mem_cons]
  and_intros <;> first | rfl | exact nofun

end SendRecord

/-! ### Reports -/

namespace Entry

variable (e : Entry) {line : Line} (report : List Fragment) (tick : Nat)

/-- On a receive line each figure is taken from the received streams of the report. -/
theorem figures_receive (h : line.direction = .receive) :
    ∀ f ∈ ReceiveRecord.figures, f.Taken (Fragment.inbounds report) (e.receive.getD {})
      ((e.takeReport line report tick).receive.getD {}) := by
  intro f hf
  have hlocal : (e.takeLocal line report).receive.getD {} =
      (Fragment.inbounds report).foldl ReceiveRecord.take (e.receive.getD {}) := by
    rw [takeLocal, h]
    exact (List.foldl_hom (fun e : Entry ↦ e.receive.getD {}) fun _ _ ↦ rfl).symm
  have hfar : f.kept ((e.takeReport line report tick).receive.getD {}) =
      f.kept ((e.takeLocal line report).receive.getD {}) := by
    show f.kept (((e.takeLocal line report).takeFar line report).receive.getD {}) = _
    rw [takeFar, h]
    refine foldl_kept (f := takeRoundTrip) (p := fun e ↦ f.kept (e.receive.getD {}))
      (fun e trip ↦ ?_) _ _
    cases trip with
    | none => rfl
    | some t => exact ReceiveRecord.kept_roundTrip _ t f hf
  rw [Figure.Taken, hfar, hlocal]
  exact ReceiveRecord.taken_foldl_take _ _ f hf

/-- On a send line each figure is taken from the layers of the report. -/
theorem figures_send (h : line.direction = .send) :
    ∀ f ∈ SendRecord.figures, f.Taken (Fragment.outbounds report) (e.send.getD {})
      ((e.takeReport line report tick).send.getD {}) := by
  intro f hf
  have hsources : ∀ sources : List MediaSource,
      f.kept ((sources.foldl takeSource e).send.getD {}) = f.kept (e.send.getD {}) := fun sources ↦
    foldl_kept (f := takeSource) (p := fun e ↦ f.kept (e.send.getD {}))
      (fun _ m ↦ SendRecord.kept_takeSource _ m f hf) sources e
  have hlayers : ∀ (e : Entry) (layers : List OutboundRtp),
      f.Taken layers (e.send.getD {}) ((e.takeLayers layers).send.getD {}) := by
    intro e layers
    rw [takeLayers]
    split
    · rename_i hempty
      rw [List.isEmpty_iff.1 hempty]
      exact f.taken_nil _
    · exact SendRecord.kept_takeLayers _ layers f hf
  have hfar : f.kept ((e.takeReport line report tick).send.getD {}) =
      f.kept ((e.takeLocal line report).send.getD {}) := by
    show f.kept (((e.takeLocal line report).takeFar line report).send.getD {}) = _
    rw [takeFar, h]
    exact foldl_kept (f := takeRemote) (p := fun e ↦ f.kept (e.send.getD {}))
      (fun _ r ↦ SendRecord.kept_takeRemote _ r f hf) _ _
  rw [Figure.Taken, hfar, takeLocal, h]
  refine (hlayers _ (Fragment.outbounds report)).trans ?_
  rw [hsources]

end Entry

theorem Ledger.entry_takeReport (ledger : Ledger) (line : Line) (report : List Fragment)
    (tick : Nat) :
    (ledger.takeReport line report tick).entry line =
      if report.any (·.concerns line) then (ledger.entry line).takeReport line report tick
      else ledger.entry line := by
  rw [takeReport]
  split
  · rw [entry, KeyMap.get?_insert_self, Option.getD_some]
  · rfl

/-- **A report is taken figure by figure.** On a receive line the record keeps of each figure the
last value that a received stream of the report gives, and this makes up the whole record, but for
what is worked out from it and what the far end reports. On a send line it keeps what the values of
the layers amount to: counters add up, of sizes the largest counts, and of what is asked of the
sender and what limits it the first. A figure that no stream gives stays as it was. What is known
about any other line does not change. -/
theorem Ledger.figures_taken (ledger : Ledger) (line : Line) (report : List Fragment)
    (tick : Nat) :
    let before := ledger.entry line
    let after := (ledger.takeReport line report tick).entry line
    (line.direction = .receive →
      (∀ f ∈ ReceiveRecord.figures,
        f.Taken (Fragment.inbounds report) (before.receive.getD {}) (after.receive.getD {})) ∧
      ∀ r, (∀ f ∈ ReceiveRecord.figures,
          f.Taken (Fragment.inbounds report) (before.receive.getD {}) r) →
        after.receive.getD {} = r.completedBy (after.receive.getD {})) ∧
      (line.direction = .send → ∀ f ∈ SendRecord.figures,
        f.Taken (Fragment.outbounds report) (before.send.getD {}) (after.send.getD {})) ∧
      ∀ other, line ≠ other →
        (ledger.takeReport line report tick).get? other = ledger.get? other := by
  intro before after
  have hafter : after = if report.any (·.concerns line) then before.takeReport line report tick
      else before := ledger.entry_takeReport line report tick
  refine ⟨fun h ↦ ?_, fun h f hf ↦ ?_, fun other hne ↦ ledger.get?_takeReport_of_ne hne report tick⟩
  · have hreceived : ∀ f ∈ ReceiveRecord.figures, f.Taken (Fragment.inbounds report)
        (before.receive.getD {}) (after.receive.getD {}) := by
      intro f hf
      rw [hafter]
      split
      · exact before.figures_receive report tick h f hf
      · rename_i hconcerns
        rw [Fragment.inbounds_of_not_concerns hconcerns h]
        exact f.taken_nil _
    exact ⟨hreceived, fun r hr ↦
      ReceiveRecord.eq_of_figures fun f hf ↦ (hreceived f hf).trans (hr f hf).symm⟩
  · rw [hafter]
    split
    · exact before.figures_send report tick h f hf
    · rename_i hconcerns
      rw [Fragment.outbounds_of_not_concerns hconcerns h]
      exact f.taken_nil _

/-- Two layers, of which the second says less, and a received stream, on a send line and on a
receive line. -/
theorem Ledger.figures_of_two_layers :
    let layer : OutboundRtp :=
      { packetsSent := some 100, frameWidth := some 640, frameHeight := some 360 }
    let layer' : OutboundRtp :=
      { packetsSent := some 400, frameWidth := some 320, qualityLimitationReason := some "cpu" }
    let report : List Fragment := [
      .remoteInboundRtp { packetsLost := some 3 }, .outboundRtp layer,
      .inboundRtp { packetsLost := some (-2), framesReceived := some 7 }, .outboundRtp layer',
      .inboundRtp { packetsLost := some 5 }]
    let after (line : Line) : Entry := (Ledger.takeReport ∅ line report 1).entry line
    let sent := (after (.send .video 0)).send.getD {}
    let received := (after (.receive .video 0)).receive.getD {}
    sent.packets = 500 ∧ sent.plis = 0 ∧ sent.frameWidth = 640 ∧ sent.frameHeight = 360 ∧
      sent.limitation = some "cpu" ∧
      received.lost = 5 ∧ received.framesReceived = 7 ∧ received.packets = 0 := by
  intro layer layer' report after sent received
  obtain ⟨-, hsent, -⟩ := figures_taken ∅ (.send .video 0) report 1
  obtain ⟨hreceived, -, -⟩ := figures_taken ∅ (.receive .video 0) report 1
  have htable := hsent rfl
  obtain ⟨htable', -⟩ := hreceived rfl
  simp only [SendRecord.figures, List.forall_mem_cons] at htable
  simp only [ReceiveRecord.figures, List.forall_mem_cons] at htable'
  obtain ⟨-, -, hpackets, -, -, -, hplis, -, -, -, -, hwidth, hheight, -, -, hlimitation, -⟩ :=
    htable
  obtain ⟨-, -, -, hpackets', hlost, -, -, -, -, -, -, -, -, -, -, -, hframes, -⟩ := htable'
  exact ⟨hpackets, hplis, hwidth, hheight, hlimitation, hlost, hframes, hpackets'⟩

end MediaTelemetry
