import MediaTelemetry.Proofs.Figures
import MediaTelemetry.Proofs.Records

/-!
# Complete reports

Figures that a report leaves out keep their last known values, so in general the counters of a line
depend on all its reports. A complete report gives every counter of its line
(`LineReport.IsComplete`), and after it the counters depend on that report alone
(`counters_takeReport`): whatever was known before, each counter is the sum over the layers of a
sent stream, or the last value that is given of a received stream or by the far end.
-/

namespace MediaTelemetry

/-! ### What a report gives -/

/-- Some element gives the value. -/
def Given {α β : Type} (l : List α) (value : α → Option β) : Prop := ∃ a ∈ l, (value a).isSome

/-- The fragments give every counter of a send line. -/
structure Fragment.CompleteSent (report : List Fragment) : Prop where
  packets : Given (outbounds report) (·.packetsSent)
  bytes : Given (outbounds report) (·.bytesSent)
  frames : Given (outbounds report) (·.framesSent)
  keyFrames : Given (outbounds report) (·.keyFramesEncoded)
  nacks : Given (outbounds report) (·.nackCount)
  plis : Given (outbounds report) (·.pliCount)
  lost : Given (remoteInbounds report) (·.packetsLost)

/-- The fragments give every counter of a receive line. -/
structure Fragment.CompleteReceived (report : List Fragment) : Prop where
  packets : Given (inbounds report) (·.packetsReceived)
  bytes : Given (inbounds report) (·.bytesReceived)
  lost : Given (inbounds report) (·.packetsLost)
  fecReceived : Given (inbounds report) (·.fecPacketsReceived)
  fecDiscarded : Given (inbounds report) (·.fecPacketsDiscarded)
  framesReceived : Given (inbounds report) (·.framesReceived)
  framesDecoded : Given (inbounds report) (·.framesDecoded)
  framesDropped : Given (inbounds report) (·.framesDropped)
  keyFrames : Given (inbounds report) (·.keyFramesDecoded)
  bufferDelay : Given (inbounds report) (·.jitterBufferDelay)
  bufferEmitted : Given (inbounds report) (·.jitterBufferEmittedCount)

/-- The report gives every counter of its line. -/
def LineReport.IsComplete (r : LineReport) (line : Line) : Prop :=
  match line.direction with
  | .send => Fragment.CompleteSent r.report
  | .receive => Fragment.CompleteReceived r.report

/-! ### Values that do not depend on earlier ones -/

/-- What the steps of a walk take over where it is given does not depend on the start of the walk,
if it is given at all. -/
theorem foldl_given {α σ β γ : Type} {f : σ → α → σ} {p : σ → γ} {v : α → Option β} {g : β → γ}
    (hstep : ∀ s a, p (f s a) = (v a).elim (p s) g) {l : List α} (hl : Given l v) (s s' : σ) :
    p (l.foldl f s) = p (l.foldl f s') := by
  have hlatest := foldl_latest (fun s a ↦ (hstep s a).trans (elim_eq_getD (v a) (p s) g)) l
  have hsome : (l.filterMap fun a ↦ (v a).map g).getLast?.isSome := by
    obtain ⟨a, ha, hgiven⟩ := hl
    obtain ⟨b, hb⟩ := Option.isSome_iff_exists.1 hgiven
    have hmem : g b ∈ l.filterMap fun a ↦ (v a).map g :=
      List.mem_filterMap.2 ⟨a, ha, by rw [hb, Option.map_some]⟩
    exact List.getLast?_isSome.2 (List.ne_nil_of_mem hmem)
  obtain ⟨c, hc⟩ := Option.isSome_iff_exists.1 hsome
  rw [hlatest, hlatest, hc, Option.getD_some, Option.getD_some]

theorem isSome_sumPresent {values : List (Option Nat)} (h : ∃ v ∈ values, v.isSome) :
    (sumPresent values).isSome := by
  obtain ⟨v, hv, hsome⟩ := h
  obtain ⟨n, rfl⟩ := Option.isSome_iff_exists.1 hsome
  have hmem : n ∈ values.filterMap id := List.mem_filterMap.2 ⟨some n, hv, rfl⟩
  have hne : ¬ (values.filterMap id).isEmpty = true :=
    fun hempty ↦ List.ne_nil_of_mem hmem (List.isEmpty_iff.1 hempty)
  rw [sumPresent_eq, sum?, if_neg hne, Option.isSome_some]

theorem Given.map {α β γ : Type} {l : List α} {value : α → Option β} (h : Given l value)
    (f : β → γ) : Given l fun a ↦ (value a).map f := by
  obtain ⟨a, ha, hgiven⟩ := h
  exact ⟨a, ha, by rwa [Option.isSome_map]⟩

namespace OutboundRtp

variable {layers : List OutboundRtp}

theorem isSome_total {f : OutboundRtp → Option UInt64} (h : Given layers f) :
    (total layers f).isSome := by
  obtain ⟨l, hl, hgiven⟩ := h.map UInt64.toNat
  exact isSome_sumPresent ⟨_, List.mem_map_of_mem hl, hgiven⟩

theorem isSome_total32 {f : OutboundRtp → Option UInt32} (h : Given layers f) :
    (total32 layers f).isSome := by
  obtain ⟨l, hl, hgiven⟩ := h.map UInt32.toNat
  exact isSome_sumPresent ⟨_, List.mem_map_of_mem hl, hgiven⟩

end OutboundRtp

/-! ### Counters after one fragment -/

attribute [ext] SendCounters ReceiveCounters Counters

namespace Entry

open OutboundRtp

variable (e : Entry)

theorem counters_takeRoundTrip (t : Option Float) : (e.takeRoundTrip t).counters = e.counters := by
  obtain ⟨send, _ | r, notes⟩ := e <;> cases t <;> rfl

/-- The layers of a report set all counters of a sent stream but its loss. -/
theorem counters_takeLayers {layers : List OutboundRtp} (h : layers.isEmpty = false) :
    (e.takeLayers layers).counters =
      { e.counters with
        send :=
          { packets := (total layers (·.packetsSent)).getD e.counters.send.packets
            bytes := (total layers (·.bytesSent)).getD e.counters.send.bytes
            frames := (total layers (·.framesSent)).getD e.counters.send.frames
            keyFrames := (total layers (·.keyFramesEncoded)).getD e.counters.send.keyFrames
            nacks := (total32 layers (·.nackCount)).getD e.counters.send.nacks
            plis := (total32 layers (·.pliCount)).getD e.counters.send.plis
            lost := e.counters.send.lost } } := by
  rw [takeLayers, h, if_neg Bool.false_ne_true]
  obtain ⟨_ | s, receive, notes⟩ := e <;> rfl

/-- The far end's report sets the loss of a sent stream, and no other counter. -/
theorem counters_takeRemote (r : RemoteInboundRtp) :
    (e.takeRemote r).counters =
      { e.counters with
        send := { e.counters.send with
          lost := r.packetsLost.elim e.counters.send.lost Int64.toInt } } := by
  rw [takeRemote, counters, SendRecord.takeRemote]
  obtain ⟨_ | s, receive, notes⟩ := e <;> cases r.packetsLost <;> rfl

/-- A received stream sets the counters that it gives. -/
theorem counters_takeInbound (s : InboundRtp) :
    (e.takeInbound s).counters =
      { e.counters with
        receive :=
          { packets := s.packetsReceived.elim e.counters.receive.packets UInt64.toNat
            bytes := s.bytesReceived.elim e.counters.receive.bytes UInt64.toNat
            lost := s.packetsLost.elim e.counters.receive.lost Int64.toInt
            fecReceived := s.fecPacketsReceived.elim e.counters.receive.fecReceived UInt64.toNat
            fecDiscarded := s.fecPacketsDiscarded.elim e.counters.receive.fecDiscarded UInt64.toNat
            framesReceived := s.framesReceived.elim e.counters.receive.framesReceived UInt64.toNat
            framesDecoded := s.framesDecoded.elim e.counters.receive.framesDecoded UInt64.toNat
            framesDropped := s.framesDropped.elim e.counters.receive.framesDropped UInt64.toNat
            keyFrames := s.keyFramesDecoded.elim e.counters.receive.keyFrames UInt64.toNat
            bufferDelay := s.jitterBufferDelay.getD e.counters.receive.bufferDelay
            bufferEmitted :=
              s.jitterBufferEmittedCount.elim e.counters.receive.bufferEmitted
                UInt64.toNat } } := by
  obtain ⟨send, _ | r, notes⟩ := e <;> rfl

end Entry

/-! ### Counters after a report -/

namespace LineReport

open OutboundRtp

variable {r : LineReport} {line : Line} {e e' : Entry}

/-- The counters of a sent stream that its layers set are those of a complete report. -/
theorem takeLayers_complete (h : Fragment.CompleteSent r.report) (e e' : Entry) :
    ({ (e.takeLayers (Fragment.outbounds r.report)).counters.send with lost := 0 } :
        SendCounters) =
      { (e'.takeLayers (Fragment.outbounds r.report)).counters.send with lost := 0 } := by
  have hlayers : (Fragment.outbounds r.report).isEmpty = false := by
    obtain ⟨l, hl, -⟩ := h.packets
    exact List.isEmpty_eq_false_iff_exists_mem.2 ⟨l, hl⟩
  obtain ⟨packets, hpackets⟩ := Option.isSome_iff_exists.1 (isSome_total h.packets)
  obtain ⟨bytes, hbytes⟩ := Option.isSome_iff_exists.1 (isSome_total h.bytes)
  obtain ⟨frames, hframes⟩ := Option.isSome_iff_exists.1 (isSome_total h.frames)
  obtain ⟨keyFrames, hkeyFrames⟩ := Option.isSome_iff_exists.1 (isSome_total h.keyFrames)
  obtain ⟨nacks, hnacks⟩ := Option.isSome_iff_exists.1 (isSome_total32 h.nacks)
  obtain ⟨plis, hplis⟩ := Option.isSome_iff_exists.1 (isSome_total32 h.plis)
  rw [e.counters_takeLayers hlayers, e'.counters_takeLayers hlayers, hpackets, hbytes, hframes,
    hkeyFrames, hnacks, hplis]
  rfl

theorem takeReport_sent (h : Fragment.CompleteSent r.report) (hd : line.direction = .send)
    (tick tick' : Nat) :
    (e.takeReport line r.report tick).counters.send =
      (e'.takeReport line r.report tick').counters.send := by
  have hfar : ∀ (e : Entry) (tick : Nat), (e.takeReport line r.report tick).counters =
      ((Fragment.remoteInbounds r.report).foldl Entry.takeRemote
        (e.takeLocal line r.report)).counters := by
    intro e tick
    show ((e.takeLocal line r.report).takeFar line r.report).counters = _
    rw [Entry.takeFar, hd]
  have hkept := foldl_kept
    (p := fun e : Entry ↦ ({ e.counters.send with lost := 0 } : SendCounters))
    (fun e r ↦ by rw [e.counters_takeRemote r]) (Fragment.remoteInbounds r.report)
  have hlocal : ({ (e.takeLocal line r.report).counters.send with lost := 0 } : SendCounters) =
      { (e'.takeLocal line r.report).counters.send with lost := 0 } := by
    rw [Entry.takeLocal, Entry.takeLocal, hd]
    exact takeLayers_complete h _ _
  -- the far end's reports come last, and only the loss is theirs
  have hrest := (hkept (e.takeLocal line r.report)).trans
    (hlocal.trans (hkept (e'.takeLocal line r.report)).symm)
  have hlost := foldl_given (p := fun e : Entry ↦ e.counters.send.lost)
    (fun e r ↦ by rw [e.counters_takeRemote r]) h.lost (e.takeLocal line r.report)
    (e'.takeLocal line r.report)
  rw [hfar, hfar]
  exact SendCounters.ext (congrArg (·.packets) hrest) (congrArg (·.bytes) hrest)
    (congrArg (·.frames) hrest) (congrArg (·.keyFrames) hrest) (congrArg (·.nacks) hrest)
    (congrArg (·.plis) hrest) hlost

theorem takeReport_received (h : Fragment.CompleteReceived r.report)
    (hd : line.direction = .receive) (tick tick' : Nat) :
    (e.takeReport line r.report tick).counters.receive =
      (e'.takeReport line r.report tick').counters.receive := by
  have hfar : ∀ (e : Entry) (tick : Nat), (e.takeReport line r.report tick).counters =
      ((Fragment.inbounds r.report).foldl Entry.takeInbound e).counters := by
    intro e tick
    show ((e.takeLocal line r.report).takeFar line r.report).counters = _
    rw [Entry.takeFar, hd, Entry.takeLocal, hd]
    exact foldl_kept (p := Entry.counters) Entry.counters_takeRoundTrip _ _
  have hgiven : ∀ {β γ : Type} {p : ReceiveCounters → γ} {v : InboundRtp → Option β} {g : β → γ},
      Given (Fragment.inbounds r.report) v →
      (∀ (e : Entry) s, p (e.takeInbound s).counters.receive =
        (v s).elim (p e.counters.receive) g) →
      p ((Fragment.inbounds r.report).foldl Entry.takeInbound e).counters.receive =
        p ((Fragment.inbounds r.report).foldl Entry.takeInbound e').counters.receive := by
    intro β γ p v g hv hstep
    exact foldl_given (p := fun e : Entry ↦ p e.counters.receive) hstep hv e e'
  rw [hfar, hfar]
  apply ReceiveCounters.ext
  · exact hgiven (p := ReceiveCounters.packets) h.packets fun e s ↦ by
      rw [e.counters_takeInbound s]
  · exact hgiven (p := ReceiveCounters.bytes) h.bytes fun e s ↦ by
      rw [e.counters_takeInbound s]
  · exact hgiven (p := ReceiveCounters.lost) h.lost fun e s ↦ by
      rw [e.counters_takeInbound s]
  · exact hgiven (p := ReceiveCounters.fecReceived) h.fecReceived fun e s ↦ by
      rw [e.counters_takeInbound s]
  · exact hgiven (p := ReceiveCounters.fecDiscarded) h.fecDiscarded fun e s ↦ by
      rw [e.counters_takeInbound s]
  · exact hgiven (p := ReceiveCounters.framesReceived) h.framesReceived fun e s ↦ by
      rw [e.counters_takeInbound s]
  · exact hgiven (p := ReceiveCounters.framesDecoded) h.framesDecoded fun e s ↦ by
      rw [e.counters_takeInbound s]
  · exact hgiven (p := ReceiveCounters.framesDropped) h.framesDropped fun e s ↦ by
      rw [e.counters_takeInbound s]
  · exact hgiven (p := ReceiveCounters.keyFrames) h.keyFrames fun e s ↦ by
      rw [e.counters_takeInbound s]
  · refine hgiven (p := ReceiveCounters.bufferDelay) (g := id) h.bufferDelay fun e s ↦ ?_
    rw [e.counters_takeInbound s]
    cases s.jitterBufferDelay <;> rfl
  · exact hgiven (p := ReceiveCounters.bufferEmitted) h.bufferEmitted fun e s ↦ by
      rw [e.counters_takeInbound s]

/-- **After a complete report the counters of a line depend on that report alone.** -/
theorem counters_takeReport (h : r.IsComplete line) (he : e.IsOf line.direction)
    (he' : e'.IsOf line.direction) (tick tick' : Nat) :
    (e.takeReport line r.report tick).counters = (e'.takeReport line r.report tick').counters := by
  have hown := he.takeReport r.report tick
  have hown' := he'.takeReport r.report tick'
  rw [IsComplete] at h
  cases hd : line.direction with
  | send =>
    rw [hd] at h hown hown'
    refine Counters.ext (takeReport_sent h hd tick tick') ?_
    rw [Entry.counters, Entry.counters, hown.2, hown'.2]
  | receive =>
    rw [hd] at h hown hown'
    refine Counters.ext ?_ (takeReport_received h hd tick tick')
    rw [Entry.counters, Entry.counters, hown.1, hown'.1]

/-- A complete report says something about its line. -/
theorem IsComplete.concerns (h : r.IsComplete line) : r.concerns line = true := by
  rw [LineReport.concerns, List.any_eq_true]
  rw [IsComplete] at h
  cases hd : line.direction with
  | send =>
    rw [hd] at h
    obtain ⟨s, hs, -⟩ := h.packets
    obtain ⟨fragment, hfragment, hmatch⟩ := List.mem_filterMap.1 hs
    refine ⟨fragment, hfragment, ?_⟩
    cases fragment with
    | outboundRtp s => rw [Fragment.concerns, Line.isSend, hd]; rfl
    | _ => exact absurd hmatch (by simp)
  | receive =>
    rw [hd] at h
    obtain ⟨s, hs, -⟩ := h.packets
    obtain ⟨fragment, hfragment, hmatch⟩ := List.mem_filterMap.1 hs
    refine ⟨fragment, hfragment, ?_⟩
    cases fragment with
    | inboundRtp s => rw [Fragment.concerns, Line.isSend, hd]; rfl
    | _ => exact absurd hmatch (by simp)

end LineReport

end MediaTelemetry
