import MediaTelemetry.Fragment.Basic
import MediaTelemetry.Ledger
import MediaTelemetry.Path

/-!
# What a report does to its line

A report mixes fragments of several classes. They take effect class by class: received streams and
capture sources first, then all sent streams together, then what the far end reports, so that
reported loss is always compared with the packets of the same report. Within a class they take
effect in report order.

The sent streams of one line are layers of one picture. Their counters add up, picture size and
frame rate are the largest of any layer, and what cannot be added is taken from the first layer
that has it.
-/

namespace MediaTelemetry

/-! ### Layers -/

/-- The sum of the values present, if there are any. -/
def sumPresent {α : Type} [Add α] (values : List (Option α)) : Option α :=
  values.foldl (fun acc v ↦ match acc, v with
    | some a, some b => some (a + b)
    | a, b => a.or b) none

/-- The largest of the values present, if there are any; of equal ones the first. -/
def maxPresent {α : Type} [LT α] [DecidableLT α] (values : List (Option α)) : Option α :=
  values.foldl (fun acc v ↦ match acc, v with
    | some a, some b => some (if a < b then b else a)
    | a, b => a.or b) none

/-- The first of the values present, if there are any. -/
def firstPresent {α : Type} (values : List (Option α)) : Option α := values.findSome? id

namespace OutboundRtp

/-- The sum of a 64-bit counter over layers that have it. -/
def total (layers : List OutboundRtp) (f : OutboundRtp → Option UInt64) : Option Nat :=
  sumPresent (layers.map fun l ↦ (f l).map UInt64.toNat)

/-- The sum of a 32-bit counter over layers that have it. -/
def total32 (layers : List OutboundRtp) (f : OutboundRtp → Option UInt32) : Option Nat :=
  sumPresent (layers.map fun l ↦ (f l).map UInt32.toNat)

/-- The largest value of a 32-bit size over layers that have it. -/
def largest (layers : List OutboundRtp) (f : OutboundRtp → Option UInt32) : Option Nat :=
  maxPresent (layers.map fun l ↦ (f l).map UInt32.toNat)

end OutboundRtp

/-! ### Send lines -/

namespace SendRecord

open OutboundRtp

/-- Takes in the layers of a report, of which there is at least one. -/
def takeLayers (s : SendRecord) (layers : List OutboundRtp) : SendRecord :=
  { s with
    ssrc := (layers.head?.bind (·.ssrc)).or s.ssrc
    bytes := (total layers (·.bytesSent)).getD s.bytes
    headerBytes := (total layers (·.headerBytesSent)).getD s.headerBytes
    packets := (total layers (·.packetsSent)).getD s.packets
    retransmittedBytes := (total layers (·.retransmittedBytesSent)).getD s.retransmittedBytes
    retransmittedPackets := (total layers (·.retransmittedPacketsSent)).getD s.retransmittedPackets
    nacks := (total32 layers (·.nackCount)).getD s.nacks
    plis := (total32 layers (·.pliCount)).getD s.plis
    firs := (total32 layers (·.firCount)).getD s.firs
    framesSent := (total layers (·.framesSent)).getD s.framesSent
    framesEncoded := (total layers (·.framesEncoded)).getD s.framesEncoded
    keyFrames := (total layers (·.keyFramesEncoded)).getD s.keyFrames
    frameWidth := (largest layers (·.frameWidth)).getD s.frameWidth
    frameHeight := (largest layers (·.frameHeight)).getD s.frameHeight
    framesPerSecond := (maxPresent (layers.map (·.framesPerSecond))).getD s.framesPerSecond
    targetBitrate := (sumPresent (layers.map (·.targetBitrate))).getD s.targetBitrate
    requestedBitrate := (firstPresent (layers.map (·.requestedBitrate))).getD s.requestedBitrate
    requestedFrameSize :=
      (firstPresent (layers.map (·.requestedFrameSize))).elim s.requestedFrameSize UInt32.toNat
    encoder := (layers.head?.bind (·.encoderImplementation)).or s.encoder
    limitation := (firstPresent (layers.map (·.qualityLimitationReason))).or s.limitation }

/-- Takes in a capture source. -/
def takeSource (s : SendRecord) (m : MediaSource) : SendRecord :=
  { s with
    audioLevel := m.audioLevel.getD s.audioLevel
    audioEnergy := m.totalAudioEnergy.getD s.audioEnergy
    samplesDuration := m.totalSamplesDuration.getD s.samplesDuration }

/-- Takes in what the far end reports. -/
def takeRemote (s : SendRecord) (r : RemoteInboundRtp) : SendRecord :=
  { s with
    loss := r.packetsLost.elim s.loss fun lost ↦ s.loss.report lost.toInt s.packets
    remoteJitter := r.jitter.getD s.remoteJitter
    roundTripTime := r.roundTripTime.getD s.roundTripTime
    fractionLost := r.fractionLost.getD s.fractionLost
    reports := r.reportsReceived.elim s.reports UInt64.toNat }

end SendRecord

/-! ### Receive lines -/

namespace ReceiveRecord

/-- Takes in a received stream. The loss ratio counts what was lost and received since the previous
report; a count that is not given has not moved. -/
def take (r : ReceiveRecord) (s : InboundRtp) : ReceiveRecord :=
  { r with
    lossRatio := RatioArithmetic.expectedShare
      (s.packetsLost.elim 0 fun n ↦ grownSigned n.toInt r.lost)
      (s.packetsReceived.elim 0 fun n ↦ grown n.toNat r.packets)
    ssrc := s.ssrc.or r.ssrc
    bytes := s.bytesReceived.elim r.bytes UInt64.toNat
    headerBytes := s.headerBytesReceived.elim r.headerBytes UInt64.toNat
    packets := s.packetsReceived.elim r.packets UInt64.toNat
    lost := s.packetsLost.elim r.lost Int64.toInt
    discarded := s.packetsDiscarded.elim r.discarded UInt64.toNat
    fecReceived := s.fecPacketsReceived.elim r.fecReceived UInt64.toNat
    fecDiscarded := s.fecPacketsDiscarded.elim r.fecDiscarded UInt64.toNat
    retransmittedBytes := s.retransmittedBytesReceived.elim r.retransmittedBytes UInt64.toNat
    retransmittedPackets := s.retransmittedPacketsReceived.elim r.retransmittedPackets UInt64.toNat
    jitter := s.jitter.getD r.jitter
    bufferDelay := s.jitterBufferDelay.getD r.bufferDelay
    bufferEmitted := s.jitterBufferEmittedCount.elim r.bufferEmitted UInt64.toNat
    nacks := s.nackCount.elim r.nacks UInt32.toNat
    plis := s.pliCount.elim r.plis UInt32.toNat
    firs := s.firCount.elim r.firs UInt32.toNat
    framesReceived := s.framesReceived.elim r.framesReceived UInt64.toNat
    framesDecoded := s.framesDecoded.elim r.framesDecoded UInt64.toNat
    framesDropped := s.framesDropped.elim r.framesDropped UInt64.toNat
    keyFrames := s.keyFramesDecoded.elim r.keyFrames UInt64.toNat
    frameWidth := s.frameWidth.elim r.frameWidth UInt32.toNat
    frameHeight := s.frameHeight.elim r.frameHeight UInt32.toNat
    framesPerSecond := s.framesPerSecond.getD r.framesPerSecond
    requestedBitrate := s.requestedBitrate.getD r.requestedBitrate
    decoder := s.decoderImplementation.or r.decoder
    audioLevel := s.audioLevel.getD r.audioLevel
    audioEnergy := s.totalAudioEnergy.getD r.audioEnergy
    samplesReceived := s.totalSamplesReceived.elim r.samplesReceived UInt64.toNat
    samplesDuration := s.totalSamplesDuration.getD r.samplesDuration
    concealedSamples := s.concealedSamples.elim r.concealedSamples UInt64.toNat
    concealmentEvents := s.concealmentEvents.elim r.concealmentEvents UInt64.toNat }

end ReceiveRecord

/-! ### Classes of fragments -/

namespace Fragment

/-- The sent streams among fragments. -/
def outbounds (report : List Fragment) : List OutboundRtp :=
  report.filterMap fun | .outboundRtp s => some s | _ => none

/-- The received streams among fragments. -/
def inbounds (report : List Fragment) : List InboundRtp :=
  report.filterMap fun | .inboundRtp s => some s | _ => none

/-- The capture sources among fragments. -/
def sources (report : List Fragment) : List MediaSource :=
  report.filterMap fun | .mediaSource s => some s | _ => none

/-- The candidate pairs among fragments. -/
def pairs (report : List Fragment) : List CandidatePair :=
  report.filterMap fun | .candidatePair s => some s | _ => none

/-- The local candidates among fragments. -/
def candidates (report : List Fragment) : List LocalCandidate :=
  report.filterMap fun | .localCandidate s => some s | _ => none

/-- What the far end reports about sent streams, among fragments. -/
def remoteInbounds (report : List Fragment) : List RemoteInboundRtp :=
  report.filterMap fun | .remoteInboundRtp s => some s | _ => none

/-- The round trip times, absent ones included, of what the far end reports either way. -/
def remoteRoundTrips (report : List Fragment) : List (Option Float) :=
  report.filterMap fun
    | .remoteInboundRtp s => some s.roundTripTime
    | .remoteOutboundRtp s => some s.roundTripTime
    | _ => none

/-- The fragment says something about a line: sent streams and the sources of sound about send
lines, received streams and the far end's sending reports about receive lines, the far end's
receiving reports about both. -/
def concerns (line : Line) : Fragment → Bool
  | .outboundRtp _ => line.isSend
  | .inboundRtp _ => !line.isSend
  | .mediaSource _ => line.isSend && line.medium.isAudio
  | .remoteInboundRtp _ => true
  | .remoteOutboundRtp _ => !line.isSend
  | _ => false

/-- The first path that a report's candidate pairs resolve to, among the candidates of the same
report. -/
def path? (report : List Fragment) : Option Path :=
  (pairs report).findSome? fun p ↦ p.path? (candidates report)

end Fragment

/-! ### Entries -/

namespace Entry

/-- Takes in a capture source. -/
def takeSource (e : Entry) (m : MediaSource) : Entry :=
  { e with send := some ((e.send.getD {}).takeSource m) }

/-- Takes in the layers of a report, if there are any. -/
def takeLayers (e : Entry) (layers : List OutboundRtp) : Entry :=
  if layers.isEmpty then e else { e with send := some ((e.send.getD {}).takeLayers layers) }

/-- Takes in what the far end reports about a sent stream. -/
def takeRemote (e : Entry) (r : RemoteInboundRtp) : Entry :=
  { e with
    send := some ((e.send.getD {}).takeRemote r)
    notes := { e.notes with
      jitters := e.notes.jitters ++ r.jitter.toList
      roundTrips := e.notes.roundTrips ++ r.roundTripTime.toList } }

/-- Takes in a received stream. -/
def takeInbound (e : Entry) (s : InboundRtp) : Entry :=
  { e with receive := some ((e.receive.getD {}).take s) }

/-- Takes in a round trip time that the far end reports about a received stream, if it gives one. -/
def takeRoundTrip (e : Entry) : Option Float → Entry
  | none => e
  | some t =>
    { e with
      receive := some { e.receive.getD {} with remoteRoundTripTime := t }
      notes := { e.notes with roundTrips := e.notes.roundTrips ++ [t] } }

/-- Takes in the fragments of a report that come before the far end's. -/
def takeLocal (e : Entry) (line : Line) (report : List Fragment) : Entry :=
  match line.direction with
  | .send =>
    let sources := if line.medium.isAudio then Fragment.sources report else []
    (sources.foldl takeSource e).takeLayers (Fragment.outbounds report)
  | .receive => (Fragment.inbounds report).foldl takeInbound e

/-- Takes in what the far end reports. -/
def takeFar (e : Entry) (line : Line) (report : List Fragment) : Entry :=
  match line.direction with
  | .send => (Fragment.remoteInbounds report).foldl takeRemote e
  | .receive => (Fragment.remoteRoundTrips report).foldl takeRoundTrip e

/-- Takes in a report as sample number `tick`. -/
def takeReport (e : Entry) (line : Line) (report : List Fragment) (tick : Nat) : Entry :=
  let e := (e.takeLocal line report).takeFar line report
  { e with notes := { e.notes with lastSeen := tick } }

end Entry

end MediaTelemetry
