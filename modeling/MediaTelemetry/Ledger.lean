import MediaTelemetry.Fragment.Streams
import MediaTelemetry.Json.Basic
import MediaTelemetry.KeyMap
import MediaTelemetry.Loss

/-!
# The ledger of lines

For every line ever reported, the last known values: a record of its own direction, and notes that
stay within the library. Lines are added and never removed; one that is not reported keeps its
values.
-/

namespace MediaTelemetry

/-- Last known values of a send line. -/
structure SendRecord where
  ssrc : Option UInt32 := none
  bytes : Nat := 0
  headerBytes : Nat := 0
  packets : Nat := 0
  retransmittedBytes : Nat := 0
  retransmittedPackets : Nat := 0
  nacks : Nat := 0
  plis : Nat := 0
  firs : Nat := 0
  framesSent : Nat := 0
  framesEncoded : Nat := 0
  keyFrames : Nat := 0
  frameWidth : Nat := 0
  frameHeight : Nat := 0
  framesPerSecond : Float := 0.0
  targetBitrate : Float := 0.0
  requestedBitrate : Float := 0.0
  requestedFrameSize : Nat := 0
  encoder : Option String := none
  limitation : Option String := none
  audioLevel : Float := 0.0
  audioEnergy : Float := 0.0
  samplesDuration : Float := 0.0
  /-- What the far end reports lost. -/
  loss : UplinkLoss Float := .none
  /-- Jitter at the far end, in seconds. -/
  remoteJitter : Float := 0.0
  /-- Seconds. -/
  roundTripTime : Float := 0.0
  fractionLost : Float := 0.0
  reports : Nat := 0
  /-- Packets sent since the previous sample. -/
  packetsPerTick : Nat := 0
  /-- Bits per second since the previous sample. -/
  bitrate : Float := 0.0
deriving Inhabited

/-- Last known values of a receive line. -/
structure ReceiveRecord where
  ssrc : Option UInt32 := none
  bytes : Nat := 0
  headerBytes : Nat := 0
  packets : Nat := 0
  lost : Int := 0
  discarded : Nat := 0
  fecReceived : Nat := 0
  fecDiscarded : Nat := 0
  retransmittedBytes : Nat := 0
  retransmittedPackets : Nat := 0
  /-- Seconds. -/
  jitter : Float := 0.0
  bufferDelay : Float := 0.0
  bufferEmitted : Nat := 0
  nacks : Nat := 0
  plis : Nat := 0
  firs : Nat := 0
  framesReceived : Nat := 0
  framesDecoded : Nat := 0
  framesDropped : Nat := 0
  keyFrames : Nat := 0
  frameWidth : Nat := 0
  frameHeight : Nat := 0
  framesPerSecond : Float := 0.0
  requestedBitrate : Float := 0.0
  decoder : Option String := none
  audioLevel : Float := 0.0
  audioEnergy : Float := 0.0
  samplesReceived : Nat := 0
  samplesDuration : Float := 0.0
  concealedSamples : Nat := 0
  concealmentEvents : Nat := 0
  /-- Seconds, as the far end reports it. -/
  remoteRoundTripTime : Float := 0.0
  /-- Packets received since the previous sample. -/
  packetsPerTick : Nat := 0
  /-- Bits per second since the previous sample. -/
  bitrate : Float := 0.0
  /-- Share of the expected packets that the last report found lost. -/
  lossRatio : Float := 0.0
  /-- Milliseconds that each sample emitted since the previous sample spent in the jitter buffer. -/
  bufferDelayPerTick : Float := 0.0
deriving Inhabited

/-- What is noted about a line beside its figures. -/
structure Notes where
  /-- The number of the last sample that carried the line. -/
  lastSeen : Nat := 0
  requested : Option Bool := none
  /-- When `requested` last changed, in milliseconds of the clock. -/
  requestedAt : Option Nat := none
  trackLabel : Option String := none
  activeSpeaker : Bool := false
  /-- Missing packets have been remarked on, and no look at the line has found any since. -/
  packetsSilent : Bool := false
  /-- Missing frames have been remarked on, and no look at the line has found any since. -/
  framesSilent : Bool := false
  /-- Round trip times sampled in the open quality window, in seconds. -/
  roundTrips : List Float := []
  /-- Jitters sampled in the open quality window, in seconds. -/
  jitters : List Float := []
deriving Inhabited

namespace Notes

/-- The request changed no longer than `recency` ago. -/
def requestedRecently (n : Notes) (now recency : Nat) : Bool :=
  n.requestedAt.any fun since ↦ now - since ≤ recency

/-- The stream belongs into a quality report: it is requested, or its request changed recently. -/
def isRequestedAt (n : Notes) (now recency : Nat) : Bool :=
  n.requested == some true || n.requestedRecently now recency

/-- The stream takes part in start and stop detection: only one that is known not to be requested,
and for some time, does not. -/
def isActiveAt (n : Notes) (now recency : Nat) : Bool :=
  n.requested != some false || n.requestedRecently now recency

/-- The notes at the start of a quality window. -/
def clearSamples (n : Notes) : Notes := { n with roundTrips := [], jitters := [] }

end Notes

/-- What is known about one line. -/
structure Entry where
  send : Option SendRecord := none
  receive : Option ReceiveRecord := none
  notes : Notes := {}
deriving Inhabited

namespace Entry

/-- A new line has a record of its own direction. -/
def new : Direction → Entry
  | .send => { send := some {} }
  | .receive => { receive := some {} }

/-- The cumulative counters of a line. -/
def counters (e : Entry) : Counters where
  send := e.send.elim {} fun s ↦
    { packets := s.packets
      bytes := s.bytes
      frames := s.framesSent
      keyFrames := s.keyFrames
      nacks := s.nacks
      plis := s.plis
      lost := s.loss.total }
  receive := e.receive.elim {} fun r ↦
    { packets := r.packets
      bytes := r.bytes
      lost := r.lost
      fecReceived := r.fecReceived
      fecDiscarded := r.fecDiscarded
      framesReceived := r.framesReceived
      framesDecoded := r.framesDecoded
      framesDropped := r.framesDropped
      keyFrames := r.keyFrames
      bufferDelay := r.bufferDelay
      bufferEmitted := r.bufferEmitted }

end Entry

/-- The lines ever reported, in line order. -/
abbrev Ledger := KeyMap Line Entry

namespace Ledger

/-- What is known about a line; a line that is not listed is new. -/
def entry (ledger : Ledger) (line : Line) : Entry := (ledger.get? line).getD (.new line.direction)

/-- Changes what is known about a listed line. -/
def modify (ledger : Ledger) (line : Line) (f : Entry → Entry) : Ledger :=
  match ledger.get? line with
  | some e => ledger.insert line (f e)
  | none => ledger

end Ledger

end MediaTelemetry
