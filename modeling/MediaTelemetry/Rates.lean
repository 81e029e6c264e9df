import MediaTelemetry.Counters
import MediaTelemetry.Span

/-!
# Rates over a span

What a line's growth amounts to per second, and which shares of it were lost. All arithmetic is in
doubles, in the order written here. A span of zero has rate zero.
-/

namespace MediaTelemetry

/-- Growth per second. -/
def perSecond (growth : Nat) (span : Span) : Float :=
  if span.seconds > 0.0 then Float.ofNat growth / span.seconds else 0.0

/-- The span from a mark taken at `mark` to a sample taken at `now`. Without a mark, or when the
clock did not move forward, `fallback` is assumed. -/
def elapsedSince (mark : Option Nat) (now : Nat) (fallback : Span) : Span :=
  match mark with
  | some start => if start < now then ⟨now - start⟩ else fallback
  | none => fallback

/-- Frames per second to the nearest whole number, halves away from zero, at most `2 ^ 32 - 1`. -/
def frameRate (frames : Nat) (span : Span) : Nat :=
  (perSecond frames span).round.toUInt32.toNat

/-- Bits per second; the bit count stops at the largest of 64 bits. -/
def bitrate (bytes : Nat) (span : Span) : Float :=
  perSecond (min (bytes * 8) (UInt64.size - 1)) span

/-- Percentage of the sent packets that the far end reports lost. -/
def remoteLossPercent (lost sent : Nat) : Float :=
  if sent = 0 then 0.0 else Float.ofNat lost * 100.0 / Float.ofNat sent

/-- Percentage of the expected packets, received or lost, that were lost. -/
def lossPercent (lost received : Nat) : Float :=
  if lost + received = 0 then 0.0 else Float.ofNat lost * 100.0 / Float.ofNat (lost + received)

/-- Error-correction packets that went into repairing the stream. -/
def fecUsed (received discarded : Nat) : Nat := received - discarded

/-- Figures of one line over one span. -/
structure Rates where
  framesSentPerSecond : Nat := 0
  framesReceivedPerSecond : Nat := 0
  /-- Percent; on receive lines the loss seen at this end. -/
  lossPercent : Float := 0.0
  packets : Nat := 0
  fecPackets : Nat := 0
  lost : Nat := 0
  /-- Bits per second. -/
  bitrate : Float := 0.0
  /-- Milliseconds that each emitted sample spent in the jitter buffer. -/
  bufferDelay : Float := 0.0

/-- The figures of a line that grew by `g` during `span`. -/
def Growth.rates (g : Growth) (line : Line) (span : Span) : Rates :=
  match line.direction with
  | .send =>
    { framesSentPerSecond := frameRate g.send.frames span
      lossPercent := remoteLossPercent g.send.lost g.send.packets
      packets := g.send.packets
      lost := g.send.lost
      bitrate := MediaTelemetry.bitrate g.send.bytes span }
  | .receive =>
    { framesReceivedPerSecond := frameRate g.receive.framesDecoded span
      lossPercent := MediaTelemetry.lossPercent g.receive.lost g.receive.packets
      packets := g.receive.packets
      fecPackets := fecUsed g.receive.fecReceived g.receive.fecDiscarded
      lost := g.receive.lost
      bitrate := MediaTelemetry.bitrate g.receive.bytes span
      bufferDelay :=
        if g.receive.bufferEmitted = 0 then 0.0
        else g.receive.bufferDelay * 1000.0 / Float.ofNat g.receive.bufferEmitted }

end MediaTelemetry
