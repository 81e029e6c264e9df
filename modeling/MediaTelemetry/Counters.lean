import MediaTelemetry.Line

/-!
# Cumulative counters and their growth

`Counters` are the figures of a line that only ever grow while its stream lasts. `Counters.since`
measures them against earlier ones. A counter that went backwards belongs to a new stream and is
measured from zero, so growth is never negative; without earlier counters everything is measured
from zero.
-/

namespace MediaTelemetry

/-- Growth of a counter: the difference, or all of it after a restart from zero. -/
def grown (current previous : Nat) : Nat :=
  if current < previous then current else current - previous

/-- Growth of a counter that may be negative, such as packets lost; a negative restart counts as
zero. -/
def grownSigned (current previous : Int) : Nat :=
  if current < previous then current.toNat else (current - previous).toNat

/-- The larger of `x` and zero; what is not a number counts as zero. -/
def nonNegative (x : Float) : Float := if x > 0.0 then x else 0.0

/-- Counters of a send line. -/
structure SendCounters where
  packets : Nat := 0
  bytes : Nat := 0
  frames : Nat := 0
  keyFrames : Nat := 0
  nacks : Nat := 0
  plis : Nat := 0
  /-- Packets lost, as the far end reports it. -/
  lost : Int := 0
deriving Inhabited

/-- Counters of a receive line. -/
structure ReceiveCounters where
  packets : Nat := 0
  bytes : Nat := 0
  lost : Int := 0
  fecReceived : Nat := 0
  fecDiscarded : Nat := 0
  framesReceived : Nat := 0
  framesDecoded : Nat := 0
  framesDropped : Nat := 0
  keyFrames : Nat := 0
  /-- Seconds that samples spent in the jitter buffer, summed up. -/
  bufferDelay : Float := 0.0
  bufferEmitted : Nat := 0
deriving Inhabited

/-- Counters of one line at a moment; those of the other direction are zero. -/
structure Counters where
  send : SendCounters := {}
  receive : ReceiveCounters := {}
deriving Inhabited

/-- What a send line's counters grew by. -/
structure SendGrowth where
  packets : Nat
  bytes : Nat
  frames : Nat
  keyFrames : Nat
  nacks : Nat
  plis : Nat
  lost : Nat

/-- What a receive line's counters grew by. -/
structure ReceiveGrowth where
  packets : Nat
  bytes : Nat
  lost : Nat
  fecReceived : Nat
  fecDiscarded : Nat
  framesReceived : Nat
  framesDecoded : Nat
  framesDropped : Nat
  keyFrames : Nat
  bufferDelay : Float
  bufferEmitted : Nat

/-- What the counters of a line grew by. -/
structure Growth where
  send : SendGrowth
  receive : ReceiveGrowth

/-- Growth of the counters of a send line. -/
def SendCounters.since (now before : SendCounters) : SendGrowth where
  packets := grown now.packets before.packets
  bytes := grown now.bytes before.bytes
  frames := grown now.frames before.frames
  keyFrames := grown now.keyFrames before.keyFrames
  nacks := grown now.nacks before.nacks
  plis := grown now.plis before.plis
  lost := grownSigned now.lost before.lost

/-- Growth of the counters of a receive line. The summed delay starts again when it or its count
went backwards. -/
def ReceiveCounters.since (now before : ReceiveCounters) : ReceiveGrowth where
  packets := grown now.packets before.packets
  bytes := grown now.bytes before.bytes
  lost := grownSigned now.lost before.lost
  fecReceived := grown now.fecReceived before.fecReceived
  fecDiscarded := grown now.fecDiscarded before.fecDiscarded
  framesReceived := grown now.framesReceived before.framesReceived
  framesDecoded := grown now.framesDecoded before.framesDecoded
  framesDropped := grown now.framesDropped before.framesDropped
  keyFrames := grown now.keyFrames before.keyFrames
  bufferDelay :=
    nonNegative <|
      if now.bufferEmitted < before.bufferEmitted || now.bufferDelay < before.bufferDelay then
        now.bufferDelay
      else now.bufferDelay - before.bufferDelay
  bufferEmitted := grown now.bufferEmitted before.bufferEmitted

namespace Counters

/-- What the counters grew by since an earlier moment, or since zero. -/
def since (now : Counters) (before : Option Counters) : Growth :=
  let before := before.getD {}
  ⟨now.send.since before.send, now.receive.since before.receive⟩

/-- The counter whose growth shows that media flows on the line: packets of sound, frames of
pictures. -/
def liveness (c : Counters) (line : Line) : Nat :=
  match line.direction, line.medium.isAudio with
  | .send, true => c.send.packets
  | .send, false => c.send.frames
  | .receive, true => c.receive.packets
  | .receive, false => c.receive.framesDecoded

/-- Packets sent or received. -/
def packets (c : Counters) (line : Line) : Nat :=
  match line.direction with
  | .send => c.send.packets
  | .receive => c.receive.packets

end Counters

end MediaTelemetry
