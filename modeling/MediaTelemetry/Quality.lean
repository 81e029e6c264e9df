import MediaTelemetry.Fragment.Candidates
import MediaTelemetry.Mark

/-!
# Quality reports

A quality report sums up one quality window: for each requested line that was seen during the
window, what its counters grew by, the rates that this makes, the round trip times and jitters
sampled, and a few details of the host. It is made from the ledger alone; of earlier windows only
the mark at their end is needed.
-/

namespace MediaTelemetry

/-- Width and height in pixels. -/
structure Geometry where
  width : Nat
  height : Nat
deriving DecidableEq, Inhabited

/-- What the host shows; unknown geometry counts as zero. -/
structure Display where
  screen : Option Geometry := none
  window : Option Geometry := none
deriving DecidableEq, Inhabited

/-- The host, which is asked what it shows whenever a quality report is made: by the number of the
sample that closes the window. -/
structure Host where
  display : Nat → Display := fun _ ↦ {}
deriving Inhabited

/-- A host that always shows the same. -/
def Host.fixed (d : Display) : Host := ⟨fun _ ↦ d⟩

/-- A capture device and the name of its track. -/
structure Peripheral where
  name : String
  information : String
deriving DecidableEq, Inhabited

/-- Details of the host and the window. -/
structure QualityMetadata where
  peripherals : List Peripheral
  screen : Geometry
  window : Geometry
  address : String
  seconds : Nat
deriving Inhabited

/-- Figures that sent and received lines share. -/
structure CommonFigures where
  transport : Transport
  rates : Rates
  isMain : Bool
  ssrc : Option UInt32
  /-- Milliseconds, mean and largest of the window. -/
  roundTrip : Float × Float
  /-- Milliseconds, mean and largest of the window. -/
  jitter : Float × Float

/-- Figures of a sent line. -/
structure TransmitFigures where
  frameWidth : Nat
  frameHeight : Nat
  framesPerSecond : Nat
  /-- Macroblocks. -/
  frameSize : Nat
  requestedBitrate : Float
  requestedFrameSize : Nat
  keyFrames : Nat
  nacks : Nat
  plis : Nat
  trackLabel : Option String

/-- Figures of a received line. -/
structure ReceiveFigures where
  frameWidth : Nat
  frameHeight : Nat
  framesPerSecond : Nat
  /-- Macroblocks. -/
  frameSize : Nat
  activeSpeaker : Bool
  keyFrames : Nat
  framesDropped : Nat
  requestedBitrate : Float
  /-- Milliseconds. -/
  bufferDelay : Float

/-- A line of a quality report with its figures. -/
structure QualityEntry (φ : Type) where
  line : Line
  common : CommonFigures
  stream : φ

/-- The report of one quality window. -/
structure QualityReport where
  metadata : QualityMetadata
  audioTransmit : List (QualityEntry TransmitFigures)
  audioReceive : List (QualityEntry ReceiveFigures)
  videoTransmit : List (QualityEntry TransmitFigures)
  videoReceive : List (QualityEntry ReceiveFigures)

/-- The report lists no line. -/
def QualityReport.isEmpty (r : QualityReport) : Bool :=
  r.audioTransmit.isEmpty && r.audioReceive.isEmpty &&
    r.videoTransmit.isEmpty && r.videoReceive.isEmpty

/-- A quality window about to be reported. -/
structure Window where
  /-- The mark at its start; the first window has none. -/
  start : Option Mark
  span : Span
  transport : Transport
  address : String
  /-- The time of the closing sample, in milliseconds of the clock. -/
  now : Nat
  recency : Nat
  display : Display

/-! ### Figures -/

/-- Mean and maximum of samples in seconds, as milliseconds. The sum starts from negative zero,
which leaves every first sample as it is. Of equal values the later one is the maximum, which
decides between the two zeros. -/
def meanAndMax (samples : List Float) : Float × Float :=
  if samples.isEmpty then (0.0, 0.0)
  else
    let sum := samples.foldl (· + ·) (-0.0)
    let largest := samples.foldl (fun a b ↦ if a ≤ b then b else a) 0.0
    (sum * 1000.0 / Float.ofNat samples.length, largest * 1000.0)

/-- Macroblocks of a picture; the pixel count stops at the largest of 32 bits. -/
def macroblocks (width height : Nat) : Nat := min (width * height) (UInt32.size - 1) / 256

/-- Pixels of a picture. -/
def Geometry.area (g : Geometry) : Nat := g.width * g.height

/-- A device named after the track label of the main sender of its medium. -/
def Ledger.peripheral (ledger : Ledger) (name : String) (m : Medium) : Peripheral where
  name := name
  information :=
    (((ledger.get? (.send m 0)).bind (·.notes.trackLabel)).filter (· ≠ "")).getD "unknown"

namespace Window

/-- The details of the host and the window. -/
def metadata (w : Window) (ledger : Ledger) : QualityMetadata where
  peripherals := [ledger.peripheral "microphone" .audio, ledger.peripheral "camera" .video]
  screen := w.display.screen.getD ⟨0, 0⟩
  window := w.display.window.getD ⟨0, 0⟩
  address := w.address
  seconds := w.span.seconds.round.toUInt64.toNat

/-- The line was not seen during the window. -/
def misses (w : Window) (e : Entry) : Bool := w.start.any fun m ↦ e.notes.lastSeen ≤ m.tick

/-- The line is reported. -/
def lists (w : Window) (e : Entry) : Bool := !w.misses e && e.notes.isRequestedAt w.now w.recency

/-- Rates of a line over the window. -/
def rates (w : Window) (line : Line) (e : Entry) : Rates :=
  (e.growth line w.start).rates line w.span

/-- The figures that sent and received lines share. -/
def common (w : Window) (line : Line) (e : Entry) : CommonFigures where
  transport := w.transport
  rates := w.rates line e
  isMain := line.medium.isMain
  ssrc :=
    match line.direction with
    | .send => e.send.bind (·.ssrc)
    | .receive => e.receive.bind (·.ssrc)
  roundTrip := meanAndMax e.notes.roundTrips
  jitter := meanAndMax e.notes.jitters

/-- The entry of a send line. -/
def transmitEntry (w : Window) (line : Line) (e : Entry) (s : SendRecord) :
    QualityEntry TransmitFigures where
  line := line
  common := w.common line e
  stream :=
    { frameWidth := s.frameWidth
      frameHeight := s.frameHeight
      framesPerSecond := (w.rates line e).framesSentPerSecond
      frameSize := macroblocks s.frameWidth s.frameHeight
      requestedBitrate := s.requestedBitrate
      requestedFrameSize := s.requestedFrameSize
      keyFrames := (e.growth line w.start).send.keyFrames
      nacks := (e.growth line w.start).send.nacks
      plis := (e.growth line w.start).send.plis
      trackLabel := e.notes.trackLabel }

/-- The entry of a receive line. -/
def receiveEntry (w : Window) (line : Line) (e : Entry) (r : ReceiveRecord) :
    QualityEntry ReceiveFigures where
  line := line
  common := w.common line e
  stream :=
    { frameWidth := r.frameWidth
      frameHeight := r.frameHeight
      framesPerSecond := (w.rates line e).framesReceivedPerSecond
      frameSize := macroblocks r.frameWidth r.frameHeight
      activeSpeaker := e.notes.activeSpeaker
      keyFrames := (e.growth line w.start).receive.keyFrames
      framesDropped := (e.growth line w.start).receive.framesDropped
      requestedBitrate := r.requestedBitrate
      bufferDelay := (w.rates line e).bufferDelay }

/-- The entry of a listed send line of sound or of pictures. -/
def transmit? (w : Window) (audio : Bool) (l : Line × Entry) :
    Option (QualityEntry TransmitFigures) :=
  if l.1.isSend && l.1.medium.isAudio == audio && w.lists l.2 then
    l.2.send.map (w.transmitEntry l.1 l.2)
  else none

/-- The entry of a listed receive line of sound or of pictures. -/
def receive? (w : Window) (audio : Bool) (l : Line × Entry) :
    Option (QualityEntry ReceiveFigures) :=
  if !l.1.isSend && l.1.medium.isAudio == audio && w.lists l.2 then
    l.2.receive.map (w.receiveEntry l.1 l.2)
  else none

/-- The report of the window. -/
def report (w : Window) (ledger : Ledger) : QualityReport where
  metadata := w.metadata ledger
  audioTransmit := ledger.entries.filterMap (w.transmit? true)
  audioReceive := ledger.entries.filterMap (w.receive? true)
  videoTransmit := ledger.entries.filterMap (w.transmit? false)
  videoReceive := ledger.entries.filterMap (w.receive? false)

end Window

end MediaTelemetry
