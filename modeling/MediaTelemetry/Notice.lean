import MediaTelemetry.Flow
import MediaTelemetry.Json.Basic
import MediaTelemetry.Quality
import MediaTelemetry.Uplink

/-!
# Notices

What a meter tells its owner: groups of lines that started or stopped, uplinks whose score changed,
and the report of every quality window. Each has a name and a written form.
-/

namespace MediaTelemetry

/-- Something a meter tells. -/
inductive Notice where
  | flow (group : Group) (change : FlowChange)
  | uplink (verdict : Verdict)
  | quality (report : QualityReport)

/-- The name of an announcement. -/
def flowName : Side → FlowChange → String
  | .near, .started => "LOCAL_MEDIA_STARTED"
  | .near, .stopped => "LOCAL_MEDIA_STOPPED"
  | .far, .started => "REMOTE_MEDIA_STARTED"
  | .far, .stopped => "REMOTE_MEDIA_STOPPED"

/-! ### Written forms -/

/-- What an announcement carries. -/
def Announced.payload (m : Announced) : Json := .obj [("type", .str m.text)]

/-- A verdict as an object. -/
def Verdict.toJson (v : Verdict) : Json := .obj [
  ("mediaType", .str v.line.text),
  ("networkQualityScore", .nat v.score.toNat)]

/-- The details of host and window as an object. -/
def QualityMetadata.toJson (m : QualityMetadata) : Json := .obj [
  ("peripherals", .arr (m.peripherals.map fun p ↦
    .obj [("name", .str p.name), ("information", .str p.information)])),
  ("screenWidth", .nat m.screen.width),
  ("screenHeight", .nat m.screen.height),
  ("screenResolution", .nat m.screen.area),
  ("appWindowWidth", .nat m.window.width),
  ("appWindowHeight", .nat m.window.height),
  ("peerReflexiveIp", .str m.address),
  ("intervalSeconds", .nat m.seconds)]

/-- The shared figures as an object. -/
def CommonFigures.toJson (c : CommonFigures) : Json := .obj [
  ("transportType", .str c.transport.text),
  ("rtpPackets", .nat c.rates.packets),
  ("fecPackets", .nat c.rates.fecPackets),
  ("mediaHopByHopLost", .nat c.rates.lost),
  ("rtpHopByHopLost", .nat c.rates.lost),
  ("remoteLossRate", .float c.rates.lossPercent),
  ("isMain", .bool c.isMain),
  ("rtpBitrate", .float c.rates.bitrate),
  ("ssrc", .option (fun n ↦ .nat n.toNat) c.ssrc),
  ("roundTripTime", .float c.roundTrip.1),
  ("maxRoundTripTime", .float c.roundTrip.2),
  ("jitter", .float c.jitter.1),
  ("maxJitter", .float c.jitter.2)]

/-- The figures of a sent line as an object. -/
def TransmitFigures.toJson (t : TransmitFigures) : Json := .obj [
  ("frameWidth", .nat t.frameWidth),
  ("frameHeight", .nat t.frameHeight),
  ("transmittedFrameRate", .nat t.framesPerSecond),
  ("transmittedFrameSize", .nat t.frameSize),
  ("requestedBitrate", .float t.requestedBitrate),
  ("requestedFrameSize", .nat t.requestedFrameSize),
  ("transmittedKeyFrames", .nat t.keyFrames),
  ("nackCount", .nat t.nacks),
  ("pliCount", .nat t.plis),
  ("localTrackLabel", .option .str t.trackLabel)]

/-- The figures of a received line as an object. -/
def ReceiveFigures.toJson (r : ReceiveFigures) : Json := .obj [
  ("frameWidth", .nat r.frameWidth),
  ("frameHeight", .nat r.frameHeight),
  ("receivedFrameRate", .nat r.framesPerSecond),
  ("receivedFrameSize", .nat r.frameSize),
  ("isActiveSpeaker", .bool r.activeSpeaker),
  ("receivedKeyFrames", .nat r.keyFrames),
  ("framesDropped", .nat r.framesDropped),
  ("requestedBitrate", .float r.requestedBitrate),
  ("meanJitterBufferDelay", .float r.bufferDelay)]

/-- An entry as an object. -/
def QualityEntry.toJson {φ : Type} (stream : φ → Json) (e : QualityEntry φ) : Json := .obj [
  ("mediaLine", .str e.line.text),
  ("common", e.common.toJson),
  ("stream", stream e.stream)]

/-- A quality report as an object. -/
def QualityReport.toJson (r : QualityReport) : Json := .obj [
  ("intervalMetadata", r.metadata.toJson),
  ("audioTransmit", .arr (r.audioTransmit.map (·.toJson TransmitFigures.toJson))),
  ("audioReceive", .arr (r.audioReceive.map (·.toJson ReceiveFigures.toJson))),
  ("videoTransmit", .arr (r.videoTransmit.map (·.toJson TransmitFigures.toJson))),
  ("videoReceive", .arr (r.videoReceive.map (·.toJson ReceiveFigures.toJson)))]

namespace Notice

/-- The name of a notice. -/
def name : Notice → String
  | flow g c => flowName g.side c
  | uplink _ => "NETWORK_QUALITY"
  | quality _ => "MEDIA_QUALITY"

/-- What a notice carries. -/
def data : Notice → Json
  | flow g _ => g.medium.payload
  | uplink v => v.toJson
  | quality r => r.toJson

/-- The medium that an announcement is about. -/
def announced? : Notice → Option Announced
  | flow g _ => some g.medium
  | _ => none

/-- A notice as an object of name and content. -/
def toJson (n : Notice) : Json := .obj [("event", .str n.name), ("data", n.data)]

end Notice

end MediaTelemetry
