import MediaTelemetry.Ledger

/-!
# Ledgers as JSON

The written form of records, notes and whole ledgers. A ledger is an object by line text, in line
order.
-/

namespace MediaTelemetry

/-- A synchronisation source, absent as `null`. -/
def Json.ssrc (n : Option UInt32) : Json := .option (fun n ↦ .nat n.toNat) n

/-- A send record as an object. -/
def SendRecord.toJson (s : SendRecord) : Json := .obj [
  ("ssrc", .ssrc s.ssrc),
  ("totalBytesSent", .nat s.bytes),
  ("headerBytesSent", .nat s.headerBytes),
  ("totalPacketsSent", .nat s.packets),
  ("retransmittedBytesSent", .nat s.retransmittedBytes),
  ("retransmittedPacketsSent", .nat s.retransmittedPackets),
  ("totalNackCount", .nat s.nacks),
  ("totalPliCount", .nat s.plis),
  ("totalFirCount", .nat s.firs),
  ("framesSent", .nat s.framesSent),
  ("framesEncoded", .nat s.framesEncoded),
  ("totalKeyFramesEncoded", .nat s.keyFrames),
  ("frameWidth", .nat s.frameWidth),
  ("frameHeight", .nat s.frameHeight),
  ("framesPerSecond", .float s.framesPerSecond),
  ("targetBitrate", .float s.targetBitrate),
  ("requestedBitrate", .float s.requestedBitrate),
  ("requestedFrameSize", .nat s.requestedFrameSize),
  ("encoderImplementation", .option .str s.encoder),
  ("qualityLimitationReason", .option .str s.limitation),
  ("audioLevel", .float s.audioLevel),
  ("totalAudioEnergy", .float s.audioEnergy),
  ("totalSamplesDuration", .float s.samplesDuration),
  ("totalPacketsLostOnReceiver", .int s.loss.total),
  ("packetsLostOnReceiver", .nat s.loss.recent),
  ("remoteJitter", .float s.remoteJitter),
  ("roundTripTime", .float s.roundTripTime),
  ("fractionLost", .float s.fractionLost),
  ("reportsReceived", .nat s.reports),
  ("currentPacketLossRatio", .float s.loss.current),
  ("overallPacketLossRatio", .float s.loss.overall),
  ("maxPacketLossRatio", .float s.loss.worst),
  ("packetsSentPerTick", .nat s.packetsPerTick),
  ("bitrate", .float s.bitrate)]

/-- A receive record as an object. -/
def ReceiveRecord.toJson (r : ReceiveRecord) : Json := .obj [
  ("ssrc", .ssrc r.ssrc),
  ("totalBytesReceived", .nat r.bytes),
  ("headerBytesReceived", .nat r.headerBytes),
  ("totalPacketsReceived", .nat r.packets),
  ("totalPacketsLost", .int r.lost),
  ("packetsDiscarded", .nat r.discarded),
  ("fecPacketsReceived", .nat r.fecReceived),
  ("fecPacketsDiscarded", .nat r.fecDiscarded),
  ("retransmittedBytesReceived", .nat r.retransmittedBytes),
  ("retransmittedPacketsReceived", .nat r.retransmittedPackets),
  ("jitter", .float r.jitter),
  ("jitterBufferDelay", .float r.bufferDelay),
  ("jitterBufferEmittedCount", .nat r.bufferEmitted),
  ("totalNackCount", .nat r.nacks),
  ("totalPliCount", .nat r.plis),
  ("totalFirCount", .nat r.firs),
  ("framesReceived", .nat r.framesReceived),
  ("framesDecoded", .nat r.framesDecoded),
  ("framesDropped", .nat r.framesDropped),
  ("keyFramesDecoded", .nat r.keyFrames),
  ("frameWidth", .nat r.frameWidth),
  ("frameHeight", .nat r.frameHeight),
  ("framesPerSecond", .float r.framesPerSecond),
  ("requestedBitrate", .float r.requestedBitrate),
  ("decoderImplementation", .option .str r.decoder),
  ("audioLevel", .float r.audioLevel),
  ("totalAudioEnergy", .float r.audioEnergy),
  ("totalSamplesReceived", .nat r.samplesReceived),
  ("totalSamplesDuration", .float r.samplesDuration),
  ("concealedSamples", .nat r.concealedSamples),
  ("concealmentEvents", .nat r.concealmentEvents),
  ("remoteRoundTripTime", .float r.remoteRoundTripTime),
  ("packetsReceivedPerTick", .nat r.packetsPerTick),
  ("bitrate", .float r.bitrate),
  ("currentPacketLossRatio", .float r.lossRatio),
  ("meanJitterBufferDelayMs", .float r.bufferDelayPerTick)]

/-- Notes as an object. -/
def Notes.toJson (n : Notes) : Json := .obj [
  ("lastSeenTick", .nat n.lastSeen),
  ("isRequested", .option .bool n.requested),
  ("lastRequestedUpdateTimestamp", .option .nat n.requestedAt),
  ("localTrackLabel", .option .str n.trackLabel),
  ("isActiveSpeaker", .bool n.activeSpeaker),
  ("rtpSilent", .bool n.packetsSilent),
  ("framesSilent", .bool n.framesSilent),
  ("roundTripTimes", .arr (n.roundTrips.map .float)),
  ("jitters", .arr (n.jitters.map .float))]

/-- The members of an entry. -/
def Entry.members (e : Entry) : List (String × Json) := [
  ("send", .option SendRecord.toJson e.send),
  ("recv", .option ReceiveRecord.toJson e.receive),
  ("internal", e.notes.toJson)]

/-- An entry as an object. -/
def Entry.toJson (e : Entry) : Json := .obj e.members

/-- A ledger as an object by line. -/
def Ledger.toJson (ledger : Ledger) : Json :=
  .obj [("results", .obj (ledger.entries.map fun e ↦ (e.1.text, e.2.toJson)))]

end MediaTelemetry
