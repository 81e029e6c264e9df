import MediaTelemetry.Fragment.Candidates
import MediaTelemetry.Fragment.Dictionary
import MediaTelemetry.Fragment.Streams

/-!
# The tables of the reported dictionaries

One table for each dictionary type, members in the order in which arrays list them.
-/

namespace MediaTelemetry

/-- The members of sent streams. -/
def OutboundRtp.dictionary : Dictionary OutboundRtp where
  empty := {}
  getId := (·.id)
  setId v s := { s with id := v }
  columns := [
    ⟨"timestamp", .number, (·.timestamp), fun v s ↦ { s with timestamp := v }⟩,
    ⟨"ssrc", .word32, (·.ssrc), fun v s ↦ { s with ssrc := v }⟩,
    ⟨"kind", .text, (·.kind), fun v s ↦ { s with kind := v }⟩,
    ⟨"bytesSent", .word64, (·.bytesSent), fun v s ↦ { s with bytesSent := v }⟩,
    ⟨"headerBytesSent", .word64, (·.headerBytesSent), fun v s ↦ { s with headerBytesSent := v }⟩,
    ⟨"packetsSent", .word64, (·.packetsSent), fun v s ↦ { s with packetsSent := v }⟩,
    ⟨"retransmittedBytesSent", .word64, (·.retransmittedBytesSent),
      fun v s ↦ { s with retransmittedBytesSent := v }⟩,
    ⟨"retransmittedPacketsSent", .word64, (·.retransmittedPacketsSent),
      fun v s ↦ { s with retransmittedPacketsSent := v }⟩,
    ⟨"nackCount", .word32, (·.nackCount), fun v s ↦ { s with nackCount := v }⟩,
    ⟨"pliCount", .word32, (·.pliCount), fun v s ↦ { s with pliCount := v }⟩,
    ⟨"firCount", .word32, (·.firCount), fun v s ↦ { s with firCount := v }⟩,
    ⟨"framesSent", .word64, (·.framesSent), fun v s ↦ { s with framesSent := v }⟩,
    ⟨"framesEncoded", .word64, (·.framesEncoded), fun v s ↦ { s with framesEncoded := v }⟩,
    ⟨"keyFramesEncoded", .word64, (·.keyFramesEncoded), fun v s ↦ { s with keyFramesEncoded := v }⟩,
    ⟨"frameWidth", .word32, (·.frameWidth), fun v s ↦ { s with frameWidth := v }⟩,
    ⟨"frameHeight", .word32, (·.frameHeight), fun v s ↦ { s with frameHeight := v }⟩,
    ⟨"framesPerSecond", .number, (·.framesPerSecond), fun v s ↦ { s with framesPerSecond := v }⟩,
    ⟨"targetBitrate", .number, (·.targetBitrate), fun v s ↦ { s with targetBitrate := v }⟩,
    ⟨"requestedBitrate", .number, (·.requestedBitrate), fun v s ↦ { s with requestedBitrate := v }⟩,
    ⟨"requestedFrameSize", .word32, (·.requestedFrameSize),
      fun v s ↦ { s with requestedFrameSize := v }⟩,
    ⟨"encoderImplementation", .text, (·.encoderImplementation),
      fun v s ↦ { s with encoderImplementation := v }⟩,
    ⟨"qualityLimitationReason", .text, (·.qualityLimitationReason),
      fun v s ↦ { s with qualityLimitationReason := v }⟩]

/-- The members of received streams. -/
def InboundRtp.dictionary : Dictionary InboundRtp where
  empty := {}
  getId := (·.id)
  setId v s := { s with id := v }
  columns := [
    ⟨"timestamp", .number, (·.timestamp), fun v s ↦ { s with timestamp := v }⟩,
    ⟨"ssrc", .word32, (·.ssrc), fun v s ↦ { s with ssrc := v }⟩,
    ⟨"kind", .text, (·.kind), fun v s ↦ { s with kind := v }⟩,
    ⟨"bytesReceived", .word64, (·.bytesReceived), fun v s ↦ { s with bytesReceived := v }⟩,
    ⟨"headerBytesReceived", .word64, (·.headerBytesReceived),
      fun v s ↦ { s with headerBytesReceived := v }⟩,
    ⟨"packetsReceived", .word64, (·.packetsReceived), fun v s ↦ { s with packetsReceived := v }⟩,
    ⟨"packetsLost", .signed64, (·.packetsLost), fun v s ↦ { s with packetsLost := v }⟩,
    ⟨"packetsDiscarded", .word64, (·.packetsDiscarded), fun v s ↦ { s with packetsDiscarded := v }⟩,
    ⟨"fecPacketsReceived", .word64, (·.fecPacketsReceived),
      fun v s ↦ { s with fecPacketsReceived := v }⟩,
    ⟨"fecPacketsDiscarded", .word64, (·.fecPacketsDiscarded),
      fun v s ↦ { s with fecPacketsDiscarded := v }⟩,
    ⟨"retransmittedBytesReceived", .word64, (·.retransmittedBytesReceived),
      fun v s ↦ { s with retransmittedBytesReceived := v }⟩,
    ⟨"retransmittedPacketsReceived", .word64, (·.retransmittedPacketsReceived),
      fun v s ↦ { s with retransmittedPacketsReceived := v }⟩,
    ⟨"jitter", .number, (·.jitter), fun v s ↦ { s with jitter := v }⟩,
    ⟨"jitterBufferDelay", .number, (·.jitterBufferDelay),
      fun v s ↦ { s with jitterBufferDelay := v }⟩,
    ⟨"jitterBufferEmittedCount", .word64, (·.jitterBufferEmittedCount),
      fun v s ↦ { s with jitterBufferEmittedCount := v }⟩,
    ⟨"nackCount", .word32, (·.nackCount), fun v s ↦ { s with nackCount := v }⟩,
    ⟨"pliCount", .word32, (·.pliCount), fun v s ↦ { s with pliCount := v }⟩,
    ⟨"firCount", .word32, (·.firCount), fun v s ↦ { s with firCount := v }⟩,
    ⟨"framesReceived", .word64, (·.framesReceived), fun v s ↦ { s with framesReceived := v }⟩,
    ⟨"framesDecoded", .word64, (·.framesDecoded), fun v s ↦ { s with framesDecoded := v }⟩,
    ⟨"framesDropped", .word64, (·.framesDropped), fun v s ↦ { s with framesDropped := v }⟩,
    ⟨"keyFramesDecoded", .word64, (·.keyFramesDecoded), fun v s ↦ { s with keyFramesDecoded := v }⟩,
    ⟨"frameWidth", .word32, (·.frameWidth), fun v s ↦ { s with frameWidth := v }⟩,
    ⟨"frameHeight", .word32, (·.frameHeight), fun v s ↦ { s with frameHeight := v }⟩,
    ⟨"framesPerSecond", .number, (·.framesPerSecond), fun v s ↦ { s with framesPerSecond := v }⟩,
    ⟨"audioLevel", .number, (·.audioLevel), fun v s ↦ { s with audioLevel := v }⟩,
    ⟨"totalAudioEnergy", .number, (·.totalAudioEnergy), fun v s ↦ { s with totalAudioEnergy := v }⟩,
    ⟨"totalSamplesReceived", .word64, (·.totalSamplesReceived),
      fun v s ↦ { s with totalSamplesReceived := v }⟩,
    ⟨"totalSamplesDuration", .number, (·.totalSamplesDuration),
      fun v s ↦ { s with totalSamplesDuration := v }⟩,
    ⟨"concealedSamples", .word64, (·.concealedSamples), fun v s ↦ { s with concealedSamples := v }⟩,
    ⟨"concealmentEvents", .word64, (·.concealmentEvents),
      fun v s ↦ { s with concealmentEvents := v }⟩,
    ⟨"requestedBitrate", .number, (·.requestedBitrate), fun v s ↦ { s with requestedBitrate := v }⟩,
    ⟨"decoderImplementation", .text, (·.decoderImplementation),
      fun v s ↦ { s with decoderImplementation := v }⟩]

/-- The members of the far end's view of sent streams. -/
def RemoteInboundRtp.dictionary : Dictionary RemoteInboundRtp where
  empty := {}
  getId := (·.id)
  setId v s := { s with id := v }
  columns := [
    ⟨"timestamp", .number, (·.timestamp), fun v s ↦ { s with timestamp := v }⟩,
    ⟨"ssrc", .word32, (·.ssrc), fun v s ↦ { s with ssrc := v }⟩,
    ⟨"localId", .text, (·.localId), fun v s ↦ { s with localId := v }⟩,
    ⟨"packetsLost", .signed64, (·.packetsLost), fun v s ↦ { s with packetsLost := v }⟩,
    ⟨"packetsReceived", .word64, (·.packetsReceived), fun v s ↦ { s with packetsReceived := v }⟩,
    ⟨"fractionLost", .number, (·.fractionLost), fun v s ↦ { s with fractionLost := v }⟩,
    ⟨"jitter", .number, (·.jitter), fun v s ↦ { s with jitter := v }⟩,
    ⟨"roundTripTime", .number, (·.roundTripTime), fun v s ↦ { s with roundTripTime := v }⟩,
    ⟨"totalRoundTripTime", .number, (·.totalRoundTripTime),
      fun v s ↦ { s with totalRoundTripTime := v }⟩,
    ⟨"roundTripTimeMeasurements", .word64, (·.roundTripTimeMeasurements),
      fun v s ↦ { s with roundTripTimeMeasurements := v }⟩,
    ⟨"reportsReceived", .word64, (·.reportsReceived), fun v s ↦ { s with reportsReceived := v }⟩]

/-- The members of the far end's view of the streams it sends. -/
def RemoteOutboundRtp.dictionary : Dictionary RemoteOutboundRtp where
  empty := {}
  getId := (·.id)
  setId v s := { s with id := v }
  columns := [
    ⟨"timestamp", .number, (·.timestamp), fun v s ↦ { s with timestamp := v }⟩,
    ⟨"ssrc", .word32, (·.ssrc), fun v s ↦ { s with ssrc := v }⟩,
    ⟨"localId", .text, (·.localId), fun v s ↦ { s with localId := v }⟩,
    ⟨"packetsSent", .word64, (·.packetsSent), fun v s ↦ { s with packetsSent := v }⟩,
    ⟨"bytesSent", .word64, (·.bytesSent), fun v s ↦ { s with bytesSent := v }⟩,
    ⟨"reportsSent", .word64, (·.reportsSent), fun v s ↦ { s with reportsSent := v }⟩,
    ⟨"roundTripTime", .number, (·.roundTripTime), fun v s ↦ { s with roundTripTime := v }⟩,
    ⟨"totalRoundTripTime", .number, (·.totalRoundTripTime),
      fun v s ↦ { s with totalRoundTripTime := v }⟩]

/-- The members of capture sources. -/
def MediaSource.dictionary : Dictionary MediaSource where
  empty := {}
  getId := (·.id)
  setId v s := { s with id := v }
  columns := [
    ⟨"timestamp", .number, (·.timestamp), fun v s ↦ { s with timestamp := v }⟩,
    ⟨"kind", .text, (·.kind), fun v s ↦ { s with kind := v }⟩,
    ⟨"trackIdentifier", .text, (·.trackIdentifier), fun v s ↦ { s with trackIdentifier := v }⟩,
    ⟨"audioLevel", .number, (·.audioLevel), fun v s ↦ { s with audioLevel := v }⟩,
    ⟨"totalAudioEnergy", .number, (·.totalAudioEnergy), fun v s ↦ { s with totalAudioEnergy := v }⟩,
    ⟨"totalSamplesDuration", .number, (·.totalSamplesDuration),
      fun v s ↦ { s with totalSamplesDuration := v }⟩,
    ⟨"width", .word32, (·.width), fun v s ↦ { s with width := v }⟩,
    ⟨"height", .word32, (·.height), fun v s ↦ { s with height := v }⟩,
    ⟨"framesPerSecond", .number, (·.framesPerSecond), fun v s ↦ { s with framesPerSecond := v }⟩]

/-- The members of candidate pairs. -/
def CandidatePair.dictionary : Dictionary CandidatePair where
  empty := {}
  getId := (·.id)
  setId v s := { s with id := v }
  columns := [
    ⟨"timestamp", .number, (·.timestamp), fun v s ↦ { s with timestamp := v }⟩,
    ⟨"transportId", .text, (·.transportId), fun v s ↦ { s with transportId := v }⟩,
    ⟨"localCandidateId", .text, (·.localCandidateId), fun v s ↦ { s with localCandidateId := v }⟩,
    ⟨"remoteCandidateId", .text, (·.remoteCandidateId),
      fun v s ↦ { s with remoteCandidateId := v }⟩,
    ⟨"state", .text, (·.state), fun v s ↦ { s with state := v }⟩,
    ⟨"nominated", .flag, (·.nominated), fun v s ↦ { s with nominated := v }⟩,
    ⟨"currentRoundTripTime", .number, (·.currentRoundTripTime),
      fun v s ↦ { s with currentRoundTripTime := v }⟩,
    ⟨"availableOutgoingBitrate", .number, (·.availableOutgoingBitrate),
      fun v s ↦ { s with availableOutgoingBitrate := v }⟩,
    ⟨"availableIncomingBitrate", .number, (·.availableIncomingBitrate),
      fun v s ↦ { s with availableIncomingBitrate := v }⟩]

/-- The members of local candidates. -/
def LocalCandidate.dictionary : Dictionary LocalCandidate where
  empty := {}
  getId := (·.id)
  setId v s := { s with id := v }
  columns := [
    ⟨"timestamp", .number, (·.timestamp), fun v s ↦ { s with timestamp := v }⟩,
    ⟨"transportId", .text, (·.transportId), fun v s ↦ { s with transportId := v }⟩,
    ⟨"address", .text, (·.address), fun v s ↦ { s with address := v }⟩,
    ⟨"port", .word16, (·.port), fun v s ↦ { s with port := v }⟩,
    ⟨"protocol", .text, (·.protocol), fun v s ↦ { s with protocol := v }⟩,
    ⟨"candidateType", .text, (·.candidateType), fun v s ↦ { s with candidateType := v }⟩,
    ⟨"relayProtocol", .text, (·.relayProtocol), fun v s ↦ { s with relayProtocol := v }⟩,
    ⟨"relatedAddress", .text, (·.relatedAddress), fun v s ↦ { s with relatedAddress := v }⟩,
    ⟨"relatedPort", .word16, (·.relatedPort), fun v s ↦ { s with relatedPort := v }⟩,
    ⟨"url", .text, (·.url), fun v s ↦ { s with url := v }⟩]

end MediaTelemetry
