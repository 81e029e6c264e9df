/-!
# Reported streams

What a call reports about its RTP streams and capture sources. Every figure is optional: who does
not track one leaves it out, and what was known about it stays as it was.
-/

namespace MediaTelemetry

/-- A stream sent from here; a sender may have several, one per simulcast layer. -/
structure OutboundRtp where
  id : String := ""
  timestamp : Option Float := none
  ssrc : Option UInt32 := none
  kind : Option String := none
  /-- Payload bytes. -/
  bytesSent : Option UInt64 := none
  /-- Bytes of headers and padding. -/
  headerBytesSent : Option UInt64 := none
  packetsSent : Option UInt64 := none
  retransmittedBytesSent : Option UInt64 := none
  retransmittedPacketsSent : Option UInt64 := none
  nackCount : Option UInt32 := none
  pliCount : Option UInt32 := none
  firCount : Option UInt32 := none
  framesSent : Option UInt64 := none
  framesEncoded : Option UInt64 := none
  keyFramesEncoded : Option UInt64 := none
  frameWidth : Option UInt32 := none
  frameHeight : Option UInt32 := none
  framesPerSecond : Option Float := none
  targetBitrate : Option Float := none
  /-- Bitrate that the receiving side asks for. -/
  requestedBitrate : Option Float := none
  /-- Frame size in macroblocks that the receiving side asks for. -/
  requestedFrameSize : Option UInt32 := none
  encoderImplementation : Option String := none
  qualityLimitationReason : Option String := none
deriving Inhabited

/-- A stream received here. -/
structure InboundRtp where
  id : String := ""
  timestamp : Option Float := none
  ssrc : Option UInt32 := none
  kind : Option String := none
  bytesReceived : Option UInt64 := none
  headerBytesReceived : Option UInt64 := none
  packetsReceived : Option UInt64 := none
  /-- Negative when duplicates arrive. -/
  packetsLost : Option Int64 := none
  packetsDiscarded : Option UInt64 := none
  fecPacketsReceived : Option UInt64 := none
  fecPacketsDiscarded : Option UInt64 := none
  retransmittedBytesReceived : Option UInt64 := none
  retransmittedPacketsReceived : Option UInt64 := none
  /-- Seconds. -/
  jitter : Option Float := none
  /-- Seconds, summed over all emitted samples. -/
  jitterBufferDelay : Option Float := none
  jitterBufferEmittedCount : Option UInt64 := none
  nackCount : Option UInt32 := none
  pliCount : Option UInt32 := none
  firCount : Option UInt32 := none
  framesReceived : Option UInt64 := none
  framesDecoded : Option UInt64 := none
  framesDropped : Option UInt64 := none
  keyFramesDecoded : Option UInt64 := none
  frameWidth : Option UInt32 := none
  frameHeight : Option UInt32 := none
  framesPerSecond : Option Float := none
  audioLevel : Option Float := none
  totalAudioEnergy : Option Float := none
  totalSamplesReceived : Option UInt64 := none
  totalSamplesDuration : Option Float := none
  concealedSamples : Option UInt64 := none
  concealmentEvents : Option UInt64 := none
  requestedBitrate : Option Float := none
  decoderImplementation : Option String := none
deriving Inhabited

/-- What the far end reports about a stream sent from here. -/
structure RemoteInboundRtp where
  id : String := ""
  timestamp : Option Float := none
  ssrc : Option UInt32 := none
  localId : Option String := none
  packetsLost : Option Int64 := none
  packetsReceived : Option UInt64 := none
  /-- Share of the packets lost since the far end's previous report. -/
  fractionLost : Option Float := none
  /-- Seconds. -/
  jitter : Option Float := none
  /-- Seconds. -/
  roundTripTime : Option Float := none
  totalRoundTripTime : Option Float := none
  roundTripTimeMeasurements : Option UInt64 := none
  reportsReceived : Option UInt64 := none
deriving Inhabited

/-- What the far end reports about a stream it sends. -/
structure RemoteOutboundRtp where
  id : String := ""
  timestamp : Option Float := none
  ssrc : Option UInt32 := none
  localId : Option String := none
  packetsSent : Option UInt64 := none
  bytesSent : Option UInt64 := none
  reportsSent : Option UInt64 := none
  /-- Seconds. -/
  roundTripTime : Option Float := none
  totalRoundTripTime : Option Float := none
deriving Inhabited

/-- A capture source that feeds a sender. -/
structure MediaSource where
  id : String := ""
  timestamp : Option Float := none
  kind : Option String := none
  trackIdentifier : Option String := none
  /-- From silence at 0 to full scale at 1. -/
  audioLevel : Option Float := none
  totalAudioEnergy : Option Float := none
  /-- Seconds of captured sound. -/
  totalSamplesDuration : Option Float := none
  width : Option UInt32 := none
  height : Option UInt32 := none
  framesPerSecond : Option Float := none
deriving Inhabited

end MediaTelemetry
