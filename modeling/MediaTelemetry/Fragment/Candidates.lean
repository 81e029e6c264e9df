/-!
# Reported candidates

Candidate pairs and local candidates of the network path, and what their texts mean. Texts that name
nothing known are unspecified.
-/

namespace MediaTelemetry

/-- Where a candidate's address comes from. -/
inductive CandidateType where
  | unspecified
  /-- A local interface. -/
  | host
  /-- Seen by a server. -/
  | serverReflexive
  /-- Seen by the other peer. -/
  | peerReflexive
  /-- Lent by a relay. -/
  | relay
deriving DecidableEq, Inhabited

/-- The candidate type a text names. -/
def CandidateType.ofText (s : String) : CandidateType :=
  if s = "host" then .host
  else if s = "srflx" then .serverReflexive
  else if s = "prflx" then .peerReflexive
  else if s = "relay" then .relay
  else .unspecified

/-- Transport protocol of a candidate, or of the allocation behind a relayed one. -/
inductive Protocol where
  | unspecified
  | udp
  | tcp
  | tls
deriving DecidableEq, Inhabited

/-- The protocol a text names, in upper or lower case ASCII letters. -/
def Protocol.ofText (s : String) : Protocol :=
  let name := s.toLower
  if name = "udp" then .udp
  else if name = "tcp" then .tcp
  else if name = "tls" then .tls
  else .unspecified

/-- How far the checks on a candidate pair have come. -/
inductive PairState where
  | unspecified
  | frozen
  | waiting
  | inProgress
  | failed
  | succeeded
deriving DecidableEq, Inhabited

/-- The pair state a text names. -/
def PairState.ofText (s : String) : PairState :=
  if s = "frozen" then .frozen
  else if s = "waiting" then .waiting
  else if s = "in-progress" then .inProgress
  else if s = "failed" then .failed
  else if s = "succeeded" then .succeeded
  else .unspecified

/-- What media travels over. -/
inductive Transport where
  | udp
  | tcp
  | tls
deriving DecidableEq, Inhabited

/-- The written name. -/
def Transport.text : Transport → String
  | .udp => "UDP"
  | .tcp => "TCP"
  | .tls => "TLS"

/-- The transport of a candidate with its own protocol and that of its relay. An encrypted relay
decides; else the candidate's own protocol does, and the relay's only if that one is unknown. -/
def Transport.classify : Protocol → Protocol → Option Transport
  | _, .tls => some .tls
  | .tcp, _ => some .tcp
  | .udp, _ => some .udp
  | _, .tcp => some .tcp
  | _, .udp => some .udp
  | _, _ => none

/-- A pair of a local and a remote candidate. -/
structure CandidatePair where
  id : String := ""
  timestamp : Option Float := none
  transportId : Option String := none
  localCandidateId : Option String := none
  remoteCandidateId : Option String := none
  state : Option String := none
  nominated : Option Bool := none
  currentRoundTripTime : Option Float := none
  availableOutgoingBitrate : Option Float := none
  availableIncomingBitrate : Option Float := none
deriving Inhabited

/-- How far the checks on the pair have come. -/
def CandidatePair.progress (p : CandidatePair) : PairState :=
  p.state.elim .unspecified PairState.ofText

/-- A local candidate. -/
structure LocalCandidate where
  id : String := ""
  timestamp : Option Float := none
  transportId : Option String := none
  address : Option String := none
  port : Option UInt16 := none
  protocol : Option String := none
  candidateType : Option String := none
  relayProtocol : Option String := none
  relatedAddress : Option String := none
  relatedPort : Option UInt16 := none
  url : Option String := none
deriving Inhabited

namespace LocalCandidate

/-- Where the address comes from. -/
def origin (c : LocalCandidate) : CandidateType :=
  c.candidateType.elim .unspecified CandidateType.ofText

/-- The candidate's own protocol. -/
def ownProtocol (c : LocalCandidate) : Protocol := c.protocol.elim .unspecified Protocol.ofText

/-- The protocol towards the relay. -/
def relaysOver (c : LocalCandidate) : Protocol := c.relayProtocol.elim .unspecified Protocol.ofText

/-- What media over this candidate travels over. -/
def transport (c : LocalCandidate) : Option Transport :=
  Transport.classify c.ownProtocol c.relaysOver

end LocalCandidate

end MediaTelemetry
