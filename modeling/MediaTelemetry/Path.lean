import MediaTelemetry.Fragment.Candidates

/-!
# The path media takes

A succeeded candidate pair names the local candidate that media leaves from. `CandidatePair.path?`
looks it up among the candidates of the same report and gives its address and transport.
-/

namespace MediaTelemetry

/-- The local end of the path in use. -/
structure Path where
  /-- Empty when the candidate gives no usable address. -/
  address : String
  transport : Option Transport
deriving DecidableEq, Inhabited

/-- A text with something in it. -/
def nonEmpty? (s : Option String) : Option String := s.filter (· ≠ "")

/-- The path that starts at a candidate. A host candidate gives its own address; a peer-reflexive
one the address it is related to, or else its own. A peer-reflexive candidate without any address
is a relayed path, told by the protocol towards the relay: encrypted unless that names another. -/
def LocalCandidate.path (c : LocalCandidate) : Path :=
  match c.origin with
  | .host => ⟨(nonEmpty? c.address).getD "", c.transport⟩
  | .peerReflexive =>
    match (nonEmpty? c.relatedAddress).or (nonEmpty? c.address) with
    | some address => ⟨address, c.transport⟩
    | none =>
      if c.relayProtocol.isSome then
        ⟨"", some ((Transport.classify .unspecified c.relaysOver).getD .tls)⟩
      else ⟨"", c.transport⟩
  | _ => ⟨"", c.transport⟩

/-- The candidate with an identifier, the last one if there are several. -/
def LocalCandidate.find? (id : String) (candidates : List LocalCandidate) : Option LocalCandidate :=
  candidates.reverse.find? (·.id == id)

namespace CandidatePair

/-- The identifier of the candidate that a succeeded pair uses. -/
def uses? (p : CandidatePair) : Option String :=
  if p.progress = .succeeded then p.localCandidateId else none

/-- The path of a succeeded pair whose candidate is among `candidates`. -/
def path? (p : CandidatePair) (candidates : List LocalCandidate) : Option Path :=
  p.uses?.bind fun id ↦ (LocalCandidate.find? id candidates).map LocalCandidate.path

/-- The candidate that a succeeded pair names although it is not among `candidates`. -/
def dangling? (p : CandidatePair) (candidates : List LocalCandidate) : Option String :=
  p.uses?.filter fun id ↦ (LocalCandidate.find? id candidates).isNone

end CandidatePair

end MediaTelemetry
