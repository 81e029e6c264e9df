import MediaTelemetry.Fragment.Tables

/-!
# Report fragments

A report lists dictionaries of several types, each told by its `type` member. `Fragment.ofJson?`
reads one entry, `Fragment.toJson` writes it. Types that nothing here uses are read as `other`,
whatever else they hold; an entry of a known type with a malformed member is not read at all.
-/

namespace MediaTelemetry

/-- One entry of a report. -/
inductive Fragment where
  | outboundRtp (s : OutboundRtp)
  | inboundRtp (s : InboundRtp)
  | remoteInboundRtp (s : RemoteInboundRtp)
  | remoteOutboundRtp (s : RemoteOutboundRtp)
  | mediaSource (s : MediaSource)
  | candidatePair (s : CandidatePair)
  | localCandidate (s : LocalCandidate)
  /-- Of a type that nothing here uses. -/
  | other
deriving Inhabited

namespace Fragment

/-- A type of fragment: its tag, and how its members are read, by key or by position. -/
structure Variant where
  tag : String
  read : (String → Option Json) → Option Fragment
  readItems : List Json → Option Fragment

/-- The type whose members `d` describes. -/
def Variant.of {σ : Type} (tag : String) (d : Dictionary σ) (make : σ → Fragment) : Variant where
  tag := tag
  read find := (d.read find).map make
  readItems items := (d.readItems items).map make

/-- The types that are read in full. -/
def variants : List Variant := [
  .of "outbound-rtp" OutboundRtp.dictionary outboundRtp,
  .of "inbound-rtp" InboundRtp.dictionary inboundRtp,
  .of "remote-inbound-rtp" RemoteInboundRtp.dictionary remoteInboundRtp,
  .of "remote-outbound-rtp" RemoteOutboundRtp.dictionary remoteOutboundRtp,
  .of "media-source" MediaSource.dictionary mediaSource,
  .of "candidate-pair" CandidatePair.dictionary candidatePair,
  .of "local-candidate" LocalCandidate.dictionary localCandidate]

/-- The type with a tag. -/
def variant? (tag : String) : Option Variant := variants.find? (·.tag == tag)

/-- Reads an entry: an object with a `type`, or an array that starts with the type. -/
def ofJson? : Json → Option Fragment
  | .obj ms =>
    match ms.lookup "type" with
    | some (.str tag) =>
      match variant? tag with
      | some v => v.read fun key ↦ ms.lookup key
      | none => some other
    | _ => none
  | .arr (.str tag :: items) =>
    match variant? tag with
    | some v => v.readItems items
    | none => if items.isEmpty then some other else none
  | _ => none

/-- An object with a `type`. -/
def tagged (tag : String) (members : List (String × Json)) : Json :=
  .obj (("type", .str tag) :: members)

/-- Writes an entry with all its members, absent ones as `null`. -/
def toJson : Fragment → Json
  | outboundRtp s => tagged "outbound-rtp" (OutboundRtp.dictionary.members s)
  | inboundRtp s => tagged "inbound-rtp" (InboundRtp.dictionary.members s)
  | remoteInboundRtp s => tagged "remote-inbound-rtp" (RemoteInboundRtp.dictionary.members s)
  | remoteOutboundRtp s => tagged "remote-outbound-rtp" (RemoteOutboundRtp.dictionary.members s)
  | mediaSource s => tagged "media-source" (MediaSource.dictionary.members s)
  | candidatePair s => tagged "candidate-pair" (CandidatePair.dictionary.members s)
  | localCandidate s => tagged "local-candidate" (LocalCandidate.dictionary.members s)
  | other => tagged "Unknown" []

/-- Reads the entries of a report, passing over the malformed ones. -/
def ofReport (entries : List Json) : List Fragment := entries.filterMap ofJson?

end Fragment

end MediaTelemetry
