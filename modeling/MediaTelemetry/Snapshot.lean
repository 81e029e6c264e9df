import MediaTelemetry.Fragment.Basic
import MediaTelemetry.Json.Reader
import MediaTelemetry.Json.Record
import MediaTelemetry.Line

/-!
# Snapshots of a call

What a call reports about all its senders and receivers at one moment. A snapshot is read from JSON;
anything malformed in it spoils it, except single entries of a report, which are passed over and
counted. All entries of a report are read as values before the first is looked at.
-/

namespace MediaTelemetry

/-- What is reported about one sender. -/
structure SenderReport where
  /-- The name of the microphone or camera. -/
  trackLabel : Option String := none
  requested : Option Bool := none
  /-- When `requested` last changed, in milliseconds of the clock. -/
  requestedAt : Option Nat := none
  report : List Fragment := []
deriving Inhabited

/-- What is reported about one receiver. -/
structure ReceiverReport where
  requested : Option Bool := none
  /-- When `requested` last changed, in milliseconds of the clock. -/
  requestedAt : Option Nat := none
  activeSpeaker : Option Bool := none
  report : List Fragment := []
deriving Inhabited

/-- The senders and receivers of one medium. -/
structure MediumReport where
  senders : List SenderReport := []
  receivers : List ReceiverReport := []
deriving Inhabited

/-- The reports of all media. -/
structure Snapshot where
  audio : MediumReport := {}
  video : MediumReport := {}
  shareAudio : MediumReport := {}
  shareVideo : MediumReport := {}
deriving Inhabited

/-- The reports of one medium. -/
def Snapshot.medium (s : Snapshot) : Medium → MediumReport
  | .audio => s.audio
  | .video => s.video
  | .shareAudio => s.shareAudio
  | .shareVideo => s.shareVideo

/-! ### Reading -/

namespace Snapshot

/-- Reads the entries of a report. -/
def readReport : Draft → Reading (List Fragment)
  | .arr ds =>
    match Draft.values? ds with
    | some entries =>
      let fragments := Fragment.ofReport entries
      ⟨entries.length - fragments.length, some fragments⟩
    | none => .fail
  | _ => .fail

/-- The members of a sender. -/
def senderMembers : List (Reading.Member SenderReport) := [
  .optional "localTrackLabel" Json.string? fun v s ↦ { s with trackLabel := v },
  .optional "isRequested" Json.flag? fun v s ↦ { s with requested := v },
  .optional "lastRequestedUpdateTimestamp" Json.millis? fun v s ↦ { s with requestedAt := v },
  ⟨"report", fun d ↦ do let v ← readReport d; pure fun s ↦ { s with report := v }⟩]

/-- The members of a receiver. -/
def receiverMembers : List (Reading.Member ReceiverReport) := [
  .optional "isRequested" Json.flag? fun v s ↦ { s with requested := v },
  .optional "lastRequestedUpdateTimestamp" Json.millis? fun v s ↦ { s with requestedAt := v },
  .optional "isActiveSpeaker" Json.flag? fun v s ↦ { s with activeSpeaker := v },
  ⟨"report", fun d ↦ do let v ← readReport d; pure fun s ↦ { s with report := v }⟩]

/-- The members of a medium. -/
def mediumMembers : List (Reading.Member MediumReport) := [
  ⟨"senders", fun d ↦ do
    let v ← Reading.array (Reading.record senderMembers {}) d
    pure fun s ↦ { s with senders := v }⟩,
  ⟨"receivers", fun d ↦ do
    let v ← Reading.array (Reading.record receiverMembers {}) d
    pure fun s ↦ { s with receivers := v }⟩]

/-- Reads the reports of one medium. -/
def readMedium : Draft → Reading MediumReport := Reading.record mediumMembers {}

/-- The members of a snapshot. -/
def members : List (Reading.Member Snapshot) := [
  ⟨"audio", fun d ↦ do let v ← readMedium d; pure fun s ↦ { s with audio := v }⟩,
  ⟨"video", fun d ↦ do let v ← readMedium d; pure fun s ↦ { s with video := v }⟩,
  ⟨"screenShareAudio", fun d ↦ do let v ← readMedium d; pure fun s ↦ { s with shareAudio := v }⟩,
  ⟨"screenShareVideo", fun d ↦ do let v ← readMedium d; pure fun s ↦ { s with shareVideo := v }⟩]

/-- Reads a snapshot. -/
def ofDraft : Draft → Reading Snapshot := Reading.record members {}

/-- Reads a snapshot from a value. -/
def ofJson (v : Json) : Reading Snapshot := ofDraft (.ofJson v)

/-- Reads a snapshot from a text that holds nothing else. -/
def ofText (s : String) : Reading Snapshot :=
  let d := Document.ofText s
  (ofDraft d.root).bind fun snapshot ↦ if d.trailing then .fail else pure snapshot

end Snapshot

end MediaTelemetry
