import MediaTelemetry.Json.Printer
import MediaTelemetry.Json.Record
import MediaTelemetry.Line

/-!
# Expected media

Which media the application expects to flow. Both media of a shared screen are expected together.
-/

namespace MediaTelemetry

/-- Which media should flow. -/
structure Status where
  sendAudio : Bool := false
  sendVideo : Bool := false
  sendShare : Bool := false
  receiveAudio : Bool := false
  receiveVideo : Bool := false
  receiveShare : Bool := false
deriving DecidableEq, Inhabited

namespace Status

/-- Media should flow on the line. -/
def expects (s : Status) (line : Line) : Bool :=
  match line.direction, line.medium with
  | .send, .audio => s.sendAudio
  | .send, .video => s.sendVideo
  | .send, .shareAudio | .send, .shareVideo => s.sendShare
  | .receive, .audio => s.receiveAudio
  | .receive, .video => s.receiveVideo
  | .receive, .shareAudio | .receive, .shareVideo => s.receiveShare

/-- The members of a status. -/
def members : List (Reading.Member Status) := [
  .ofValue "sendAudio" Json.flag? fun v s ↦ { s with sendAudio := v },
  .ofValue "sendVideo" Json.flag? fun v s ↦ { s with sendVideo := v },
  .ofValue "sendShare" Json.flag? fun v s ↦ { s with sendShare := v },
  .ofValue "receiveAudio" Json.flag? fun v s ↦ { s with receiveAudio := v },
  .ofValue "receiveVideo" Json.flag? fun v s ↦ { s with receiveVideo := v },
  .ofValue "receiveShare" Json.flag? fun v s ↦ { s with receiveShare := v }]

/-- Reads a status; what is not given is not expected. -/
def ofJson? (v : Json) : Option Status := (Reading.record members {} (.ofJson v)).value

/-- A status as an object. -/
def toJson (s : Status) : Json := .obj [
  ("sendAudio", .bool s.sendAudio),
  ("sendVideo", .bool s.sendVideo),
  ("sendShare", .bool s.sendShare),
  ("receiveAudio", .bool s.receiveAudio),
  ("receiveVideo", .bool s.receiveVideo),
  ("receiveShare", .bool s.receiveShare)]

end Status

end MediaTelemetry
