import MediaTelemetry.Mark
import MediaTelemetry.Remark

/-!
# Silent lines

A line that was seen, is expected to flow and is active should carry packets, and frames if it
carries pictures. The first sample without them is remarked on, and the line is noted as silent
until they are found again; a line that is not looked at keeps its note.
-/

namespace MediaTelemetry

/-- What decides which lines are looked at. -/
structure Watch where
  status : Status
  tick : Nat
  now : Nat
  recency : Nat
  /-- The mark of the previous sample. -/
  previous : Option Mark

namespace Watch

/-- The line is looked at. -/
def covers (w : Watch) (line : Line) (e : Entry) : Bool :=
  e.notes.lastSeen == w.tick && w.status.expects line && e.notes.isActiveAt w.now w.recency

/-- No packets came since the previous sample. -/
def lacksPackets (w : Watch) (line : Line) (e : Entry) : Bool :=
  e.packetGrowth line w.previous == 0

/-- No frames came since the previous sample. -/
def lacksFrames (w : Watch) (line : Line) (e : Entry) : Bool :=
  e.livenessGrowth line w.previous == 0

/-- The notes of a line after it was looked at. -/
def note (w : Watch) (line : Line) (e : Entry) : Entry :=
  if w.covers line e then
    { e with notes := { e.notes with
        packetsSilent := w.lacksPackets line e
        framesSilent :=
          if line.medium.isVideo then w.lacksFrames line e else e.notes.framesSilent } }
  else e

/-- What is remarked on a line. -/
def remarks (w : Watch) (line : Line) (e : Entry) : List Remark :=
  if w.covers line e then
    (if w.lacksPackets line e && !e.notes.packetsSilent then [.noPackets line] else []) ++
      if line.medium.isVideo && w.lacksFrames line e && !e.notes.framesSilent then
        [.noFrames line]
      else []
  else []

/-- Looks at all lines. -/
def noteAll (w : Watch) (ledger : Ledger) : Ledger := ledger.map w.note

/-- What is remarked on all lines, in line order. -/
def remarksAll (w : Watch) (ledger : Ledger) : List Remark :=
  ledger.entries.flatMap fun (line, e) ↦ w.remarks line e

end Watch

end MediaTelemetry
