import MediaTelemetry.Ledger
import MediaTelemetry.Rates

/-!
# Marks

A mark holds the counters of every line at the end of a sample or of a quality window. Growth and
rates are measured from one mark to the present ledger; marks are replaced as a whole and never
changed.
-/

namespace MediaTelemetry

/-- The counters of all lines at a moment. -/
structure Mark where
  /-- The number of the sample. -/
  tick : Nat
  /-- The time of the sample, in milliseconds of the clock. -/
  time : Nat
  counters : KeyMap Line Counters
deriving Inhabited

/-- The mark of a ledger after sample `tick`, taken at `time`. -/
def Ledger.mark (ledger : Ledger) (tick time : Nat) : Mark :=
  ⟨tick, time, ledger.map fun _ e ↦ e.counters⟩

/-- The counters that a mark, if there is one, has for a line. -/
def Mark.of? (mark : Option Mark) (line : Line) : Option Counters :=
  mark.bind fun m ↦ m.counters.get? line

/-- What a line grew by since a mark. -/
def Entry.growth (e : Entry) (line : Line) (mark : Option Mark) : Growth :=
  e.counters.since (Mark.of? mark line)

/-- Growth of the packet count since a mark. -/
def Entry.packetGrowth (e : Entry) (line : Line) (mark : Option Mark) : Nat :=
  grown (e.counters.packets line) (((Mark.of? mark line).getD {}).packets line)

/-- Growth of the liveness count since a mark. -/
def Entry.livenessGrowth (e : Entry) (line : Line) (mark : Option Mark) : Nat :=
  grown (e.counters.liveness line) (((Mark.of? mark line).getD {}).liveness line)

/-- Sets what is derived from the growth since the previous sample, `elapsed` ago. -/
def Entry.setTickRates (e : Entry) (line : Line) (mark : Option Mark) (elapsed : Span) : Entry :=
  let growth := e.growth line mark
  let rates := growth.rates line elapsed
  match line.direction with
  | .send =>
    { e with send := some { e.send.getD {} with
        packetsPerTick := growth.send.packets
        bitrate := rates.bitrate } }
  | .receive =>
    { e with receive := some { e.receive.getD {} with
        packetsPerTick := growth.receive.packets
        bitrate := rates.bitrate
        bufferDelayPerTick := rates.bufferDelay } }

/-- Sets what is derived from the growth since the previous sample on the given lines. -/
def Ledger.setTickRates (ledger : Ledger) (lines : List Line) (mark : Option Mark)
    (elapsed : Span) : Ledger :=
  lines.foldl
    (fun ledger line ↦ Ledger.modify ledger line fun e ↦ e.setTickRates line mark elapsed) ledger

end MediaTelemetry
