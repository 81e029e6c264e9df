/-!
# Requests for snapshots

A meter asks for one snapshot per tick. A request tells the run that it belongs to and its number,
which grows over all runs.
-/

namespace MediaTelemetry

/-- A request for one snapshot. -/
structure Request where
  /-- The run of the meter: counts its starts. -/
  generation : Nat
  /-- Grows with every request. -/
  number : Nat
deriving DecidableEq, Inhabited

/-- Text of a request. -/
def Request.text (r : Request) : String :=
  "StatsRequest \x7b generation: " ++ toString r.generation ++ ", seq: " ++ toString r.number ++
    " \x7d"

end MediaTelemetry
