import MediaTelemetry.Json.Scalar

/-!
# Connection states

The state of the connection that snapshots are fetched from.
-/

namespace MediaTelemetry

/-- How a connection stands. -/
inductive Connection where
  | new
  | connecting
  | connected
  | disconnected
  | failed
  | closed
deriving DecidableEq, Inhabited

namespace Connection

/-- All states. -/
def all : List Connection := [.new, .connecting, .connected, .disconnected, .failed, .closed]

/-- The written name. -/
def text : Connection → String
  | .new => "new"
  | .connecting => "connecting"
  | .connected => "connected"
  | .disconnected => "disconnected"
  | .failed => "failed"
  | .closed => "closed"

/-- Snapshots can still be fetched. -/
def canSample : Connection → Bool
  | .failed | .closed => false
  | _ => true

/-- Reads a state by its name. -/
def ofJson? (v : Json) : Option Connection :=
  v.choice?.bind fun name ↦ all.find? (·.text == name)

end Connection

end MediaTelemetry
