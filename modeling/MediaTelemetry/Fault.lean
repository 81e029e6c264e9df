/-!
# Faults

Why a call into the library is refused, with the text of each reason.
-/

namespace MediaTelemetry

/-- Why a call is refused. -/
inductive Fault where
  /-- The sampling interval is zero. -/
  | zeroInterval
  /-- The quality interval is shorter than the sampling interval. -/
  | shortQualityInterval
  | alreadyStarted
  | notStarted
  | badSettings (detail : String)
  | fetchFailed (detail : String)
  | connectionClosed
deriving DecidableEq

/-- Settings or a snapshot that cannot be read. -/
def Fault.unreadable : Fault := .badSettings ""

/-- The text of a fault. -/
def Fault.text : Fault → String
  | .zeroInterval => "analyzer: interval must be non-zero"
  | .shortQualityInterval =>
    "analyzer: quality interval must not be shorter than the analyzer interval"
  | .alreadyStarted => "analyzer: already started"
  | .notStarted => "analyzer: not started"
  | .badSettings detail => "analyzer: invalid config: " ++ detail
  | .fetchFailed detail => "stats: fetch failed: " ++ detail
  | .connectionClosed => "connection: handle closed"

end MediaTelemetry
