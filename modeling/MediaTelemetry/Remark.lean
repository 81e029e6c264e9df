import MediaTelemetry.Connection
import MediaTelemetry.Decimal.Places
import MediaTelemetry.Notice
import MediaTelemetry.Request
import MediaTelemetry.Status
import MediaTelemetry.Text.Quoted

/-!
# The journal

What the library writes into the journal of its host, as data: each remark has a level and a text.
Remarks never influence what is computed. Those about malformed fragments, about indicators and
about quality reports stand for longer ones; their texts give only the fixed part.
-/

universe u

namespace MediaTelemetry

/-- How much a remark matters. -/
inductive Level where
  | error
  | warn
  | info
  | debug
  | trace
deriving DecidableEq, Inhabited

namespace Level

/-- The place in the order, the most important first. -/
def rank : Level → Nat
  | .error => 0
  | .warn => 1
  | .info => 2
  | .debug => 3
  | .trace => 4

/-- The written name. -/
def text : Level → String
  | .error => "error"
  | .warn => "warn"
  | .info => "info"
  | .debug => "debug"
  | .trace => "trace"

end Level

/-- Kinds of fragments that a line has no use for. -/
inductive Misplaced where
  | outbound
  | inbound
  | remoteOutbound
deriving DecidableEq, Inhabited

namespace UplinkRemark

/-- How much the remark matters. -/
def level : UplinkRemark → Level
  | judged .. => .debug
  | changed _ => .info

/-- The text of the remark. -/
def text : UplinkRemark → String
  | judged line score => line.text ++ ": uplink indicators ... score " ++ toString score.toNat
  | changed v => v.line.text ++ ": uplink network quality is now " ++ toString v.score.toNat

end UplinkRemark

/-- An entry of the journal. -/
inductive Remark where
  | started (interval window : Span)
  | stopped
  | statusUpdated (status : Status)
  | staleSample (request : Request)
  | lateSample (request : Request)
  | processing (request : Request) (tick : Nat)
  | malformedFragment
  | misplaced (line : Line) (kind : Misplaced) (id : String)
  | danglingPair (pair candidate : String)
  | heavyLoss (line : Line) (percent threshold : Float)
  | heavyRemoteLoss (line : Line) (percent : Float) (lost sent : Nat)
  | addressChanged (address : String)
  | uplink (remark : UplinkRemark)
  | flow (group : Group) (change : FlowChange)
  | noPackets (line : Line)
  | noFrames (line : Line)
  | notSeen (line : Line)
  | notRequested (line : Line)
  | emptyWindow (tick : Nat)
  | qualityReported
  | fetchSkipped (request : Request) (state : Connection)
  | fetchFailed (request : Request) (fault : Fault)
  | sampleAbandoned (request : Request)
  | handleDropped
deriving Inhabited

namespace Remark

/-- How much the remark matters. -/
def level : Remark → Level
  | fetchFailed .. => .warn
  | uplink remark => remark.level
  | started .. | stopped | statusUpdated _ | heavyLoss .. | heavyRemoteLoss .. | flow ..
  | noPackets _ | noFrames _ => .info
  | staleSample _ | lateSample _ | malformedFragment | danglingPair .. | addressChanged _
  | notSeen _ | notRequested _ | emptyWindow _ | qualityReported | fetchSkipped .. => .debug
  | processing .. | misplaced .. | sampleAbandoned _ | handleDropped => .trace

/-- What happens to packets on a line. -/
def packetVerb : Direction → String
  | .send => "sent"
  | .receive => "received"

/-- What happens to frames on a line. -/
def frameVerb : Direction → String
  | .send => "sent"
  | .receive => "decoded"

/-- The misplaced kind and where it was found. -/
def misplacedText (id : String) : Misplaced → String
  | .outbound => "outbound-rtp " ++ id ++ " on a receive line"
  | .inbound => "inbound-rtp " ++ id ++ " on a send line"
  | .remoteOutbound => "remote-outbound-rtp " ++ id ++ " on a send line"

/-- The text of the remark. -/
def text : Remark → String
  | started interval window =>
    "stats analyzer started, interval " ++ interval.text ++ ", quality window " ++ window.text
  | stopped => "stats analyzer stopped"
  | statusUpdated status => "media status updated: " ++ status.toJson.text
  | staleSample request => "discarding sample " ++ request.text ++ " of a stopped run"
  | lateSample request => "discarding out of order sample " ++ request.text
  | processing request tick => "processing sample " ++ request.text ++ " as tick " ++ toString tick
  | malformedFragment => "dropping malformed stats fragment: "
  | misplaced line kind id => line.text ++ ": ignoring " ++ misplacedText id kind
  | danglingPair pair candidate =>
    "candidate pair " ++ pair ++ " references unknown local candidate " ++ candidate
  | heavyLoss line percent threshold =>
    line.text ++ ": packet loss " ++ Decimal.twoPlaces percent ++ "% above threshold "
      ++ Decimal.text threshold ++ "%"
  | heavyRemoteLoss line percent lost sent =>
    line.text ++ ": receiver reports " ++ Decimal.twoPlaces percent ++ "% packet loss, "
      ++ toString lost ++ " of " ++ toString sent ++ " packets"
  | addressChanged address => "local ip address is now " ++ Text.quoted address
  | uplink remark => remark.text
  | flow g change =>
    flowName g.side change ++ ": " ++ g.side.text ++ " " ++ g.medium.text
  | noPackets line =>
    "No " ++ line.medium.text ++ " RTP packets " ++ packetVerb line.direction ++ ": 0"
  | noFrames line =>
    "No " ++ line.medium.text ++ " frames " ++ frameVerb line.direction ++ ": 0"
  | notSeen line => line.text ++ ": not seen during the window, excluded from media quality"
  | notRequested line => line.text ++ ": not requested, excluded from media quality"
  | emptyWindow tick =>
    "media quality window ending at tick " ++ toString tick ++ " has no requested streams"
  | qualityReported => "media quality: "
  | fetchSkipped request state =>
    "skipping stats fetch " ++ request.text ++ ", connection is " ++ state.text
  | fetchFailed request fault => "stats fetch " ++ request.text ++ " failed: " ++ fault.text
  | sampleAbandoned request => "analyzer gone, dropping sample " ++ request.text
  | handleDropped => "analyzer handle dropped, exit loop"

end Remark

/-- The remarks of a walk over a list: each element makes its remarks in the state that the earlier
ones left behind. -/
def narrate {σ : Type u} {α : Type} (step : σ → α → σ) (remarks : σ → α → List Remark) :
    σ → List α → List Remark
  | _, [] => []
  | s, a :: rest => remarks s a ++ narrate step remarks (step s a) rest

end MediaTelemetry
