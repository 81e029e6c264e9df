import MediaTelemetry.Fault
import MediaTelemetry.Json.Reader
import MediaTelemetry.Json.Record
import MediaTelemetry.Span

/-!
# Settings

The intervals and thresholds of a meter, in milliseconds and percent. They are read from JSON,
where missing members keep their defaults, or chosen one by one (`Settings.build`), where lengths of
time are cut to whole milliseconds; either way `Settings.check` decides whether they are used.
-/

namespace MediaTelemetry

/-- Intervals and thresholds. -/
structure Settings where
  /-- From one sample to the next. -/
  interval : Nat := 5000
  /-- Nominal length of a quality window. -/
  qualityInterval : Nat := 60000
  /-- Percentage of lost packets above which a line counts as lossy. -/
  lossThreshold : Float := 9.0
  /-- Round trip time above which an uplink is bad. -/
  roundTripThreshold : Nat := 500
  /-- Jitter at the far end above which an uplink is bad. -/
  jitterThreshold : Nat := 500
  /-- How long a stream still counts as requested after its last change of request. -/
  recency : Nat := 30000
deriving Inhabited

namespace Settings

/-- From one sample to the next. -/
def tick (s : Settings) : Span := ⟨s.interval⟩

/-- Nominal length of a quality window. -/
def window (s : Settings) : Span := ⟨s.qualityInterval⟩

/-- Settings that a meter can run with, or the first reason why not. -/
def check (s : Settings) : Except Fault Settings :=
  if s.interval = 0 then .error .zeroInterval
  else if s.qualityInterval < s.interval then .error .shortQualityInterval
  else if !s.lossThreshold.isFinite || s.lossThreshold < 0.0 then
    .error <| .badSettings <|
      "videoPacketLossRatioThreshold " ++ Decimal.text s.lossThreshold ++ " out of range"
  else .ok s

/-- Settings that a meter can run with. -/
structure IsUsable (s : Settings) : Prop where
  interval : 0 < s.interval
  qualityInterval : s.interval ≤ s.qualityInterval
  isFinite : s.lossThreshold.isFinite = true
  lossThreshold : ¬ s.lossThreshold < 0.0

/-- **The check lets usable settings pass as they are, and no others.** -/
theorem check_eq_ok_iff {s s' : Settings} : s.check = .ok s' ↔ s' = s ∧ s.IsUsable := by
  rw [check]
  constructor
  · intro h
    split at h
    · exact absurd h (by simp)
    · rename_i hinterval
      split at h
      · exact absurd h (by simp)
      · rename_i hwindow
        split at h
        · exact absurd h (by simp)
        · rename_i hthreshold
          simp only [Bool.or_eq_true, Bool.not_eq_true', decide_eq_true_eq, not_or,
            Bool.not_eq_false] at hthreshold
          exact ⟨(Except.ok.inj h).symm, Nat.pos_of_ne_zero hinterval, Nat.le_of_not_lt hwindow,
            hthreshold.1, hthreshold.2⟩
  · rintro ⟨rfl, h⟩
    rw [if_neg (Nat.ne_of_gt h.interval), if_neg (Nat.not_lt.2 h.qualityInterval), if_neg]
    simp [h.isFinite, h.lossThreshold]

/-! ### Building -/

/-- A choice of one interval or threshold. -/
inductive Choice where
  | interval (d : Duration)
  | qualityInterval (d : Duration)
  | lossThreshold (percent : Float)
  | roundTripThreshold (d : Duration)
  | jitterThreshold (d : Duration)
  | recency (d : Duration)

/-- The settings with a choice made. -/
def choose (s : Settings) : Choice → Settings
  | .interval d => { s with interval := d.millis }
  | .qualityInterval d => { s with qualityInterval := d.millis }
  | .lossThreshold percent => { s with lossThreshold := percent }
  | .roundTripThreshold d => { s with roundTripThreshold := d.millis }
  | .jitterThreshold d => { s with jitterThreshold := d.millis }
  | .recency d => { s with recency := d.millis }

/-- The settings that choices make of the defaults, if they pass the check. -/
def build (choices : List Choice) : Except Fault Settings := (choices.foldl choose {}).check

/-- An interval below a millisecond is cut to none, and refused. -/
theorem build_concat_of_nanos_lt (choices : List Choice) {d : Duration} (h : d.nanos < 1000000) :
    build (choices ++ [.interval d]) = .error .zeroInterval := by
  have hmillis : d.millis = 0 := by rw [Duration.millis, Nat.div_eq_of_lt h, Nat.zero_mod]
  rw [build, List.foldl_append, List.foldl_cons, List.foldl_nil, choose, check, if_pos hmillis]

/-! ### Reading and writing -/

/-- The members of settings. -/
def members : List (Reading.Member Settings) := [
  .ofValue "analyzerInterval" Json.millis? fun v s ↦ { s with interval := v },
  .ofValue "qualityInterval" Json.millis? fun v s ↦ { s with qualityInterval := v },
  .ofValue "videoPacketLossRatioThreshold" Json.number? fun v s ↦ { s with lossThreshold := v },
  .ofValue "rttThreshold" Json.millis? fun v s ↦ { s with roundTripThreshold := v },
  .ofValue "jitterThreshold" Json.millis? fun v s ↦ { s with jitterThreshold := v },
  .ofValue "requestedRecencyWindow" Json.millis? fun v s ↦ { s with recency := v }]

/-- Reads a document that holds settings and nothing else, and checks them. -/
def ofDocument (d : Document) : Except Fault Settings :=
  match (Reading.record members {} d.root).value with
  | some s => if d.trailing then .error .unreadable else s.check
  | none => .error .unreadable

/-- Reads settings from text. -/
def ofText (text : String) : Except Fault Settings := ofDocument (.ofText text)

/-- Reads settings from a value. -/
def ofJson (v : Json) : Except Fault Settings := ofDocument ⟨.ofJson v, false⟩

/-- Settings as an object. -/
def toJson (s : Settings) : Json := .obj [
  ("analyzerInterval", .nat s.interval),
  ("qualityInterval", .nat s.qualityInterval),
  ("videoPacketLossRatioThreshold", .float s.lossThreshold),
  ("rttThreshold", .nat s.roundTripThreshold),
  ("jitterThreshold", .nat s.jitterThreshold),
  ("requestedRecencyWindow", .nat s.recency)]

end Settings

end MediaTelemetry
