/-!
# Media lines

A line is one direction of one medium of a call, told apart from others of its kind by an index.
Its text is its key wherever the library writes lines: `video-recv-0`, `audio-send`. Lines are
ordered by medium, then direction, then index, so that main media come before shared screens and
lower indexes first.
-/

namespace MediaTelemetry

/-- What a line carries. -/
inductive Medium where
  | audio
  | video
  | shareAudio
  | shareVideo
deriving DecidableEq, Inhabited

/-- Which way a line runs. -/
inductive Direction where
  | send
  | receive
deriving DecidableEq, Inhabited

/-- The end of the call media comes from. -/
inductive Side where
  | near
  | far
deriving DecidableEq, Inhabited

/-- Media whose start and stop are announced. -/
inductive Announced where
  | audio
  | video
  | share
deriving DecidableEq, Inhabited

namespace Medium

/-- All media, in their order. -/
def all : List Medium := [.audio, .video, .shareAudio, .shareVideo]

/-- The place in the order of media. -/
def rank : Medium → Nat
  | .audio => 0
  | .video => 1
  | .shareAudio => 2
  | .shareVideo => 3

/-- The written name. -/
def text : Medium → String
  | .audio => "audio"
  | .video => "video"
  | .shareAudio => "audio-share"
  | .shareVideo => "video-share"

/-- Camera and microphone, as opposed to a shared screen. -/
def isMain : Medium → Bool
  | .audio | .video => true
  | .shareAudio | .shareVideo => false

/-- Carries sound. -/
def isAudio : Medium → Bool
  | .audio | .shareAudio => true
  | .video | .shareVideo => false

/-- Carries pictures. -/
def isVideo (m : Medium) : Bool := !m.isAudio

/-- Under what the medium is announced; the sound of a shared screen is not. -/
def announced? : Medium → Option Announced
  | .audio => some .audio
  | .video => some .video
  | .shareVideo => some .share
  | .shareAudio => none

end Medium

namespace Direction

/-- The place in the order of directions. -/
def rank : Direction → Nat
  | .send => 0
  | .receive => 1

/-- The written name. -/
def text : Direction → String
  | .send => "send"
  | .receive => "recv"

/-- What is sent comes from the near end of the call, what is received from the far end. -/
def side : Direction → Side
  | .send => .near
  | .receive => .far

end Direction

/-- The place in the order of sides. -/
def Side.rank : Side → Nat
  | .near => 0
  | .far => 1

/-- The written name. -/
def Side.text : Side → String
  | .near => "local"
  | .far => "remote"

/-- The place in the order of announced media. -/
def Announced.rank : Announced → Nat
  | .audio => 0
  | .video => 1
  | .share => 2

/-- The written name. -/
def Announced.text : Announced → String
  | .audio => "audio"
  | .video => "video"
  | .share => "share"

/-- One direction of one medium; `index` is the position among its like in a snapshot. -/
structure Line where
  medium : Medium
  direction : Direction
  index : Nat
deriving DecidableEq, Inhabited

namespace Line

/-- A line that sends. -/
def send (medium : Medium) (index : Nat) : Line := ⟨medium, .send, index⟩

/-- A line that receives. -/
def receive (medium : Medium) (index : Nat) : Line := ⟨medium, .receive, index⟩

/-- The line sends. -/
def isSend (l : Line) : Bool := l.direction == .send

/-- Where the media on the line comes from. -/
def side (l : Line) : Side := l.direction.side

/-- The written name. The index of the first send line of a medium is left out. -/
def text (l : Line) : String :=
  if l.direction = .send ∧ l.index = 0 then l.medium.text ++ "-send"
  else l.medium.text ++ "-" ++ l.direction.text ++ "-" ++ toString l.index

/-- Order of lines: medium, direction, index. -/
def order : Line → Line → Ordering :=
  compareLex (compareOn fun l ↦ l.medium.rank)
    (compareLex (compareOn fun l ↦ l.direction.rank) (compareOn fun l ↦ l.index))

instance : Ord Line := ⟨order⟩

instance : Std.TransOrd Line := by
  change Std.TransCmp order
  unfold order
  infer_instance

instance : Std.LawfulEqOrd Line where
  eq_of_compare {a b} h := by
    obtain ⟨m, d, i⟩ := a
    obtain ⟨m', d', i'⟩ := b
    change order _ _ = .eq at h
    simp only [order, compareLex_eq_eq, compareOn, Nat.compare_eq_eq] at h
    obtain ⟨hm, hd, rfl⟩ := h
    have : m = m' := by cases m <;> cases m' <;> simp_all [Medium.rank]
    have : d = d' := by cases d <;> cases d' <;> simp_all [Direction.rank]
    simp_all
  compare_self {a} := by
    change order a a = .eq
    simp [order, compareLex_eq_eq, compareOn]

end Line

end MediaTelemetry
