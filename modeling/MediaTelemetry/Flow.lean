import MediaTelemetry.Mark

/-!
# Start and stop of media

Lines are grouped by announced medium and end of the call. A group is live at a sample when the
liveness count of one of its active lines grew since the previous sample. Each group starts when it
becomes live and stops when it is live no more, so its changes are exactly the edges of liveness.
-/

namespace MediaTelemetry

/-- Lines whose start and stop are announced together. -/
structure Group where
  medium : Announced
  side : Side
deriving DecidableEq, Inhabited

namespace Group

/-- All groups in their order: medium, then side. -/
def all : List Group :=
  [Announced.audio, .video, .share].flatMap fun m ↦ [⟨m, .near⟩, ⟨m, .far⟩]

/-- The group of a line, unless its medium is not announced. -/
def of? (line : Line) : Option Group := line.medium.announced?.map fun m ↦ ⟨m, line.side⟩

end Group

/-- What has been announced about a group last. -/
inductive FlowState where
  | notStarted
  | started
  | stopped
deriving DecidableEq, Inhabited

/-- An announcement. -/
inductive FlowChange where
  | started
  | stopped
deriving DecidableEq, Inhabited

namespace FlowState

/-- The state after a sample. -/
def next : FlowState → Bool → FlowState
  | .notStarted, true | .stopped, true => .started
  | .started, false => .stopped
  | s, _ => s

/-- What the sample makes to be announced. -/
def change? : FlowState → Bool → Option FlowChange
  | .notStarted, true | .stopped, true => some .started
  | .started, false => some .stopped
  | _, _ => none

end FlowState

/-- The state of every group. -/
def Flows : Type := Group → FlowState

namespace Flows

/-- Nothing has been announced. -/
def initial : Flows := fun _ ↦ .notStarted

instance : Inhabited Flows := ⟨initial⟩

/-- One group seen live or not. -/
def observe (f : Flows) (g : Group) (live : Bool) : Flows :=
  fun g' ↦ if g' = g then (f g).next live else f g'

/-- The states after a sample. -/
def next (f : Flows) (live : Group → Bool) : Flows := fun g ↦ (f g).next (live g)

/-- The announcements of a sample, in group order. -/
def changes (f : Flows) (live : Group → Bool) : List (Group × FlowChange) :=
  Group.all.filterMap fun g ↦ ((f g).change? (live g)).map (g, ·)

end Flows

/-- Some active line of the group moved since a mark. -/
def Ledger.isLive (ledger : Ledger) (mark : Option Mark) (active : Line → Entry → Bool)
    (g : Group) : Bool :=
  ledger.entries.any fun (line, e) ↦
    Group.of? line == some g && active line e && 0 < e.livenessGrowth line mark

end MediaTelemetry
