import Mathlib.Data.List.Basic
import MediaTelemetry.Sweep

/-!
# The classes of a report

What a report does to its line and adds to a sweep is read off the classes of its fragments, each in
report order (`Fragment.SameClasses.lists_eq`). Two reports with the same classes therefore do the
same, whatever else they hold and however the classes are mixed (`Fragment.SameClasses.takeReport`,
`Fragment.SameClasses.add`).
-/

namespace MediaTelemetry

namespace Fragment

/-- A class of fragments that take effect in report order. What the far end reports is one class,
whichever way the stream goes. -/
inductive Class where
  | outbound
  | inbound
  | source
  | pair
  | candidate
  | remote
deriving DecidableEq, Inhabited

/-- The class of a fragment, if it is of a type that is used. -/
def class? : Fragment → Option Class
  | .outboundRtp _ => some .outbound
  | .inboundRtp _ => some .inbound
  | .mediaSource _ => some .source
  | .candidatePair _ => some .pair
  | .localCandidate _ => some .candidate
  | .remoteInboundRtp _ => some .remote
  | .remoteOutboundRtp _ => some .remote
  | .other => none

/-- The fragments of a class, in report order. -/
def ofClass (k : Class) (report : List Fragment) : List Fragment :=
  report.filter (·.class? == some k)

/-- What is read off fragments of one class is read off that class alone. -/
theorem filterMap_ofClass {α : Type} {k : Class} {f : Fragment → Option α}
    (hf : ∀ x, x.class? ≠ some k → f x = none) (report : List Fragment) :
    (ofClass k report).filterMap f = report.filterMap f := by
  rw [ofClass, List.filterMap_filter]
  refine List.filterMap_congr fun x _ ↦ ?_
  split
  · rfl
  · rename_i hx
    exact (hf x (by simpa using hx)).symm

/-- Two reports have the same fragments of each class in the same order. How the classes are mixed,
and what there is of other types, is left open. -/
def SameClasses (report report' : List Fragment) : Prop :=
  ∀ k, ofClass k report = ofClass k report'

namespace SameClasses

variable {report report' : List Fragment}

theorem filterMap_eq (h : SameClasses report report') {α : Type} (k : Class)
    {f : Fragment → Option α} (hf : ∀ x, x.class? ≠ some k → f x = none) :
    report.filterMap f = report'.filterMap f := by
  rw [← filterMap_ofClass hf report, h k, filterMap_ofClass hf]

/-- Whatever is listed off a report is listed off one of its classes. -/
theorem lists_eq (h : SameClasses report report') :
    outbounds report = outbounds report' ∧ inbounds report = inbounds report' ∧
      sources report = sources report' ∧ pairs report = pairs report' ∧
      candidates report = candidates report' ∧ remoteInbounds report = remoteInbounds report' ∧
      remoteRoundTrips report = remoteRoundTrips report' := by
  refine ⟨h.filterMap_eq .outbound ?_, h.filterMap_eq .inbound ?_, h.filterMap_eq .source ?_,
    h.filterMap_eq .pair ?_, h.filterMap_eq .candidate ?_, h.filterMap_eq .remote ?_,
    h.filterMap_eq .remote ?_⟩ <;> intro x hx <;> cases x <;> first | rfl | exact absurd rfl hx

theorem mem_iff (h : SameClasses report report') {f : Fragment} {k : Class}
    (hf : f.class? = some k) : f ∈ report ↔ f ∈ report' := by
  have hmem : ∀ l, f ∈ ofClass k l ↔ f ∈ l := by simp [ofClass, hf]
  rw [← hmem report, h k, hmem]

theorem any_concerns (h : SameClasses report report') (line : Line) :
    report.any (·.concerns line) = report'.any (·.concerns line) := by
  rw [Bool.eq_iff_iff, List.any_eq_true, List.any_eq_true]
  refine exists_congr fun f ↦ and_congr_left fun hf ↦ ?_
  cases f with
  | other => cases hf
  | _ => exact h.mem_iff rfl

theorem takeReport (h : SameClasses report report') (ledger : Ledger) (line : Line) (tick : Nat) :
    ledger.takeReport line report tick = ledger.takeReport line report' tick := by
  obtain ⟨houtbounds, hinbounds, hsources, -, -, hremote, htrips⟩ := h.lists_eq
  have hentry : ∀ e : Entry, e.takeReport line report tick = e.takeReport line report' tick := by
    intro e
    rw [Entry.takeReport, Entry.takeReport, Entry.takeLocal, Entry.takeLocal, Entry.takeFar,
      Entry.takeFar, houtbounds, hinbounds, hsources, hremote, htrips]
  rw [Ledger.takeReport, Ledger.takeReport, h.any_concerns, hentry]

theorem add (h : SameClasses report report') (sweep : Sweep) (line : Line) :
    sweep.add line report = sweep.add line report' := by
  obtain ⟨-, -, -, hpairs, hcandidates, hremote, -⟩ := h.lists_eq
  rw [Sweep.add, Sweep.add, path?, path?, hpairs, hcandidates, hremote, h.any_concerns]

end SameClasses

end Fragment

end MediaTelemetry
