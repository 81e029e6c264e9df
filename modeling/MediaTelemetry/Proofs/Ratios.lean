import Mathlib
import MediaTelemetry.Proofs.LossIndicator

/-!
# Loss ratios in exact arithmetic

The losses of a line are kept by the same steps in any arithmetic of ratios. On doubles these are
the steps of the ledger (`Ledger.loss_takeAll`, `Ledger.downlink_takeAll`). On exact fractions a
division by zero has no result, and none is ever without one: whatever is reported, all ratios lie
between 0 and 1, and the largest one kept is the largest there ever was (`Ledger.loss_ratios`).

Ratios decide nothing about the counts that they are taken of, so both arithmetics go through the
same counts (`UplinkLoss.SameCounts`).
-/

namespace MediaTelemetry

open RatioArithmetic

/-! ### Exact fractions -/

/-- Exact fractions. A division by zero has no result. -/
instance : RatioArithmetic (Option ℚ) where
  ofCount n := some n
  divide a b := a.bind fun x ↦ b.bind fun y ↦ if y = 0 then none else some (x / y)
  times a b := a.bind fun x ↦ b.map (x * ·)
  less a b := a.any fun x ↦ b.any (x < ·)

/-- There is a result, and it lies between 0 and 1. -/
def IsRatio (r : Option ℚ) : Prop := ∃ q : ℚ, r = some q ∧ 0 ≤ q ∧ q ≤ 1

theorem isRatio_zero : IsRatio (ofCount 0) := ⟨0, by simp [ofCount], le_refl 0, zero_le_one⟩

theorem divide_eq {x y : ℚ} (hy : y ≠ 0) : divide (some x) (some y) = some (x / y) := by
  simp [divide, hy]

theorem share_eq (part whole : Nat) :
    (share part whole : Option ℚ) = some (min ((part : ℚ) / (whole : ℚ)) 1) := by
  rw [share]
  split
  · rename_i hzero
    simp [ofCount, hzero]
  · rename_i hne
    have hdivide : divide (ofCount part) (ofCount whole) = some ((part : ℚ) / (whole : ℚ)) :=
      divide_eq (Nat.cast_ne_zero.2 hne)
    rw [hdivide]
    rcases lt_or_ge 1 ((part : ℚ) / (whole : ℚ)) with h | h
    · simp [less, ofCount, h, min_eq_right h.le]
    · simp [less, ofCount, not_lt.2 h, min_eq_left h]

theorem isRatio_share (part whole : Nat) : IsRatio (share part whole) :=
  ⟨_, share_eq part whole, le_min (by positivity) zero_le_one, min_le_right _ _⟩

theorem expectedShare_eq (lost received : Nat) :
    (expectedShare lost received : Option ℚ) =
      some ((lost : ℚ) / ((lost : ℚ) + (received : ℚ))) := by
  have hhundred : ∀ x : ℚ, divide (some x) (ofCount 100) = some (x / ((100 : Nat) : ℚ)) := fun x ↦
    divide_eq (Nat.cast_ne_zero.2 (by decide))
  rw [expectedShare]
  split
  · rename_i hzero
    obtain ⟨rfl, rfl⟩ : lost = 0 ∧ received = 0 := by omega
    refine (hhundred _).trans ?_
    simp
  · rename_i hne
    have htimes : times (ofCount lost) (ofCount 100) =
        some ((lost : ℚ) * ((100 : Nat) : ℚ)) := rfl
    have hpercent : divide (some ((lost : ℚ) * ((100 : Nat) : ℚ))) (ofCount (lost + received)) =
        some ((lost : ℚ) * ((100 : Nat) : ℚ) / ((lost + received : Nat) : ℚ)) :=
      divide_eq (Nat.cast_ne_zero.2 hne)
    rw [htimes, hpercent, hhundred, Nat.cast_add]
    congr 1
    field_simp

theorem isRatio_expectedShare (lost received : Nat) : IsRatio (expectedShare lost received) := by
  refine ⟨_, expectedShare_eq lost received, by positivity, ?_⟩
  refine div_le_one_of_le₀ ?_ (by positivity)
  exact le_add_of_nonneg_right (Nat.cast_nonneg received)

theorem larger_eq (a b : ℚ) : larger (some a) (some b) = some (max a b) := by
  rw [larger]
  by_cases h : a < b
  · simp [less, h, max_eq_right h.le]
  · simp [less, h, max_eq_left (not_lt.1 h)]

/-! ### Send lines -/

/-- The losses of a send line after readings. -/
def uplinkLoss (ρ : Type) [RatioArithmetic ρ] (readings : List LossReading) : UplinkLoss ρ :=
  readings.foldl (fun l reading ↦ l.report reading.lost reading.sent) .none

/-- The shares that the losses of a send line had after each reading. -/
def recordedShares (ρ : Type) [RatioArithmetic ρ] (readings : List LossReading) : List ρ :=
  readings.inits.tail.map fun part ↦ (uplinkLoss ρ part).current

/-- The shares that the losses of a send line are made of are ratios. -/
structure UplinkLoss.IsExact (l : UplinkLoss (Option ℚ)) : Prop where
  current : IsRatio l.current
  overall : IsRatio l.overall
  worst : IsRatio l.worst

theorem UplinkLoss.isExact_none : IsExact .none := ⟨isRatio_zero, isRatio_zero, isRatio_zero⟩

theorem isRatio_larger {a b : Option ℚ} (ha : IsRatio a) (hb : IsRatio b) :
    IsRatio (larger a b) := by
  obtain ⟨x, rfl, hx, hx'⟩ := ha
  obtain ⟨y, rfl, hy, hy'⟩ := hb
  exact ⟨_, larger_eq x y, hx.trans (le_max_left x y), max_le hx' hy'⟩

/-- Every report leaves ratios. -/
theorem UplinkLoss.IsExact.report {l : UplinkLoss (Option ℚ)} (h : l.IsExact) (lost : Int)
    (sent : Nat) : (l.report lost sent).IsExact :=
  ⟨isRatio_share _ _, isRatio_share _ _, isRatio_larger h.worst (isRatio_share _ _)⟩

theorem uplinkLoss_concat (ρ : Type) [RatioArithmetic ρ] (readings : List LossReading)
    (last : LossReading) :
    uplinkLoss ρ (readings ++ [last]) = (uplinkLoss ρ readings).report last.lost last.sent := by
  rw [uplinkLoss, List.foldl_append]
  rfl

theorem recordedShares_concat (ρ : Type) [RatioArithmetic ρ] (readings : List LossReading)
    (last : LossReading) :
    recordedShares ρ (readings ++ [last]) =
      recordedShares ρ readings ++ [(uplinkLoss ρ (readings ++ [last])).current] := by
  have hne : readings.inits ≠ [] := List.ne_nil_of_mem ((List.mem_inits _ _).2 List.nil_prefix)
  have hinits : (readings ++ [last]).inits = readings.inits ++ [readings ++ [last]] := by
    simp [List.inits_append]
  rw [recordedShares, hinits, List.tail_append_of_ne_nil hne, List.map_append]
  rfl

theorem isExact_uplinkLoss (readings : List LossReading) :
    (uplinkLoss (Option ℚ) readings).IsExact := by
  induction readings using List.reverseRecOn with
  | nil => exact UplinkLoss.isExact_none
  | append_singleton readings last ih =>
    rw [uplinkLoss_concat]
    exact ih.report last.lost last.sent

/-- The largest share kept is the largest ever recorded. -/
theorem worst_uplinkLoss (readings : List LossReading) :
    ∃ shares : List ℚ, recordedShares (Option ℚ) readings = shares.map some ∧
      (uplinkLoss (Option ℚ) readings).worst = some (shares.foldl max 0) := by
  induction readings using List.reverseRecOn with
  | nil => exact ⟨[], rfl, by simp [uplinkLoss, UplinkLoss.none, ofCount]⟩
  | append_singleton readings last ih =>
    obtain ⟨shares, hrecorded, hworst⟩ := ih
    obtain ⟨q, hq, -⟩ := (isExact_uplinkLoss (readings ++ [last])).current
    refine ⟨shares ++ [q], ?_, ?_⟩
    · rw [recordedShares_concat, hrecorded, hq, List.map_append]
      rfl
    · have hlarger : (uplinkLoss (Option ℚ) (readings ++ [last])).worst =
          larger (uplinkLoss (Option ℚ) readings).worst
            (uplinkLoss (Option ℚ) (readings ++ [last])).current := by
        rw [uplinkLoss_concat]
        rfl
      rw [hlarger, hworst, hq, larger_eq, List.foldl_append]
      rfl

/-- What is counted is the same in both arithmetics. -/
structure UplinkLoss.SameCounts {ρ ρ' : Type} (l : UplinkLoss ρ) (l' : UplinkLoss ρ') : Prop where
  total : l.total = l'.total
  recent : l.recent = l'.recent
  sentAtReport : l.sentAtReport = l'.sentAtReport

theorem sameCounts_uplinkLoss (ρ ρ' : Type) [RatioArithmetic ρ] [RatioArithmetic ρ']
    (readings : List LossReading) :
    (uplinkLoss ρ readings).SameCounts (uplinkLoss ρ' readings) := by
  induction readings using List.reverseRecOn with
  | nil => exact ⟨rfl, rfl, rfl⟩
  | append_singleton readings last ih =>
    rw [uplinkLoss_concat, uplinkLoss_concat]
    exact ⟨rfl, congrArg (grownSigned last.lost) ih.total, rfl⟩

/-! ### Receive lines -/

/-- What the loss ratio of a receive line rests on. -/
structure DownlinkLoss (ρ : Type) where
  /-- Packets lost so far, as last given. -/
  total : Int
  /-- Packets received so far, as last given. -/
  packets : Nat
  /-- Share of the expected packets that the last stream found lost. -/
  ratio : ρ

namespace DownlinkLoss

variable {ρ : Type} [RatioArithmetic ρ]

/-- No stream yet. -/
def none : DownlinkLoss ρ := ⟨0, 0, ofCount 0⟩

/-- Takes in a received stream. -/
def take (l : DownlinkLoss ρ) (s : InboundRtp) : DownlinkLoss ρ where
  total := s.packetsLost.elim l.total Int64.toInt
  packets := s.packetsReceived.elim l.packets UInt64.toNat
  ratio := expectedShare (s.packetsLost.elim 0 fun n ↦ grownSigned n.toInt l.total)
    (s.packetsReceived.elim 0 fun n ↦ grown n.toNat l.packets)

end DownlinkLoss

/-- The loss of a receive line after streams. -/
def downlinkLoss (ρ : Type) [RatioArithmetic ρ] (streams : List InboundRtp) : DownlinkLoss ρ :=
  streams.foldl .take .none

theorem isRatio_downlinkLoss (streams : List InboundRtp) :
    IsRatio (downlinkLoss (Option ℚ) streams).ratio := by
  induction streams using List.reverseRecOn with
  | nil => exact isRatio_zero
  | append_singleton streams last _ =>
    rw [downlinkLoss, List.foldl_append]
    exact isRatio_expectedShare _ _

/-! ### What the ledger keeps -/

/-- The loss that a line has received with, as its entry keeps it. -/
def Entry.downlinkLoss (e : Entry) : DownlinkLoss Float :=
  let r := e.receive.getD {}
  ⟨r.lost, r.packets, r.lossRatio⟩

theorem Entry.downlinkLoss_takeReport (e : Entry) {line : Line} (h : line.direction = .receive)
    (report : List Fragment) (tick : Nat) :
    (e.takeReport line report tick).downlinkLoss =
      (Fragment.inbounds report).foldl .take e.downlinkLoss := by
  have hlocal : (e.takeLocal line report).downlinkLoss =
      (Fragment.inbounds report).foldl .take e.downlinkLoss := by
    rw [takeLocal, h]
    exact (List.foldl_hom Entry.downlinkLoss fun _ _ ↦ rfl).symm
  have hfar : ((e.takeLocal line report).takeFar line report).downlinkLoss =
      (e.takeLocal line report).downlinkLoss := by
    rw [takeFar, h]
    exact foldl_kept (f := takeRoundTrip) (p := Entry.downlinkLoss)
      (fun _ trip ↦ by cases trip <;> rfl) _ _
  exact hfar.trans hlocal

namespace Ledger

/-- A receive line has taken in the received streams of the reports on it. -/
theorem downlinkLoss_takeAll {line : Line} (h : line.direction = .receive)
    (history : List Reported) (ledger : Ledger) :
    ((ledger.takeAll history).entry line).downlinkLoss =
      ((reportsOn line history).flatMap Fragment.inbounds).foldl .take
        (ledger.entry line).downlinkLoss := by
  induction history generalizing ledger with
  | nil => rfl
  | cons reported rest ih =>
    refine (ih (ledger.takeReport reported.line reported.report reported.tick)).trans ?_
    by_cases hline : reported.line = line
    · rw [reportsOn, reportsOn, List.filter_cons_of_pos (by simpa using hline), List.map_cons,
        List.flatMap_cons, List.foldl_append, ← hline, entry_takeReport]
      congr 1
      split
      · exact Entry.downlinkLoss_takeReport _ (hline ▸ h) _ _
      · rename_i hconcerns
        rw [Fragment.inbounds_of_not_concerns hconcerns (hline ▸ h)]
        rfl
    · rw [reportsOn, reportsOn, List.filter_cons_of_neg (by simpa using hline), entry,
        ledger.get?_takeReport_of_ne hline]
      rfl

/-- From an empty ledger, the ratio of a receive line is that of the received streams. -/
theorem lossRatio_takeAll {line : Line} (h : line.direction = .receive)
    (history : List Reported) :
    (((takeAll ∅ history).entry line).receive.getD {}).lossRatio =
      (downlinkLoss Float ((reportsOn line history).flatMap Fragment.inbounds)).ratio := by
  have hempty : ((∅ : Ledger).entry line).downlinkLoss = .none := by
    show (Entry.new line.direction).downlinkLoss = _
    rw [h]
    rfl
  have htaken := downlinkLoss_takeAll h history ∅
  rw [hempty] at htaken
  exact congrArg DownlinkLoss.ratio htaken

theorem loss_entry (ledger : Ledger) (line : Line) :
    ((ledger.entry line).send.getD {}).loss = (ledger.uplinkBasis line).loss := by
  rw [entry, uplinkBasis]
  cases ledger.get? line with
  | none => cases line.direction <;> rfl
  | some e => rfl

/-- From an empty ledger, a send line has taken in the readings that the reports on it give. -/
theorem loss_takeAll {line : Line} (hsend : line.direction = .send) (history : List Reported) :
    (((takeAll ∅ history).entry line).send.getD {}).loss =
      uplinkLoss Float (lossReadings 0 (reportsOn line history)) := by
  rw [loss_entry, uplinkBasis_takeAll, UplinkBasis.loss_foldl_take hsend]
  rfl

/-- **Loss ratios are ratios.** Let reports on any lines be taken in. What the entry of a line then
keeps of losses are the steps of `uplinkLoss` and `downlinkLoss` in doubles, along what the reports
on the line gave. On exact fractions the same steps go through the same counts, and at each of them,
however counters may have moved or be missing:

* no division by zero is made, and each share lies between 0 and 1: the current one of a receive
  line, and the current, the overall and the worst one of a send line;
* the worst share is the largest of the current ones recorded so far, zero if there are none. -/
theorem loss_ratios (history : List Reported) (line : Line) :
    let entry := (takeAll ∅ history).entry line
    (line.direction = .receive →
      let streams := (reportsOn line history).flatMap Fragment.inbounds
      (entry.receive.getD {}).lossRatio = (downlinkLoss Float streams).ratio ∧
        ∀ part, part <+: streams → IsRatio (downlinkLoss (Option ℚ) part).ratio) ∧
    (line.direction = .send →
      let readings := lossReadings 0 (reportsOn line history)
      (entry.send.getD {}).loss = uplinkLoss Float readings ∧
        ∀ part, part <+: readings →
          let exact := uplinkLoss (Option ℚ) part
          exact.SameCounts (uplinkLoss Float part) ∧
            IsRatio exact.current ∧ IsRatio exact.overall ∧ IsRatio exact.worst ∧
            ∃ shares : List ℚ, recordedShares (Option ℚ) part = shares.map some ∧
              exact.worst = some (shares.foldl max 0)) := by
  intro entry
  refine ⟨fun hreceive ↦ ⟨lossRatio_takeAll hreceive history, fun part _ ↦
    isRatio_downlinkLoss part⟩, fun hsend ↦ ⟨loss_takeAll hsend history, fun part _ ↦ ?_⟩⟩
  have hexact := isExact_uplinkLoss part
  exact ⟨sameCounts_uplinkLoss _ _ part, hexact.current, hexact.overall, hexact.worst,
    worst_uplinkLoss part⟩

/-- On a send line half of the packets are lost; then its counters go backwards, and then none is
sent. On a receive line a quarter of the packets is lost. -/
theorem loss_ratios_after_restart :
    let line : Line := .send .video 0
    let line' : Line := .receive .video 0
    let far (lost : Int64) (sent : UInt64) : List Fragment :=
      [.outboundRtp { packetsSent := some sent }, .remoteInboundRtp { packetsLost := some lost }]
    let near : List Fragment :=
      [.inboundRtp { packetsLost := some 10, packetsReceived := some 30 }]
    let history : List Reported :=
      [⟨line, far 50 100, 1⟩, ⟨line', near, 1⟩, ⟨line, far (-3) 80, 2⟩, ⟨line, far 5 80, 3⟩]
    let readings : List LossReading := [⟨50, 100⟩, ⟨-3, 80⟩, ⟨5, 80⟩]
    let streams := (reportsOn line' history).flatMap Fragment.inbounds
    (((takeAll ∅ history).entry line).send.getD {}).loss = uplinkLoss Float readings ∧
      recordedShares (Option ℚ) readings = [some (1 / 2), some 0, some 0] ∧
      (uplinkLoss (Option ℚ) readings).worst = some (1 / 2) ∧
      (downlinkLoss (Option ℚ) streams).ratio = some (1 / 4) ∧
      IsRatio (downlinkLoss (Option ℚ) streams).ratio := by
  intro line line' far near history readings streams
  obtain ⟨hloss, hexact⟩ := (loss_ratios history line).2 rfl
  obtain ⟨-, hratio⟩ := (loss_ratios history line').1 rfl
  obtain ⟨-, -, -, -, shares, hshares, hworst⟩ := hexact readings List.prefix_rfl
  have hrecorded : recordedShares (Option ℚ) readings = [1 / 2, 0, 0].map some := by
    decide +kernel
  obtain rfl : shares = [1 / 2, 0, 0] :=
    List.map_injective_iff.2 (Option.some_injective ℚ) (hshares.symm.trans hrecorded)
  refine ⟨hloss, hrecorded, hworst.trans ?_, by decide +kernel, hratio streams List.prefix_rfl⟩
  norm_num

end Ledger

end MediaTelemetry
