import Mathlib.Algebra.GroupWithZero.Nat
import Mathlib.Data.List.DropRight
import MediaTelemetry.Proofs.Listing

/-!
# Packets are accounted for once

The packets of a line are counted twice over: sample by sample, against the mark of the previous
sample, and window by window, against the mark of the last reported window. This module shows that
the two agree while the line's packet count does not fall (`packets_accounted`).

* `packetsAt_after` is one sample: the count grows by what the sample counted on the line if it saw
  it, and not at all otherwise.
* `Accounts` is the invariant of a run: what the last reported window ended with, and what the
  samples since have counted, make up the count.
* A report passes over a line that was not seen during the window. Nothing is lost by that, because
  such a line still has the count of the window's start (`Accounts.idle`).
-/

namespace MediaTelemetry

/-! ### Counts -/

/-- The packet count that a ledger holds for a line; zero for a line that is not listed. -/
def Ledger.packetsAt (ledger : Ledger) (line : Line) : Nat :=
  (ledger.get? line).elim 0 (·.counters.packets line)

/-- The packets of the last sample, as the record of the line's direction has them. -/
def Entry.packetsPerTick (e : Entry) (line : Line) : Nat :=
  match line.direction with
  | .send => e.send.elim 0 (·.packetsPerTick)
  | .receive => e.receive.elim 0 (·.packetsPerTick)

/-- The packet count at the end of the last reported window. -/
def Measurement.reportedPackets (m : Measurement) (line : Line) : Nat :=
  ((Mark.of? m.reported line).getD {}).packets line

/-- The packets of the sample that the ledger holds for a line afterwards. -/
def Taking.packetsPerTick (t : Taking) (c : Settings) (line : Line) : Nat :=
  ((t.after c).ledger.get? line).elim 0 (·.packetsPerTick line)

/-- The packets of a line that samples counted, each of those that saw it. -/
def packetsSeen (c : Settings) (line : Line) (ts : List Taking) : Nat :=
  ((ts.filter fun t ↦ line ∈ (t.pass c).sweep.seen).map (·.packetsPerTick c line)).sum

/-- The samples since the last reported window. -/
def openWindow (c : Settings) (ts : List Taking) : List Taking :=
  ts.rtakeWhile fun t ↦ !(t.pass c).closes

theorem openWindow_concat (c : Settings) (ts : List Taking) (t : Taking) :
    openWindow c (ts ++ [t]) = if (t.pass c).closes then [] else openWindow c ts ++ [t] := by
  split
  · rename_i hcloses
    exact List.rtakeWhile_concat_neg _ _ _ (by simp [hcloses])
  · rename_i hcloses
    exact List.rtakeWhile_concat_pos _ _ _ (by simp [hcloses])

theorem packetsSeen_append (c : Settings) (line : Line) (ts ts' : List Taking) :
    packetsSeen c line (ts ++ ts') = packetsSeen c line ts + packetsSeen c line ts' := by
  rw [packetsSeen, List.filter_append, List.map_append, List.sum_append]
  rfl

theorem grown_eq_sub {current previous : Nat} (h : previous ≤ current) :
    grown current previous = current - previous :=
  if_neg (Nat.not_lt.2 h)

theorem Counters.packets_getD (ledger : Ledger) (line : Line) :
    ((ledger.countersAt line).getD {}).packets line = ledger.packetsAt line := by
  rw [Ledger.countersAt, Ledger.packetsAt]
  cases ledger.get? line with
  | none => rw [Option.map_none, Option.getD_none, packets]; cases line.direction <;> rfl
  | some e => rfl

theorem Entry.packetsPerTick_setTickRates (e : Entry) (line : Line) (mark : Option Mark)
    (elapsed : Span) :
    (e.setTickRates line mark elapsed).packetsPerTick line = e.packetGrowth line mark := by
  rw [packetsPerTick, setTickRates, packetGrowth, growth, Counters.packets, Counters.packets]
  cases line.direction <;> rfl

/-! ### One sample -/

namespace Taking

variable {t : Taking} {c : Settings} {d : Host} {line : Line}

/-- How the sample can leave a line: seen, or with the counters that it had. -/
theorem swept_cases {e : Entry} (h : (t.pass c).swept.get? line = some e) :
    (line ∈ (t.pass c).sweep.seen ∧ e.notes.lastSeen = t.before.ticks + 1) ∨
      (line ∉ (t.pass c).sweep.seen ∧ e.counters.packets line = t.before.ledger.packetsAt line ∧
        ∃ e' ∈ t.before.ledger.get? line, e.notes.lastSeen = e'.notes.lastSeen) := by
  rcases Measurement.swept_cases h with hseen | ⟨hunseen, e', he', hcounters, hlast⟩
  · exact .inl hseen
  · refine .inr ⟨hunseen, ?_, e', he', hlast⟩
    rw [Ledger.packetsAt, he', Option.elim_some, hcounters]

/-- The count of a line after a sample is that which the sweep found. -/
theorem packetsAt_of_swept {e : Entry} (h : (t.pass c).swept.get? line = some e) :
    (t.after c).ledger.packetsAt line = e.counters.packets line := by
  rw [Ledger.packetsAt, get?_after, h, Option.map_some, Option.elim_some,
    (t.before.sameBooks_finish c _ _ line e).counters]

/-- A line that the sweep does not list has no packets before or after. -/
theorem packetsAt_of_not_swept (h : (t.pass c).swept.get? line = none) :
    t.before.ledger.packetsAt line = 0 ∧ (t.after c).ledger.packetsAt line = 0 ∧
      t.packetsPerTick c line = 0 := by
  rw [Ledger.packetsAt, Ledger.packetsAt, packetsPerTick, get?_after, h,
    Measurement.get?_eq_none_of_swept h]
  exact ⟨rfl, rfl, rfl⟩

/-- A sample that sees a line counts its packets since the previous sample. -/
theorem packetsPerTick_of_seen {e : Entry} (h : (t.pass c).swept.get? line = some e)
    (hseen : line ∈ (t.pass c).sweep.seen) :
    t.packetsPerTick c line = e.packetGrowth line t.before.previous := by
  obtain ⟨hsend, hreceive⟩ := t.before.records_finish c t.sample.time t.sample.snapshot line e
  have hrate : (t.before.finish c t.sample.time t.sample.snapshot line e).packetsPerTick line =
      (t.before.rate c t.sample.time t.sample.snapshot line e).packetsPerTick line := by
    rw [Entry.packetsPerTick, hsend, hreceive, Entry.packetsPerTick]
  rw [packetsPerTick, get?_after, h, Option.map_some, Option.elim_some, hrate, Measurement.rate,
    if_pos (show line ∈ (t.before.pass c _ _).sweep.seen from hseen),
    Entry.packetsPerTick_setTickRates]

/-- **One sample**: the count grows by what the sample counted, if it saw the line. -/
theorem packetsAt_after (hcoherent : t.before.Coherent)
    (hgrows : t.before.ledger.packetsAt line ≤ (t.after c).ledger.packetsAt line) :
    t.before.ledger.packetsAt line + packetsSeen c line [t] =
      (t.after c).ledger.packetsAt line := by
  have hseen : packetsSeen c line [t] =
      if line ∈ (t.pass c).sweep.seen then t.packetsPerTick c line else 0 := by
    rw [packetsSeen]
    by_cases h : line ∈ (t.pass c).sweep.seen <;> simp [h]
  rw [hseen]
  cases h : (t.pass c).swept.get? line with
  | none =>
    obtain ⟨hbefore, hafter, hticks⟩ := packetsAt_of_not_swept h
    rw [hbefore, hafter, hticks]
    split <;> rfl
  | some e =>
    have hafter := packetsAt_of_swept h
    rcases swept_cases h with ⟨hmem, -⟩ | ⟨hmem, hbefore, -⟩
    · -- the mark it is measured against is in step with the ledger
      rw [if_pos hmem, packetsPerTick_of_seen h hmem, Entry.packetGrowth, hcoherent line,
        Counters.packets_getD, ← hafter, grown_eq_sub hgrows]
      omega
    · rw [if_neg hmem, hafter, hbefore, Nat.add_zero]

/-- A sample that closes a window reports the count that it leaves. -/
theorem reportedPackets_after :
    (t.after c).reportedPackets line =
      if (t.pass c).closes then (t.after c).ledger.packetsAt line
      else t.before.reportedPackets line := by
  have hreported : (t.after c).reported =
      if (t.pass c).closes then some (Ledger.mark (t.pass c).noted (t.pass c).tick (t.pass c).now)
      else t.before.reported :=
    rfl
  rw [Measurement.reportedPackets, hreported]
  split
  · have hcounters : Ledger.countersAt (t.pass c).noted line = (t.after c).ledger.countersAt line :=
      (t.before.countersAt_noted c _ _ line).trans (t.before.countersAt_take c _ _ line).symm
    rw [Mark.of?_mark, hcounters, Counters.packets_getD]
  · rfl

end Taking

/-! ### The accounts of a run -/

/-- How the two ways to count the packets of a line stand after samples. -/
structure Accounts (c : Settings) (line : Line) (ts : List Taking) (m : Measurement) : Prop where
  coherent : m.Coherent
  own : m.OwnRecords
  reported : m.ReportedAtSample
  /-- What was reported and what was counted since make up the count. -/
  balance : m.reportedPackets line + packetsSeen c line (openWindow c ts) = m.ledger.packetsAt line
  /-- A line not seen since the last reported window has the count that it had then. -/
  idle : ∀ mark ∈ m.reported, ∀ e ∈ m.ledger.get? line, e.notes.lastSeen ≤ mark.tick →
    m.ledger.packetsAt line = m.reportedPackets line
  /-- What was reported is the count at the last sample that closed a window. -/
  latest : m.reportedPackets line = ((ts.filter fun t ↦ (t.pass c).closes).getLast?).elim 0
    fun t ↦ (t.after c).ledger.packetsAt line

namespace Accounts

variable {c : Settings} {d : Host} {line : Line} {ts : List Taking} {m : Measurement}
  {t : Taking}

theorem initial (c : Settings) (line : Line) (monitor : Monitor) :
    Accounts c line [] { monitor } where
  coherent := Measurement.coherent_initial monitor
  own := fun _ _ h ↦ absurd h (by simp)
  balance := by
    rw [Measurement.reportedPackets, Ledger.packetsAt, openWindow, Counters.packets]
    cases line.direction <;> rfl
  reported := fun _ h ↦ absurd h (by simp)
  idle := fun _ h ↦ absurd h (by simp)
  latest := by
    rw [Measurement.reportedPackets, Counters.packets]
    cases line.direction <;> rfl

theorem expect (h : Accounts c line ts m) (status : Status) :
    Accounts c line ts { m with status } :=
  ⟨h.coherent, h.own, h.reported, h.balance, h.idle, h.latest⟩

/-- A line that the sample finds not seen since the last reported window has the count of then. -/
theorem idle_swept (h : Accounts c line ts t.before) {mark : Mark}
    (hmark : mark ∈ t.before.reported) {e : Entry} (he : (t.pass c).swept.get? line = some e)
    (hlast : e.notes.lastSeen ≤ mark.tick) :
    (t.after c).ledger.packetsAt line = t.before.reportedPackets line := by
  have htick := h.reported mark hmark
  rcases Taking.swept_cases he with ⟨-, hseen⟩ | ⟨-, hbefore, e', he', hseen⟩
  · -- seen at this sample, so after the mark
    omega
  · rw [Taking.packetsAt_of_swept he, hbefore, h.idle mark hmark e' he' (hseen ▸ hlast)]

/-- **A sample keeps the accounts.** -/
theorem take (h : Accounts c line ts t.before)
    (hgrows : t.before.ledger.packetsAt line ≤ (t.after c).ledger.packetsAt line) :
    Accounts c line (ts ++ [t]) (t.after c) := by
  have hafter := Taking.packetsAt_after h.coherent hgrows
  have hcoherent : (t.after c).Coherent := Measurement.coherent_take _ _ _ _
  have hown : (t.after c).OwnRecords := h.own.take
  have hticks : (t.after c).ReportedAtSample := h.reported.take
  by_cases hcloses : (t.pass c).closes = true
  · -- a new window opens, with nothing counted yet
    have hmark : (t.after c).reportedPackets line = (t.after c).ledger.packetsAt line := by
      rw [Taking.reportedPackets_after, if_pos hcloses]
    have hwindow : openWindow c (ts ++ [t]) = [] := by rw [openWindow_concat, if_pos hcloses]
    refine ⟨hcoherent, hown, hticks, ?_, fun _ _ _ _ _ ↦ hmark.symm, ?_⟩
    · rw [hwindow, hmark]
      rfl
    · rw [hmark, List.filter_append, List.filter_singleton, hcloses, cond_true,
        List.getLast?_concat, Option.elim_some]
  · -- the window goes on
    have hreported : (t.after c).reported = t.before.reported := if_neg hcloses
    have hmark : (t.after c).reportedPackets line = t.before.reportedPackets line := by
      rw [Taking.reportedPackets_after, if_neg hcloses]
    have hwindow : openWindow c (ts ++ [t]) = openWindow c ts ++ [t] := by
      rw [openWindow_concat, if_neg hcloses]
    refine ⟨hcoherent, hown, hticks, ?_, ?_, ?_⟩
    · rw [hmark, hwindow, packetsSeen_append, ← Nat.add_assoc, h.balance, hafter]
    · rw [hreported, hmark]
      intro mark hmark e he hlast
      rw [Taking.get?_after, Option.mem_def, Option.map_eq_some_iff] at he
      obtain ⟨e, he, rfl⟩ := he
      rw [(t.before.sameBooks_finish c _ _ line e).lastSeen] at hlast
      exact h.idle_swept hmark he hlast
    · rw [hmark, h.latest, List.filter_append, List.filter_singleton,
        Bool.eq_false_iff.2 hcloses, cond_false, List.append_nil]

/-- What was reported before, and a figure that a sample reports, make up the count. -/
theorem reported_add (h : Accounts c line ts t.before)
    (hgrows : t.before.ledger.packetsAt line ≤ (t.after c).ledger.packetsAt line) :
    ∀ p ∈ t.packets c d line,
      t.before.reportedPackets line + p = (t.after c).ledger.packetsAt line := by
  intro p hp
  rw [Taking.packets_eq _ _ _ _ h.own] at hp
  split at hp
  · rw [Option.mem_toList, Option.map_eq_some_iff] at hp
    obtain ⟨e, he, rfl⟩ := hp
    rw [Option.filter_eq_some_iff, Taking.get?_noted, Option.map_eq_some_iff] at he
    obtain ⟨⟨e', he', rfl⟩, -⟩ := he
    have hcounters :=
      (t.before.sameBooks_rateAndNote c t.sample.time t.sample.snapshot line e').counters
    have hbalance := h.balance
    have hreported : t.before.reportedPackets line ≤ (t.after c).ledger.packetsAt line := by omega
    have hgrowth : Entry.packetGrowth
        (t.before.rateAndNote c t.sample.time t.sample.snapshot line e') line t.before.reported =
        (t.after c).ledger.packetsAt line - t.before.reportedPackets line := by
      rw [Entry.packetGrowth, hcounters, ← Taking.packetsAt_of_swept he']
      exact grown_eq_sub hreported
    omega
  · exact absurd hp (by simp)

/-- Where a window closes on a line that is requested, what was reported then is the count. -/
theorem reported_sum (h : Accounts c line ts t.before)
    (hgrows : t.before.ledger.packetsAt line ≤ (t.after c).ledger.packetsAt line)
    (hcloses : (t.pass c).closes = true)
    (hrequested : ∀ e ∈ (t.after c).ledger.get? line,
      e.notes.isRequestedAt t.sample.time c.recency = true) :
    t.before.reportedPackets line + (t.packets c d line).sum =
      (t.after c).ledger.packetsAt line := by
  have hadd := h.reported_add (d := d) hgrows
  rw [Taking.packets_eq _ _ _ _ h.own, if_pos hcloses, Taking.get?_noted] at hadd ⊢
  cases he : (t.pass c).swept.get? line with
  | none =>
    obtain ⟨hbefore, hafter, -⟩ := Taking.packetsAt_of_not_swept he
    have hbalance := h.balance
    rw [Option.map_none, Option.filter_none, Option.map_none, Option.toList_none, List.sum_nil]
    omega
  | some e =>
    have hnoted := t.before.sameBooks_rateAndNote c t.sample.time t.sample.snapshot line e
    rw [he, Option.map_some] at hadd
    rw [Option.map_some]
    cases hlists : (t.before.qualityWindow c d (t.pass c)).lists
        (t.before.rateAndNote c t.sample.time t.sample.snapshot line e) with
    | true =>
      rw [Option.filter_some_pos hlists, Option.map_some, Option.toList_some] at hadd ⊢
      rw [List.sum_singleton]
      exact hadd _ (List.mem_singleton_self _)
    | false =>
      -- requested, so passed over because it was not seen during the window
      have hafter : (t.after c).ledger.get? line =
          some (t.before.finish c t.sample.time t.sample.snapshot line e) := by
        rw [Taking.get?_after, he, Option.map_some]
      have hrequest := hrequested _ hafter
      rw [(t.before.sameBooks_finish c _ _ line e).isRequestedAt,
        ← hnoted.isRequestedAt] at hrequest
      rw [Option.filter_some_neg hlists, Option.map_none, Option.toList_none, List.sum_nil,
        Nat.add_zero]
      rw [Window.lists, Bool.and_eq_false_iff, Bool.not_eq_false'] at hlists
      have hmisses := hlists.resolve_right (by rw [Bool.not_eq_false]; exact hrequest)
      obtain ⟨mark, hmark, hlast⟩ := (Option.any_eq_true _ _).1 hmisses
      have hlast := of_decide_eq_true hlast
      rw [hnoted.lastSeen] at hlast
      exact (h.idle_swept hmark he hlast).symm

end Accounts

namespace Meter

variable {c : Settings} {d : Host} {monitor : Monitor} {m : Meter}

theorem accounts_run (hm : Meter.new c d monitor = .ok m) (ops : List Op) (line : Line)
    (hgrows : ∀ t ∈ m.history ops,
      t.before.ledger.packetsAt line ≤ (t.after c).ledger.packetsAt line) :
    Accounts c line (m.history ops) (m.run ops).measurement := by
  refine history_induction
    (P := fun ts before ↦
      (∀ t ∈ ts, t.before.ledger.packetsAt line ≤ (t.after c).ledger.packetsAt line) →
        Accounts c line ts before) m ?_ ?_ ?_ ops hgrows
  · intro _
    rw [measurement_of_new hm]
    exact .initial c line monitor
  · intro ts before status h hgrows
    exact (h hgrows).expect status
  · intro ts t h hgrows
    rw [settings_of_new hm]
    exact (h fun u hu ↦ hgrows u (List.mem_append_left _ hu)).take (hgrows t (by simp))

/-- While a line is requested whenever a window closes, what was reported is the count at the last
such sample. -/
theorem sum_packets_history (hm : Meter.new c d monitor = .ok m) (ops : List Op) (line : Line)
    (hgrows : ∀ t ∈ m.history ops,
      t.before.ledger.packetsAt line ≤ (t.after c).ledger.packetsAt line)
    (hrequested : ∀ t ∈ m.history ops, (t.pass c).closes = true →
      ∀ e ∈ (t.after c).ledger.get? line,
        e.notes.isRequestedAt t.sample.time c.recency = true) :
    ((m.history ops).flatMap (·.packets c d line)).sum =
      (m.run ops).measurement.reportedPackets line := by
  have hpair := history_induction
    (P := fun ts before ↦
      (∀ t ∈ ts, t.before.ledger.packetsAt line ≤ (t.after c).ledger.packetsAt line) →
      (∀ t ∈ ts, (t.pass c).closes = true → ∀ e ∈ (t.after c).ledger.get? line,
        e.notes.isRequestedAt t.sample.time c.recency = true) →
      Accounts c line ts before ∧
        (ts.flatMap (·.packets c d line)).sum = before.reportedPackets line) m ?_ ?_ ?_ ops
  · exact (hpair hgrows hrequested).2
  · intro _ _
    rw [measurement_of_new hm]
    have hinitial := Accounts.initial c line monitor
    exact ⟨hinitial, hinitial.latest.symm⟩
  · intro ts before status h hgrows hrequested
    obtain ⟨haccounts, hsum⟩ := h hgrows hrequested
    exact ⟨haccounts.expect status, hsum⟩
  · intro ts t h hgrows hrequested
    rw [settings_of_new hm]
    have hgrow := hgrows t (by simp)
    obtain ⟨haccounts, hsum⟩ := h (fun u hu ↦ hgrows u (List.mem_append_left _ hu))
      fun u hu ↦ hrequested u (List.mem_append_left _ hu)
    refine ⟨haccounts.take hgrow, ?_⟩
    rw [List.flatMap_append, List.sum_append, hsum, List.flatMap_singleton,
      Taking.reportedPackets_after]
    split
    · rename_i hcloses
      exact haccounts.reported_sum hgrow hcloses (hrequested t (by simp) hcloses)
    · rename_i hcloses
      rw [Taking.packets_eq _ _ _ _ haccounts.own, if_neg hcloses, List.sum_nil, Nat.add_zero]

/-- **Packets are neither lost nor counted twice.** Take any operations on a new meter during which
the packet count of a line does not fall. A packet figure reported for the line is the sum of what
the samples of its window counted, each of those that saw the line. And if the line, once it is
listed, is requested whenever a window closes, then all its figures so far sum to its packet count
at the last such sample. -/
theorem packets_accounted (hm : Meter.new c d monitor = .ok m) (ops : List Op) (line : Line)
    (hgrows : ∀ t ∈ m.history ops,
      t.before.ledger.packetsAt line ≤ (t.after c).ledger.packetsAt line) :
    (∀ earlier t later, m.history ops = earlier ++ t :: later →
      ∀ p ∈ t.packets c d line, p = packetsSeen c line (openWindow c earlier ++ [t])) ∧
    ((∀ t ∈ m.history ops, (t.pass c).closes = true →
        ∀ e ∈ (t.after c).ledger.get? line,
          e.notes.isRequestedAt t.sample.time c.recency = true) →
      ((m.history ops).flatMap (·.packets c d line)).sum =
        (((m.history ops).filter fun t ↦ (t.pass c).closes).getLast?).elim 0
          fun t ↦ (t.after c).ledger.packetsAt line) := by
  constructor
  · intro earlier t later hsplit p hp
    obtain ⟨ops', hearlier, hbefore⟩ := m.history_split hsplit
    have hmem : ∀ u ∈ earlier ++ [t], u ∈ m.history ops := by
      intro u hu
      rw [hsplit]
      rcases List.mem_append.1 hu with hu | hu
      · exact List.mem_append_left _ hu
      · exact List.mem_append_right _ (List.mem_singleton.1 hu ▸ List.mem_cons_self)
    have haccounts : Accounts c line earlier t.before := by
      have h := accounts_run hm ops' line fun u hu ↦
        hgrows u (hmem u (List.mem_append_left _ (hearlier ▸ hu)))
      rwa [hearlier, hbefore] at h
    have hgrow := hgrows t (hmem t (by simp))
    -- the figure and the samples of the window both lead from the last report to the count
    have hreported := haccounts.reported_add hgrow p hp
    have hafter := Taking.packetsAt_after haccounts.coherent hgrow
    have hbalance := haccounts.balance
    rw [packetsSeen_append]
    omega
  · intro hrequested
    rw [sum_packets_history hm ops line hgrows hrequested]
    exact (accounts_run hm ops line hgrows).latest

/-- A microphone sends five packets until the first sample and seven until the second, which closes
the first window: twelve are reported. -/
theorem twelve_packets_accounted :
    let m : Meter := { settings := {}, host := {} }
    let sent (n : UInt64) : Snapshot :=
      { audio := { senders := [
        { requested := some true, report := [.outboundRtp { packetsSent := some n }] }] } }
    let ops : List Op := [.start 0, .timeout 0, .nextRequest, .read ⟨⟨1, 0⟩, 5000, sent 5⟩,
      .timeout 60000, .nextRequest, .read ⟨⟨1, 1⟩, 60000, sent 12⟩]
    let line : Line := .send .audio 0
    Meter.new {} {} = .ok m ∧
      (∀ t ∈ m.history ops, t.before.ledger.packetsAt line ≤ (t.after {}).ledger.packetsAt line) ∧
      ((m.history ops).flatMap (·.packets {} {} line)).sum = 12 := by
  intro m sent ops line
  have hm : Meter.new {} {} = .ok m := rfl
  have hgrows : ∀ t ∈ m.history ops,
      t.before.ledger.packetsAt line ≤ (t.after {}).ledger.packetsAt line := by decide +kernel
  have hrequested : ∀ t ∈ m.history ops, (t.pass {}).closes = true →
      ∀ e ∈ (t.after {}).ledger.get? line,
        e.notes.isRequestedAt t.sample.time ({} : Settings).recency = true := by
    decide +kernel
  refine ⟨hm, hgrows, ((packets_accounted hm ops line hgrows).2 hrequested).trans ?_⟩
  decide +kernel

end Meter

end MediaTelemetry
