import MediaTelemetry.Notice
import MediaTelemetry.Proofs.Membership
import MediaTelemetry.Proofs.Sample

/-!
# Counter figures of a quality report

On its way into a report a counter passes from the record of its line into the line's counters, into
growth, into rates and into an entry, which is written under names of its own. Tables say where each
counter has to arrive (`SendRecord.counterFigures`, `ReceiveRecord.counterFigures`), and what is
written there is what the counter of the line's own record grew by (`counters_written`).

* `resetDifference` is the growth of any counter, signed or not; both kinds of growth that the
  library computes are cases of it (`cast_grown`, `cast_grownSigned`).
* `made_at` finds the entries of a line by look-up, which leaves other lines without a say.
-/

namespace MediaTelemetry

/-! ### Differences -/

/-- What a counter grew by: the difference, or after a reset what it has counted since, where less
than nothing is nothing. -/
def resetDifference (now before : Int) : Int := if now < before then max now 0 else now - before

theorem cast_grown (now before : Nat) : (grown now before : Int) = resetDifference now before := by
  unfold grown resetDifference
  split <;> split <;> omega

theorem cast_grownSigned (now before : Int) :
    (grownSigned now before : Int) = resetDifference now before := by
  unfold grownSigned resetDifference
  split <;> omega

theorem cast_fecUsed (received discarded : Nat) :
    (fecUsed received discarded : Int) = max 0 (received - discarded : Int) := by
  unfold fecUsed
  omega

/-- Growth from the counters of an earlier record, if there is one, is growth from its count. -/
theorem cast_grown_elim {ρ κ : Type} (counters : ρ → κ) (zero : κ) (count : κ → Nat)
    (hzero : count zero = 0) (r : ρ) (before : Option ρ) :
    (grown (count (counters r)) (count (before.elim zero counters)) : Int) =
      resetDifference (count (counters r)) (before.elim 0 fun r ↦ (count (counters r) : Int)) := by
  rw [cast_grown]
  cases before with
  | none => rw [Option.elim_none, Option.elim_none, hzero, Int.natCast_zero]
  | some r' => rfl

/-! ### Tables -/

/-- A counter of records `ρ` and where entries of a report have its growth: in which part, and under
which name. -/
structure CounterFigure (ρ : Type) where
  part : String
  name : String
  counter : ρ → Int

/-- What is written in a part of an object, under a name. -/
def Json.within? (v : Json) (part name : String) : Option Json :=
  (v.member? part).bind (·.member? name)

/-- The counters of send records. -/
def SendRecord.counterFigures : List (CounterFigure SendRecord) := [
  ⟨"common", "rtpPackets", (·.packets)⟩,
  ⟨"common", "mediaHopByHopLost", (·.loss.total)⟩,
  ⟨"common", "rtpHopByHopLost", (·.loss.total)⟩,
  ⟨"stream", "transmittedKeyFrames", (·.keyFrames)⟩,
  ⟨"stream", "nackCount", (·.nacks)⟩,
  ⟨"stream", "pliCount", (·.plis)⟩]

/-- The counters of receive records. -/
def ReceiveRecord.counterFigures : List (CounterFigure ReceiveRecord) := [
  ⟨"common", "rtpPackets", (·.packets)⟩,
  ⟨"common", "mediaHopByHopLost", (·.lost)⟩,
  ⟨"common", "rtpHopByHopLost", (·.lost)⟩,
  ⟨"stream", "receivedKeyFrames", (·.keyFrames)⟩,
  ⟨"stream", "framesDropped", (·.framesDropped)⟩]

/-- What is known to be sent on a line. -/
def Ledger.sent? (ledger : Ledger) (line : Line) : Option SendRecord :=
  (ledger.get? line).bind (·.send)

/-- What is known to be received on a line. -/
def Ledger.received? (ledger : Ledger) (line : Line) : Option ReceiveRecord :=
  (ledger.get? line).bind (·.receive)

namespace QualityReport

/-- The entries of send lines. -/
def transmit (r : QualityReport) : List (QualityEntry TransmitFigures) :=
  r.audioTransmit ++ r.videoTransmit

/-- The entries of receive lines. -/
def receive (r : QualityReport) : List (QualityEntry ReceiveFigures) :=
  r.audioReceive ++ r.videoReceive

end QualityReport

/-- The window that starts with the mark of a ledger, if one is given. -/
def Window.since (w : Window) (earlier : Option Ledger) (tick time : Nat) : Window :=
  { w with start := earlier.map (·.mark tick time) }

/-! ### Growth of records -/

/-- A whole number is written like the natural number that it is. -/
theorem Json.nat_eq_int {n : Nat} {z : Int} (h : (n : Int) = z) : Json.nat n = .int z :=
  congrArg Json.int h

section Growth

variable (earlier : Option Ledger) (line : Line)

/-- The mark of a ledger has the counters of its entries. -/
theorem Mark.of?_map_mark (tick time : Nat) :
    Mark.of? (earlier.map (·.mark tick time)) line =
      (earlier.bind (·.get? line)).map (·.counters) := by
  cases earlier with
  | none => rfl
  | some ledger => exact Mark.of?_mark ledger tick time line

/-- The counters of a send record at a moment. -/
def SendRecord.counters (s : SendRecord) : SendCounters :=
  ({ send := some s } : Entry).counters.send

/-- The counters of a receive record at a moment. -/
def ReceiveRecord.counters (r : ReceiveRecord) : ReceiveCounters :=
  ({ receive := some r } : Entry).counters.receive

/-- What is sent on a line has grown from the record that the earlier ledger had. -/
theorem Entry.growth_send {e : Entry} {s : SendRecord} (hs : e.send = some s) (tick time : Nat) :
    (e.growth line (earlier.map (·.mark tick time))).send =
      s.counters.since ((earlier.bind (·.sent? line)).elim {} SendRecord.counters) := by
  have hnow : e.counters.send = s.counters := by
    rw [Entry.counters, hs]
    rfl
  have hbefore : ∀ before : Option Entry, ((before.map Entry.counters).getD {}).send =
      (before.bind (·.send)).elim {} SendRecord.counters := by
    rintro (_ | ⟨send, receive, notes⟩)
    · rfl
    · cases send <;> rfl
  rw [Entry.growth, Mark.of?_map_mark, Counters.since]
  dsimp only
  rw [hnow, hbefore, Option.bind_assoc]
  rfl

/-- What is received on a line has grown from the record that the earlier ledger had. -/
theorem Entry.growth_receive {e : Entry} {r : ReceiveRecord} (hr : e.receive = some r)
    (tick time : Nat) :
    (e.growth line (earlier.map (·.mark tick time))).receive =
      r.counters.since ((earlier.bind (·.received? line)).elim {} ReceiveRecord.counters) := by
  have hnow : e.counters.receive = r.counters := by
    rw [Entry.counters, hr]
    rfl
  have hbefore : ∀ before : Option Entry, ((before.map Entry.counters).getD {}).receive =
      (before.bind (·.receive)).elim {} ReceiveRecord.counters := by
    rintro (_ | ⟨send, receive, notes⟩)
    · rfl
    · cases receive <;> rfl
  rw [Entry.growth, Mark.of?_map_mark, Counters.since]
  dsimp only
  rw [hnow, hbefore, Option.bind_assoc]
  rfl

end Growth

/-! ### Entries -/

namespace Window

variable (w : Window) (earlier : Option Ledger) (tick time : Nat) {line : Line} {e : Entry}

/-- **The entry of a send line** has the growth of the counters of the line's send record. -/
theorem written_transmitEntry (hsend : line.direction = .send) {s : SendRecord}
    (hs : e.send = some s) :
    let entry := ((w.since earlier tick time).transmitEntry line e s).toJson TransmitFigures.toJson
    let difference (counter : SendRecord → Int) : Int :=
      resetDifference (counter s) ((earlier.bind (·.sent? line)).elim 0 counter)
    (∀ f ∈ SendRecord.counterFigures,
        entry.within? f.part f.name = some (.int (difference f.counter))) ∧
      entry.within? "common" "fecPackets" = some (.int 0) := by
  intro entry difference
  have hgrowth : (e.growth line (w.since earlier tick time).start).send = _ :=
    Entry.growth_send earlier line hs tick time
  have hrates : (w.since earlier tick time).rates line e =
      (e.growth line (w.since earlier tick time).start).rates line w.span := rfl
  rw [Growth.rates, hsend] at hrates
  dsimp only at hrates
  rw [hgrowth] at hrates
  subst difference
  -- of the earlier ledger only its record of the line matters from here on
  generalize earlier.bind (·.sent? line) = before at hgrowth hrates ⊢
  have hgrown := fun count hzero ↦ cast_grown_elim SendRecord.counters {} count hzero s before
  have hpackets : (((w.since earlier tick time).rates line e).packets : Int) =
      resetDifference s.packets (before.elim 0 (·.packets)) := by
    rw [hrates]
    exact hgrown (·.packets) rfl
  have hlost : (((w.since earlier tick time).rates line e).lost : Int) =
      resetDifference s.loss.total (before.elim 0 (·.loss.total)) := by
    rw [hrates]
    refine (cast_grownSigned ..).trans ?_
    cases before <;> rfl
  have hkeyFrames : ((e.growth line (w.since earlier tick time).start).send.keyFrames : Int) =
      resetDifference s.keyFrames (before.elim 0 (·.keyFrames)) := by
    rw [hgrowth]
    exact hgrown (·.keyFrames) rfl
  have hnacks : ((e.growth line (w.since earlier tick time).start).send.nacks : Int) =
      resetDifference s.nacks (before.elim 0 (·.nacks)) := by
    rw [hgrowth]
    exact hgrown (·.nacks) rfl
  have hplis : ((e.growth line (w.since earlier tick time).start).send.plis : Int) =
      resetDifference s.plis (before.elim 0 (·.plis)) := by
    rw [hgrowth]
    exact hgrown (·.plis) rfl
  have hfec : (((w.since earlier tick time).rates line e).fecPackets : Int) = 0 := by
    rw [hrates]
    rfl
  refine ⟨?_, congrArg some (Json.nat_eq_int hfec)⟩
  simp only [SendRecord.counterFigures, List.forall_mem_cons]
  exact ⟨congrArg some (Json.nat_eq_int hpackets), congrArg some (Json.nat_eq_int hlost),
    congrArg some (Json.nat_eq_int hlost), congrArg some (Json.nat_eq_int hkeyFrames),
    congrArg some (Json.nat_eq_int hnacks), congrArg some (Json.nat_eq_int hplis), nofun⟩

/-- **The entry of a receive line** has the growth of the counters of the line's receive record, and
of its error-correction packets those received less those discarded. -/
theorem written_receiveEntry (hreceive : line.direction = .receive) {r : ReceiveRecord}
    (hr : e.receive = some r) :
    let entry := ((w.since earlier tick time).receiveEntry line e r).toJson ReceiveFigures.toJson
    let difference (counter : ReceiveRecord → Int) : Int :=
      resetDifference (counter r) ((earlier.bind (·.received? line)).elim 0 counter)
    (∀ f ∈ ReceiveRecord.counterFigures,
        entry.within? f.part f.name = some (.int (difference f.counter))) ∧
      entry.within? "common" "fecPackets" =
        some (.int (max 0 (difference (·.fecReceived) - difference (·.fecDiscarded)))) := by
  intro entry difference
  have hgrowth : (e.growth line (w.since earlier tick time).start).receive = _ :=
    Entry.growth_receive earlier line hr tick time
  have hrates : (w.since earlier tick time).rates line e =
      (e.growth line (w.since earlier tick time).start).rates line w.span := rfl
  rw [Growth.rates, hreceive] at hrates
  dsimp only at hrates
  rw [hgrowth] at hrates
  subst difference
  -- of the earlier ledger only its record of the line matters from here on
  generalize earlier.bind (·.received? line) = before at hgrowth hrates ⊢
  have hgrown := fun count hzero ↦ cast_grown_elim ReceiveRecord.counters {} count hzero r before
  have hpackets : (((w.since earlier tick time).rates line e).packets : Int) =
      resetDifference r.packets (before.elim 0 (·.packets)) := by
    rw [hrates]
    exact hgrown (·.packets) rfl
  have hlost : (((w.since earlier tick time).rates line e).lost : Int) =
      resetDifference r.lost (before.elim 0 (·.lost)) := by
    rw [hrates]
    refine (cast_grownSigned ..).trans ?_
    cases before <;> rfl
  have hkeyFrames : ((e.growth line (w.since earlier tick time).start).receive.keyFrames : Int) =
      resetDifference r.keyFrames (before.elim 0 (·.keyFrames)) := by
    rw [hgrowth]
    exact hgrown (·.keyFrames) rfl
  have hdropped : ((e.growth line (w.since earlier tick time).start).receive.framesDropped : Int) =
      resetDifference r.framesDropped (before.elim 0 (·.framesDropped)) := by
    rw [hgrowth]
    exact hgrown (·.framesDropped) rfl
  have hfec : (((w.since earlier tick time).rates line e).fecPackets : Int) =
      max 0 (resetDifference r.fecReceived (before.elim 0 (·.fecReceived)) -
        resetDifference r.fecDiscarded (before.elim 0 (·.fecDiscarded))) := by
    rw [hrates]
    refine (cast_fecUsed ..).trans ?_
    exact congrArg₂ (fun received discarded ↦ max 0 (received - discarded))
      (hgrown (·.fecReceived) rfl) (hgrown (·.fecDiscarded) rfl)
  refine ⟨?_, congrArg some (Json.nat_eq_int hfec)⟩
  simp only [ReceiveRecord.counterFigures, List.forall_mem_cons]
  exact ⟨congrArg some (Json.nat_eq_int hpackets), congrArg some (Json.nat_eq_int hlost),
    congrArg some (Json.nat_eq_int hlost), congrArg some (Json.nat_eq_int hkeyFrames),
    congrArg some (Json.nat_eq_int hdropped), nofun⟩

/-! ### The entries of a direction -/

section Made

variable {φ ρ : Type}

/-- The entries of the lines of a direction that the window keeps, those of sound first. -/
def made (ledger : Ledger) (direction : Direction) (record : Entry → Option ρ)
    (entry : Line → Entry → ρ → QualityEntry φ) : List (QualityEntry φ) :=
  [true, false].flatMap fun audio ↦
    ledger.entries.filterMap (w.make? direction audio record entry)

theorem transmit_report (ledger : Ledger) :
    (w.report ledger).transmit = w.made ledger .send (·.send) w.transmitEntry := by
  simp only [made, ← w.transmit?_eq, List.flatMap_cons, List.flatMap_nil, List.append_nil]
  rfl

theorem receive_report (ledger : Ledger) :
    (w.report ledger).receive = w.made ledger .receive (·.receive) w.receiveEntry := by
  simp only [made, ← w.receive?_eq, List.flatMap_cons, List.flatMap_nil, List.append_nil]
  rfl

variable {w} {ledger : Ledger} {direction : Direction} {record : Entry → Option ρ}
  {entry : Line → Entry → ρ → QualityEntry φ}

/-- Entries are made of the lines that are listed and have a record. -/
theorem mem_made_iff (hline : ∀ l e r, (entry l e r).line = l) {q : QualityEntry φ} :
    q ∈ w.made ledger direction record entry ↔
      q.line.direction = direction ∧ ∃ e r, ledger.get? q.line = some e ∧ w.lists e = true ∧
        record e = some r ∧ entry q.line e r = q := by
  simp only [made, List.mem_flatMap, List.mem_filterMap, make?_eq_some_iff]
  constructor
  · rintro ⟨audio, -, ⟨line, e⟩, ha, ⟨hdirection, -, hlists⟩, r, hr, rfl⟩
    rw [hline]
    exact ⟨hdirection, e, r, KeyMap.mem_entries_iff.1 ha, hlists, hr, rfl⟩
  · rintro ⟨hdirection, e, r, he, hlists, hr, hentry⟩
    exact ⟨q.line.medium.isAudio, by cases q.line.medium.isAudio <;> decide, (q.line, e),
      KeyMap.mem_entries_iff.2 he, ⟨hdirection, rfl, hlists⟩, r, hr, hentry⟩

/-- The entries for one line are made by looking the line up. -/
theorem made_at (hline : ∀ l e r, (entry l e r).line = l) (line : Line) :
    (w.made ledger direction record entry).filter (·.line = line) =
      [true, false].flatMap fun audio ↦
        ((ledger.get? line).bind fun e ↦
          w.make? direction audio record entry (line, e)).toList := by
  have hmade : ∀ audio a q, w.make? direction audio record entry a = some q → q.line = a.1 := by
    intro audio a q hq
    obtain ⟨-, r, -, rfl⟩ := make?_eq_some_iff.1 hq
    exact hline ..
  have hother : ∀ audio, ∀ a : Line × Entry, a.1 ≠ line →
      (w.make? direction audio record entry a).filter (decide <| ·.line = line) = none :=
    fun audio a ha ↦ Option.filter_eq_none_iff.2 fun q hq heq ↦
      ha (hmade audio a q hq ▸ of_decide_eq_true heq)
  have hself : ∀ audio e,
      (w.make? direction audio record entry (line, e)).filter (decide <| ·.line = line) =
        w.make? direction audio record entry (line, e) :=
    fun audio e ↦ Option.ext fun q ↦ Option.filter_eq_some_iff.trans
      ⟨And.left, fun hq ↦ ⟨hq, decide_eq_true (hmade audio (line, e) q hq)⟩⟩
  rw [made, List.filter_flatMap]
  refine List.flatMap_congr fun audio _ ↦ ?_
  rw [List.filter_filterMap, KeyMap.filterMap_entries_at line (hother audio)]
  simp only [hself]

/-- What windows list and make alike of a line, they make of ledgers which have the same of it. -/
theorem made_congr {w' : Window} {ledger' : Ledger} {entry' : Line → Entry → ρ → QualityEntry φ}
    {line : Line} (hline : ∀ l e r, (entry l e r).line = l)
    (hline' : ∀ l e r, (entry' l e r).line = l) (hledger : ledger'.get? line = ledger.get? line)
    (hlists : ∀ e, w'.lists e = w.lists e) (hentry : ∀ e, entry' line e = entry line e) :
    (w'.made ledger' direction record entry').filter (·.line = line) =
      (w.made ledger direction record entry).filter (·.line = line) := by
  have hmake : ∀ audio e, w'.make? direction audio record entry' (line, e) =
      w.make? direction audio record entry (line, e) := by
    intro audio e
    rw [make?, make?, keeps, keeps, hlists, hentry]
  rw [made_at hline, made_at hline', hledger]
  simp only [hmake]

end Made

/-! ### Windows that know the same of a line -/

section Alone

variable {earlier earlier' : Option Ledger}
  (hearlier : earlier'.map (·.get? line) = earlier.map (·.get? line))

include hearlier

/-- Windows that start with ledgers which know the same of a line list the line alike. -/
theorem lists_congr (e : Entry) :
    (w.since earlier' tick time).lists e = (w.since earlier tick time).lists e := by
  rcases earlier with _ | ledger <;> rcases earlier' with _ | ledger'
  · rfl
  · exact absurd hearlier nofun
  · exact absurd hearlier nofun
  · rfl

/-- A line has grown alike since ledgers which know the same of it. -/
theorem growth_congr (e : Entry) :
    e.growth line (w.since earlier' tick time).start =
      e.growth line (w.since earlier tick time).start := by
  have hbind : ∀ ledger : Option Ledger,
      ledger.bind (·.get? line) = (ledger.map (·.get? line)).join := by
    intro ledger
    cases ledger <;> rfl
  have hof : Mark.of? (w.since earlier' tick time).start line =
      Mark.of? (w.since earlier tick time).start line := by
    rw [since, since, Mark.of?_map_mark, Mark.of?_map_mark, hbind, hbind, hearlier]
  rw [Entry.growth, Entry.growth, hof]

theorem transmitEntry_congr (e : Entry) :
    (w.since earlier' tick time).transmitEntry line e =
      (w.since earlier tick time).transmitEntry line e := by
  funext s
  rw [transmitEntry, transmitEntry, common, common, rates, rates,
    growth_congr w tick time hearlier]
  rfl

theorem receiveEntry_congr (e : Entry) :
    (w.since earlier' tick time).receiveEntry line e =
      (w.since earlier tick time).receiveEntry line e := by
  funext r
  rw [receiveEntry, receiveEntry, common, common, rates, rates,
    growth_congr w tick time hearlier]
  rfl

end Alone

/-! ### Reports -/

/-- **The counter figures of a quality report.** Let a window start with the mark of an earlier
ledger, or be the first one. An entry of its report is about a line of the entry's direction, of
which the ledger has a record of this direction. Every counter of that record stands in the entry
under its names as what it grew by since the earlier ledger's record of the same line, or since zero
if there is none; a counter that went backwards counts from zero, and less than nothing is nothing.
Error correction stands there as packets received less packets discarded, at least zero, and as zero
on a send line. Every line that the window lists and that has a record of its direction has an
entry. What the ledgers have for other lines changes nothing in the entries of a line. -/
theorem counters_written (later : Ledger) (earlier : Option Ledger) :
    let report := (w.since earlier tick time).report later
    (∀ q ∈ report.transmit, q.line.direction = .send ∧ ∃ s ∈ later.sent? q.line,
      let difference (counter : SendRecord → Int) : Int :=
        resetDifference (counter s) ((earlier.bind (·.sent? q.line)).elim 0 counter)
      let written := (q.toJson TransmitFigures.toJson).within?
      (∀ f ∈ SendRecord.counterFigures,
          written f.part f.name = some (.int (difference f.counter))) ∧
        written "common" "fecPackets" = some (.int 0)) ∧
    (∀ q ∈ report.receive, q.line.direction = .receive ∧ ∃ r ∈ later.received? q.line,
      let difference (counter : ReceiveRecord → Int) : Int :=
        resetDifference (counter r) ((earlier.bind (·.received? q.line)).elim 0 counter)
      let written := (q.toJson ReceiveFigures.toJson).within?
      (∀ f ∈ ReceiveRecord.counterFigures,
          written f.part f.name = some (.int (difference f.counter))) ∧
        written "common" "fecPackets" =
          some (.int (max 0 (difference (·.fecReceived) - difference (·.fecDiscarded))))) ∧
    (∀ line, ∀ e ∈ later.get? line, (w.since earlier tick time).lists e = true →
      (line.direction = .send → e.send.isSome → ∃ q ∈ report.transmit, q.line = line) ∧
        (line.direction = .receive → e.receive.isSome → ∃ q ∈ report.receive, q.line = line)) ∧
    ∀ line (later' : Ledger) (earlier' : Option Ledger),
      later'.get? line = later.get? line →
      earlier'.map (·.get? line) = earlier.map (·.get? line) →
      let report' := (w.since earlier' tick time).report later'
      report'.transmit.filter (·.line = line) = report.transmit.filter (·.line = line) ∧
        report'.receive.filter (·.line = line) = report.receive.filter (·.line = line) := by
  intro report
  have htransmit : report.transmit = _ := transmit_report ..
  have hreceive : report.receive = _ := receive_report ..
  refine ⟨fun q hq ↦ ?_, fun q hq ↦ ?_, fun line e he hlists ↦ ⟨fun hdirection hs ↦ ?_,
    fun hdirection hr ↦ ?_⟩, fun line later' earlier' hlater hearlier ↦ ?_⟩
  · rw [htransmit, mem_made_iff fun _ _ _ ↦ rfl] at hq
    obtain ⟨hdirection, e, s, he, -, hs, hentry⟩ := hq
    refine ⟨hdirection, s, ?_, ?_⟩
    · rw [Ledger.sent?, he, Option.bind_some, hs, Option.mem_some]
    · have hwritten := written_transmitEntry w earlier tick time hdirection hs
      rwa [hentry] at hwritten
  · rw [hreceive, mem_made_iff fun _ _ _ ↦ rfl] at hq
    obtain ⟨hdirection, e, r, he, -, hr, hentry⟩ := hq
    refine ⟨hdirection, r, ?_, ?_⟩
    · rw [Ledger.received?, he, Option.bind_some, hr, Option.mem_some]
    · have hwritten := written_receiveEntry w earlier tick time hdirection hr
      rwa [hentry] at hwritten
  · obtain ⟨s, hs⟩ := Option.isSome_iff_exists.1 hs
    refine ⟨(w.since earlier tick time).transmitEntry line e s, ?_, rfl⟩
    rw [htransmit, mem_made_iff fun _ _ _ ↦ rfl]
    exact ⟨hdirection, e, s, he, hlists, hs, rfl⟩
  · obtain ⟨r, hr⟩ := Option.isSome_iff_exists.1 hr
    refine ⟨(w.since earlier tick time).receiveEntry line e r, ?_, rfl⟩
    rw [hreceive, mem_made_iff fun _ _ _ ↦ rfl]
    exact ⟨hdirection, e, r, he, hlists, hr, rfl⟩
  · intro report'
    have hlists := lists_congr w tick time hearlier
    rw [htransmit, hreceive, transmit_report, receive_report]
    exact ⟨made_congr (fun _ _ _ ↦ rfl) (fun _ _ _ ↦ rfl) hlater hlists
        (transmitEntry_congr w tick time hearlier),
      made_congr (fun _ _ _ ↦ rfl) (fun _ _ _ ↦ rfl) hlater hlists
        (receiveEntry_congr w tick time hearlier)⟩

/-- A camera whose packets went on and whose key frames and losses began again, beside a speaker
that the earlier ledger did not know; the camera's entries stay when the speaker is left out. -/
theorem camera_beside_new_speaker :
    let camera := Line.send .video 0
    let speaker := Line.receive .audio 0
    let notes : Notes := { lastSeen := 2, requested := some true }
    let sent (packets keyFrames : Nat) (lost : Int) : Entry :=
      { send := some { packets, keyFrames, loss := { UplinkLoss.none with total := lost } }, notes }
    let received : Entry :=
      { receive := some { packets := 50, lost := -3, fecReceived := 9, fecDiscarded := 2 }, notes }
    let earlier : Ledger := KeyMap.insert ∅ camera (sent 100 7 12)
    let later : Ledger := KeyMap.insert (KeyMap.insert ∅ camera (sent 140 2 5)) speaker received
    let alone : Ledger := KeyMap.insert ∅ camera (sent 140 2 5)
    let w : Window :=
      { start := none, span := ⟨60000⟩, transport := .udp, address := "", now := 60000,
        recency := 30000, display := {} }
    let report (later : Ledger) := (w.since (some earlier) 1 0).report later
    (∀ q ∈ (report later).transmit.filter (·.line = camera),
      let written := (q.toJson TransmitFigures.toJson).within?
      written "common" "rtpPackets" = some (.int 40) ∧
        written "common" "mediaHopByHopLost" = some (.int 5) ∧
        written "stream" "transmittedKeyFrames" = some (.int 2) ∧
        written "common" "fecPackets" = some (.int 0)) ∧
    (∀ q ∈ (report later).receive.filter (·.line = speaker),
      let written := (q.toJson ReceiveFigures.toJson).within?
      written "common" "rtpPackets" = some (.int 50) ∧
        written "common" "rtpHopByHopLost" = some (.int 0) ∧
        written "common" "fecPackets" = some (.int 7)) ∧
    (report later).transmit.length = 1 ∧ (report later).receive.length = 1 ∧
    (report alone).transmit.filter (·.line = camera) =
      (report later).transmit.filter (·.line = camera) := by
  intro camera speaker notes sent received earlier later alone w report
  obtain ⟨htransmit, hreceive, -, hothers⟩ := counters_written w 1 0 later (some earlier)
  refine ⟨fun q hq ↦ ?_, fun q hq ↦ ?_, by rfl, by rfl,
    (hothers camera alone (some earlier) rfl rfl).1⟩
  · obtain ⟨hmem, hline⟩ := List.mem_filter.1 hq
    obtain ⟨-, s, hs, hfigures, hfec⟩ := htransmit q hmem
    rw [of_decide_eq_true hline] at hs hfigures
    obtain rfl := Option.some.inj hs
    simp only [SendRecord.counterFigures, List.forall_mem_cons] at hfigures
    obtain ⟨hpackets, hlost, -, hkeyFrames, -⟩ := hfigures
    exact ⟨hpackets, hlost, hkeyFrames, hfec⟩
  · obtain ⟨hmem, hline⟩ := List.mem_filter.1 hq
    obtain ⟨-, r, hr, hfigures, hfec⟩ := hreceive q hmem
    rw [of_decide_eq_true hline] at hr hfigures hfec
    obtain rfl := Option.some.inj hr
    simp only [ReceiveRecord.counterFigures, List.forall_mem_cons] at hfigures
    obtain ⟨hpackets, -, hlost, -⟩ := hfigures
    exact ⟨hpackets, hlost, hfec⟩

end Window

end MediaTelemetry
