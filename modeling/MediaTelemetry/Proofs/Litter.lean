import MediaTelemetry.Meter
import MediaTelemetry.Proofs.Classes
import MediaTelemetry.Proofs.Reading

/-!
# Litter in reports

An entry of a report that cannot be read, or that is of a type nothing here uses, is litter. It
leaves no trace: with litter put into the reports of a snapshot that can be read, in any places, the
snapshot can still be read, and taking it does just what taking it without the litter does.

* `Snapshot.Littered` says where litter may go: into the reports of senders and receivers, and
  nowhere else.
* `used` leaves of a report, or of anything that holds reports, what is used of it. Reading after
  litter was put in gives the same as far as it is used (`Snapshot.carries_ofDraft`).
* A sweep goes by what is used (`Ledger.sweep_used`), and everything else goes by the sweep.
-/

namespace MediaTelemetry

/-! ### Where litter goes -/

/-- The second list is the first with elements that satisfy `p` put in. -/
inductive Inserted {α : Type} (p : α → Prop) : List α → List α → Prop
  | nil : Inserted p [] []
  | keep (a : α) {l l' : List α} (h : Inserted p l l') : Inserted p (a :: l) (a :: l')
  | insert {a : α} (ha : p a) {l l' : List α} (h : Inserted p l l') : Inserted p l (a :: l')

namespace Draft

/-- An entry that is a value, but not one of a type that is used and well-formed. -/
def IsLitter (d : Draft) : Prop :=
  ∃ v, d.value? = some v ∧ (Fragment.ofJson? v = none ∨ Fragment.ofJson? v = some .other)

/-- For a value, what it would be read as decides. -/
theorem isLitter_ofJson {v : Json} (h : v.isOrdered = true) :
    (ofJson v).IsLitter ↔ Fragment.ofJson? v = none ∨ Fragment.ofJson? v = some .other := by
  refine ⟨fun ⟨v', hv', hlitter⟩ ↦ ?_, fun hlitter ↦ ⟨v, value?_ofJson h, hlitter⟩⟩
  obtain rfl := Option.some.inj ((value?_ofJson h).symm.trans hv')
  exact hlitter

/-- A report with litter put in. -/
def ReportLittered : Draft → Draft → Prop
  | .arr xs, .arr xs' => Inserted IsLitter xs xs'
  | _, _ => False

theorem reportLittered_iff {x x' : Draft} : x.ReportLittered x' ↔
    ∃ xs xs', x = .arr xs ∧ x' = .arr xs' ∧ Inserted IsLitter xs xs' := by
  cases x <;> cases x' <;> simp [ReportLittered]

end Draft

namespace Snapshot

/-- A sender with litter in its report. -/
def SenderLittered : Draft → Draft → Prop :=
  Draft.Altered (senderMembers.map (·.key)) fun key x x' ↦ key = "report" ∧ x.ReportLittered x'

/-- A receiver with litter in its report. -/
def ReceiverLittered : Draft → Draft → Prop :=
  Draft.Altered (receiverMembers.map (·.key)) fun key x x' ↦ key = "report" ∧ x.ReportLittered x'

/-- A medium with litter in the reports of its senders and receivers. -/
def MediumLittered : Draft → Draft → Prop :=
  Draft.Altered (mediumMembers.map (·.key)) fun key x x' ↦
    (key = "senders" ∧ x.ItemsAltered SenderLittered x') ∨
      (key = "receivers" ∧ x.ItemsAltered ReceiverLittered x')

/-- A snapshot with litter in its reports. -/
def Littered : Draft → Draft → Prop :=
  Draft.Altered (members.map (·.key)) fun _ ↦ MediumLittered

end Snapshot

/-! ### What is used -/

/-- The fragment is of a type that is used. -/
def Fragment.isUsed : Fragment → Bool
  | .other => false
  | _ => true

/-- What is used of a report. -/
def Fragment.used (report : List Fragment) : List Fragment := report.filter (·.isUsed)

/-- The sender with what is used of its report. -/
def SenderReport.used (r : SenderReport) : SenderReport :=
  { r with report := Fragment.used r.report }

/-- The receiver with what is used of its report. -/
def ReceiverReport.used (r : ReceiverReport) : ReceiverReport :=
  { r with report := Fragment.used r.report }

/-- The sender or receiver with what is used of its report. -/
def LineReport.used : LineReport → LineReport
  | .sender r => .sender r.used
  | .receiver r => .receiver r.used

/-- The medium with what is used of its reports. -/
def MediumReport.used (r : MediumReport) : MediumReport where
  senders := r.senders.map (·.used)
  receivers := r.receivers.map (·.used)

/-- The snapshot with what is used of its reports. -/
def Snapshot.used (s : Snapshot) : Snapshot where
  audio := s.audio.used
  video := s.video.used
  shareAudio := s.shareAudio.used
  shareVideo := s.shareVideo.used

/-! ### Reading with litter -/

/-- Litter adds nothing that is used. -/
theorem Fragment.used_ofReport {xs xs' : List Draft} (h : Inserted Draft.IsLitter xs xs')
    {entries : List Json} (hentries : Draft.values? xs = some entries) :
    ∃ entries', Draft.values? xs' = some entries' ∧
      used (ofReport entries) = used (ofReport entries') := by
  induction h generalizing entries with
  | nil => exact ⟨entries, hentries, rfl⟩
  | @keep a l l' _ ih =>
    rw [Draft.values?, Option.bind_eq_bind] at hentries
    obtain ⟨v, hv, hrest⟩ := Option.bind_eq_some_iff.1 hentries
    obtain ⟨vs, hvs, hcons⟩ := Option.bind_eq_some_iff.1 hrest
    obtain rfl := Option.some.inj hcons
    obtain ⟨vs', hvs', hused⟩ := ih hvs
    refine ⟨v :: vs', by rw [Draft.values?, hv, hvs']; rfl, ?_⟩
    rw [ofReport, List.filterMap_cons, ofReport, List.filterMap_cons]
    cases ofJson? v with
    | none => exact hused
    | some f =>
      rw [used, List.filter_cons, used, List.filter_cons]
      exact congrArg (fun l ↦ if f.isUsed then f :: l else l) hused
  | @insert a ha l l' _ ih =>
    obtain ⟨v, hv, hlitter⟩ := ha
    obtain ⟨vs', hvs', hused⟩ := ih hentries
    refine ⟨v :: vs', by rw [Draft.values?, hv, hvs']; rfl, hused.trans ?_⟩
    rw [ofReport, ofReport, List.filterMap_cons]
    rcases hlitter with h | h <;> rw [h]
    rfl

namespace Snapshot

open Reading

theorem carries_readReport {x x' : Draft} (h : x = x' ∨ x.ReportLittered x') :
    Carries (fun r r' ↦ Fragment.used r = Fragment.used r') (readReport x) (readReport x') := by
  rcases h with rfl | h
  · exact carries_self fun _ _ ↦ rfl
  · obtain ⟨xs, xs', rfl, rfl, hinserted⟩ := Draft.reportLittered_iff.1 h
    intro r hr
    rw [readReport] at hr
    cases hentries : Draft.values? xs with
    | none =>
      rw [hentries] at hr
      cases hr
    | some entries =>
      rw [hentries] at hr
      obtain rfl := Option.some.inj hr
      obtain ⟨entries', hentries', hused⟩ := Fragment.used_ofReport hinserted hentries
      exact ⟨Fragment.ofReport entries', by rw [readReport, hentries'], hused⟩

/-- A report may change by litter, whatever holds it. -/
theorem respects_report {σ τ : Type} {f : σ → τ} {set : List Fragment → σ → σ}
    (hset : ∀ v v' s s', Fragment.used v = Fragment.used v' → f s = f s' →
      f (set v s) = f (set v' s')) :
    Member.Respects (fun s s' ↦ f s = f s') (fun key x x' ↦ key = "report" ∧ x.ReportLittered x')
      ⟨"report", fun d ↦ do let v ← readReport d; pure (set v)⟩ := by
  intro x x' h
  refine (carries_readReport (h.imp_right (·.2))).bind fun v v' hv ↦ carries_pure ?_
  exact fun s s' hs ↦ hset v v' s s' hv hs

theorem carries_sender {x x' : Draft} (h : SenderLittered x x') :
    Carries (fun r r' ↦ r.used = r'.used) (record senderMembers {} x)
      (record senderMembers {} x') := by
  refine Carries.record (fun m hm ↦ ?_) h rfl
  simp only [senderMembers, List.mem_cons, List.not_mem_nil, or_false] at hm
  rcases hm with rfl | rfl | rfl | rfl
  · exact .optional (by simp) fun v _ _ hs ↦
      congrArg (fun r : SenderReport ↦ { r with trackLabel := v }) hs
  · exact .optional (by simp) fun v _ _ hs ↦
      congrArg (fun r : SenderReport ↦ { r with requested := v }) hs
  · exact .optional (by simp) fun v _ _ hs ↦
      congrArg (fun r : SenderReport ↦ { r with requestedAt := v }) hs
  · exact respects_report fun _ _ _ _ hv hs ↦
      congrArg₂ (fun (r : SenderReport) v ↦ { r with report := v }) hs hv

theorem carries_receiver {x x' : Draft} (h : ReceiverLittered x x') :
    Carries (fun r r' ↦ r.used = r'.used) (record receiverMembers {} x)
      (record receiverMembers {} x') := by
  refine Carries.record (fun m hm ↦ ?_) h rfl
  simp only [receiverMembers, List.mem_cons, List.not_mem_nil, or_false] at hm
  rcases hm with rfl | rfl | rfl | rfl
  · exact .optional (by simp) fun v _ _ hs ↦
      congrArg (fun r : ReceiverReport ↦ { r with requested := v }) hs
  · exact .optional (by simp) fun v _ _ hs ↦
      congrArg (fun r : ReceiverReport ↦ { r with requestedAt := v }) hs
  · exact .optional (by simp) fun v _ _ hs ↦
      congrArg (fun r : ReceiverReport ↦ { r with activeSpeaker := v }) hs
  · exact respects_report fun _ _ _ _ hv hs ↦
      congrArg₂ (fun (r : ReceiverReport) v ↦ { r with report := v }) hs hv

theorem carries_medium {x x' : Draft} (h : MediumLittered x x') :
    Carries (fun r r' ↦ r.used = r'.used) (readMedium x) (readMedium x') := by
  refine Carries.record (fun m hm ↦ ?_) h rfl
  simp only [mediumMembers, List.mem_cons, List.not_mem_nil, or_false] at hm
  rcases hm with rfl | rfl
  · intro x x' h
    have hlitter : x = x' ∨ x.ItemsAltered SenderLittered x' := by simpa using h
    have hread := carries_map_array (f := SenderReport.used) (fun _ _ h ↦ carries_sender h) hlitter
    refine hread.bind fun v v' hv ↦ carries_pure ?_
    intro s s' hs
    exact congrArg₂ (fun (r : MediumReport) v ↦ { r with senders := v }) hs hv
  · intro x x' h
    have hlitter : x = x' ∨ x.ItemsAltered ReceiverLittered x' := by simpa using h
    have hread := carries_map_array (f := ReceiverReport.used) (fun _ _ h ↦ carries_receiver h)
      hlitter
    refine hread.bind fun v v' hv ↦ carries_pure ?_
    intro s s' hs
    exact congrArg₂ (fun (r : MediumReport) v ↦ { r with receivers := v }) hs hv

/-- **A snapshot is read with litter as it is without**, as far as it is used. -/
theorem carries_ofDraft {x x' : Draft} (h : Littered x x') :
    Carries (fun s s' ↦ s.used = s'.used) (ofDraft x) (ofDraft x') := by
  refine Carries.record (fun m hm x x' hx ↦ ?_) h rfl
  have hread : Carries (fun r r' ↦ r.used = r'.used) (readMedium x) (readMedium x') := by
    rcases hx with rfl | h
    · exact carries_self fun _ _ ↦ rfl
    · exact carries_medium h
  simp only [members, List.mem_cons, List.not_mem_nil, or_false] at hm
  rcases hm with rfl | rfl | rfl | rfl <;>
    refine hread.bind fun v v' hv ↦ carries_pure ?_ <;>
    intro s s' hs
  · exact congrArg₂ (fun (s : Snapshot) v ↦ { s with audio := v }) hs hv
  · exact congrArg₂ (fun (s : Snapshot) v ↦ { s with video := v }) hs hv
  · exact congrArg₂ (fun (s : Snapshot) v ↦ { s with shareAudio := v }) hs hv
  · exact congrArg₂ (fun (s : Snapshot) v ↦ { s with shareVideo := v }) hs hv

end Snapshot

/-! ### Taking what is used -/

/-- What is used of a report has the classes of the report. -/
theorem Fragment.sameClasses_used (report : List Fragment) : SameClasses (used report) report := by
  intro k
  rw [ofClass, ofClass, used, List.filter_filter]
  refine List.filter_congr fun f _ ↦ ?_
  cases f <;> simp [isUsed, class?]

theorem Sweep.step_used (tick : Nat) (state : Ledger × Sweep) (line : Line) (r : LineReport) :
    step tick state (line, r.used) = step tick state (line, r) := by
  have hreport : r.used.report = Fragment.used r.report := by cases r <;> rfl
  have hannotate : r.used.annotate = r.annotate := by cases r <;> rfl
  have hclasses := Fragment.sameClasses_used r.report
  rw [step, step, hreport, hannotate, hclasses.takeReport, hclasses.add]

theorem Snapshot.lines_used (s : Snapshot) :
    s.used.lines = s.lines.map fun r ↦ (r.1, r.2.used) := by
  have hmedium : ∀ (r : MediumReport) (m : Medium),
      r.used.lines m = (r.lines m).map fun r ↦ (r.1, r.2.used) := by
    intro r m
    have hsenders : (r.senders.map (·.used)).mapIdx (fun i s ↦ (Line.send m i, .sender s)) =
        (r.senders.mapIdx fun i s ↦ (Line.send m i, LineReport.sender s)).map
          fun r ↦ (r.1, r.2.used) :=
      List.ext_getElem (by simp) (by simp [LineReport.used])
    have hreceivers :
        (r.receivers.map (·.used)).mapIdx (fun i s ↦ (Line.receive m i, .receiver s)) =
        (r.receivers.mapIdx fun i s ↦ (Line.receive m i, LineReport.receiver s)).map
          fun r ↦ (r.1, r.2.used) :=
      List.ext_getElem (by simp) (by simp [LineReport.used])
    rw [MediumReport.lines, MediumReport.lines, List.map_append, MediumReport.used, hsenders,
      hreceivers]
  rw [lines, lines, List.map_flatMap]
  refine List.flatMap_congr fun m _ ↦ ?_
  rw [← hmedium]
  cases m <;> rfl

/-- **A sweep goes by what is used of a snapshot.** -/
theorem Ledger.sweep_used (ledger : Ledger) (s : Snapshot) (tick : Nat) :
    Ledger.sweep ledger s.used tick = Ledger.sweep ledger s tick := by
  rw [sweep, sweep, Snapshot.lines_used, List.foldl_map]
  congr 1
  funext state r
  exact Sweep.step_used tick state r.1 r.2

/-! ### Snapshots with litter -/

namespace Measurement

variable {m : Measurement} {s s' : Snapshot}

/-- Snapshots that sweep alike are taken alike. -/
theorem pass_congr (h : ∀ tick, Ledger.sweep m.ledger s' tick = Ledger.sweep m.ledger s tick)
    (c : Settings) (now : Nat) : m.pass c now s' = m.pass c now s := by
  rw [pass, pass, h]

end Measurement

namespace Snapshot

/-- **Litter leaves no trace.** Where a snapshot can be read, it can be read with litter in its
reports, and then nothing that is done with it shows the litter: sweeping it into any ledger as any
sample gives the same ledger, path, reports from the far end and lines seen; taking it leaves the
same measurement and tells the same; and a meter is in the same state after it. -/
theorem litter_leaves_no_trace {before after : Draft} (h : Littered before after) {s : Snapshot}
    (hs : (ofDraft before).value = some s) :
    ∃ s', (ofDraft after).value = some s' ∧
      (∀ ledger tick, Ledger.sweep ledger s' tick = Ledger.sweep ledger s tick) ∧
      (∀ (m : Measurement) (c : Settings) (d : Host) (now : Nat),
        m.take c now s' = m.take c now s ∧ m.told c d now s' = m.told c d now s) ∧
      ∀ (m : Meter) (request : Request) (time : Nat),
        m.step (.read ⟨request, time, s'⟩) = m.step (.read ⟨request, time, s⟩) := by
  obtain ⟨s', hs', hused⟩ := carries_ofDraft h s hs
  have hsweep : ∀ ledger tick, Ledger.sweep ledger s' tick = Ledger.sweep ledger s tick := by
    intro ledger tick
    rw [← Ledger.sweep_used, ← hused, Ledger.sweep_used]
  have htaken : ∀ (m : Measurement) (c : Settings) (d : Host) (now : Nat),
      m.take c now s' = m.take c now s ∧ m.told c d now s' = m.told c d now s := by
    intro m c d now
    have hpass := Measurement.pass_congr (m := m) (fun tick ↦ hsweep m.ledger tick) c now
    rw [Measurement.take, Measurement.take, Measurement.told, Measurement.told, hpass]
    exact ⟨rfl, rfl⟩
  refine ⟨s', hs', hsweep, htaken, fun m request time ↦ ?_⟩
  obtain ⟨htake, htold⟩ := htaken m.measurement m.settings m.host time
  show m.read _ = m.read _
  rw [Meter.read, Meter.read, htake, htold]

/-- A report of one sent stream, and the same with a malformed stream before it, and an entry of an
unknown type and a bare number behind. Of the four entries two are not even read. -/
theorem litter_around_stream :
    let report (entries : List Json) : Json :=
      .obj [("audio", .obj [("senders", .arr [.obj [("report", .arr entries)]])])]
    let stream (packets : Json) : Json :=
      .obj [("id", .str "A"), ("packetsSent", packets), ("type", .str "outbound-rtp")]
    let before := report [stream (.nat 5)]
    let after := report
      [stream (.str "five"), stream (.nat 5), .obj [("type", .str "codec")], .nat 7]
    Littered (.ofJson before) (.ofJson after) ∧
      (ofJson after).dropped = 2 ∧
      ∃ s s', (ofJson before).value = some s ∧ (ofJson after).value = some s' ∧
        (Ledger.sweep ∅ s 1).2.seen = [.send .audio 0] ∧
        ∀ ledger tick, Ledger.sweep ledger s' tick = Ledger.sweep ledger s tick := by
  intro report stream before after
  have hmalformed : (Draft.ofJson (stream (.str "five"))).IsLitter :=
    (Draft.isLitter_ofJson (by decide +kernel)).2 (.inl rfl)
  have hunknown : (Draft.ofJson (.obj [("type", .str "codec")])).IsLitter :=
    (Draft.isLitter_ofJson (by decide +kernel)).2 (.inr rfl)
  have hnumber : (Draft.ofJson (.nat 7)).IsLitter :=
    (Draft.isLitter_ofJson (by decide +kernel)).2 (.inl rfl)
  have hlittered : Littered (.ofJson before) (.ofJson after) := by
    have hentries := Inserted.insert hmalformed
      (.keep (.ofJson (stream (.nat 5))) (.insert hunknown (.insert hnumber .nil)))
    refine .object (.cons ⟨rfl, .inr ⟨"audio", by decide +kernel, rfl, ?_⟩⟩ .nil)
    refine .object (.cons ⟨rfl, .inr ⟨"senders", by decide +kernel, rfl, .inl ⟨rfl, ?_⟩⟩⟩ .nil)
    refine .cons (.object (.cons ⟨rfl, .inr ⟨"report", by decide +kernel, rfl, rfl, ?_⟩⟩ .nil)) .nil
    exact hentries
  have hread : (ofJson before).value.isSome = true := by decide +kernel
  obtain ⟨s, hs⟩ := Option.isSome_iff_exists.1 hread
  obtain ⟨s', hs', hsweep, -⟩ := litter_leaves_no_trace hlittered hs
  have hseen : (ofJson before).value.map (fun s ↦ (Ledger.sweep ∅ s 1).2.seen) =
      some [.send .audio 0] := by decide +kernel
  rw [hs, Option.map_some, Option.some_inj] at hseen
  exact ⟨hlittered, by decide +kernel, s, s', hs, hs', hseen, hsweep⟩

end Snapshot

end MediaTelemetry
