import Mathlib.Data.List.Induction
import MediaTelemetry.Proofs.History

/-!
# Which samples a meter takes

A meter decides on a sample by three figures that different operations change: the generation of
its run, the number of its next request, and the number of the last sample it took. This module
shows that the decision is the one meant (`read_answer`): a sample is taken exactly when the meter
runs, its request was handed out since the latest start, and no sample with its number or a later
one has been taken before.

* `Issued` is the invariant of the schedule. Requests are handed out, and wait, with growing numbers
  and never falling generations; so a request belongs to the present run exactly if its generation
  does, and lies above every request of an earlier run.
* `history_increasing` and `lastTaken_run` are the invariant of the samples taken: their numbers
  grow, and the last one is remembered.

A run never resets the number of the last sample taken. That no answer of a new run is lost to it
rests on the order of the requests alone, whatever answers still arrive from earlier runs.
-/

namespace MediaTelemetry

namespace Meter

/-! ### Requests and answers -/

/-- The request that an answer of the meter hands out. -/
def Reply.request? : Reply → Option Request
  | .request r => r
  | _ => none

/-- The requests handed out during operations. -/
def handedOut (m : Meter) : List Op → List Request
  | [] => []
  | op :: ops => (m.reply op).request?.toList ++ handedOut (m.step op) ops

/-- The operation starts a run. -/
def starts (m : Meter) : Op → Bool
  | .start _ => !m.isRunning
  | _ => false

/-- The requests handed out since the latest start, if `earlier` had been before the operations. -/
def issuedAfter (m : Meter) (earlier : List Request) : List Op → List Request
  | [] => earlier
  | op :: ops =>
    issuedAfter (m.step op)
      (if m.starts op then [] else earlier ++ (m.reply op).request?.toList) ops

/-- The requests handed out during operations since the latest start. -/
def issued (m : Meter) (ops : List Op) : List Request := m.issuedAfter [] ops

/-- Every sample among the operations answers a request handed out before it. -/
def OnlyAnswers (m : Meter) (ops : List Op) : Prop :=
  ∀ before s after, ops = before ++ .read s :: after → s.request ∈ m.handedOut before

/-- The meter after it took in a sample, whatever its request. -/
def takeIn (m : Meter) (s : Sample) : Meter :=
  { m with
    measurement := m.measurement.take m.settings s.time s.snapshot
    lastTaken := some s.request.number
    notices := m.notices ++ m.measurement.told m.settings m.host s.time s.snapshot }

/-- After the operations the meter runs, the request was handed out since the latest start, and no
sample with its number or a later one has been taken. -/
structure Due (m : Meter) (ops : List Op) (r : Request) : Prop where
  running : (m.run ops).isRunning = true
  issued : r ∈ m.issued ops
  unsurpassed : ∀ t ∈ m.history ops, t.sample.request.number < r.number

theorem handedOut_concat (m : Meter) (ops : List Op) (op : Op) :
    m.handedOut (ops ++ [op]) =
      m.handedOut ops ++ ((m.run ops).reply op).request?.toList := by
  induction ops generalizing m with
  | nil => simp [handedOut]
  | cons op' rest ih =>
    rw [List.cons_append, handedOut, ih, handedOut, run_cons, List.append_assoc]

/-- An operation may follow if it is no sample, or answers a request handed out before it. -/
theorem OnlyAnswers.concat {m : Meter} {ops : List Op} {op : Op} (h : m.OnlyAnswers ops)
    (hop : ∀ s, op = .read s → s.request ∈ m.handedOut ops) : m.OnlyAnswers (ops ++ [op]) := by
  intro before s after hsplit
  cases after using List.reverseRecOn with
  | nil =>
    obtain ⟨rfl, hlast⟩ := List.append_inj' hsplit rfl
    exact hop s (List.singleton_inj.1 hlast)
  | append_singleton after last _ =>
    rw [← List.cons_append, ← List.append_assoc] at hsplit
    exact h before s after (List.append_inj' hsplit rfl).1

theorem issuedAfter_concat (m : Meter) (earlier : List Request) (ops : List Op) (op : Op) :
    m.issuedAfter earlier (ops ++ [op]) =
      if (m.run ops).starts op then []
      else m.issuedAfter earlier ops ++ ((m.run ops).reply op).request?.toList := by
  induction ops generalizing m earlier with
  | nil => rfl
  | cons op' rest ih => rw [List.cons_append, issuedAfter, ih, issuedAfter, run_cons]

theorem issued_concat (m : Meter) (ops : List Op) (op : Op) :
    m.issued (ops ++ [op]) =
      if (m.run ops).starts op then []
      else m.issued ops ++ ((m.run ops).reply op).request?.toList :=
  issuedAfter_concat ..

/-- The number of the last sample taken changes when a sample is taken, and never else. -/
theorem lastTaken_step (m : Meter) (op : Op) :
    (m.step op).lastTaken =
      ((m.taking? op).map (·.sample.request.number)).or m.lastTaken := by
  cases op with
  | read s =>
    rw [step, read, taking?]
    split <;> rfl
  | command c =>
    cases c with
    | expect status => rfl
    | stop => rw [m.step_of_isTiming rfl]; rfl
  | expect | nextNotice => rfl
  | _ => rw [m.step_of_isTiming rfl]; rfl

theorem takeIn_ne (m : Meter) (s : Sample) : m.takeIn s ≠ m := by
  intro h
  have hticks : m.measurement.ticks + 1 = m.measurement.ticks :=
    congrArg (fun m : Meter ↦ m.measurement.ticks) h
  omega

end Meter

/-! ### The order of requests -/

theorem Schedule.start_of_idle {s : Schedule} (h : s.isRunning = false) (now : Nat) :
    s.start now = .ok { s with phase := .running now [], generation := s.generation + 1 } := by
  rw [Schedule.start, h, if_neg Bool.false_ne_true]

theorem Schedule.waiting_of_idle {s : Schedule} (h : s.isRunning = false) : s.waiting = [] := by
  obtain ⟨phase, generation, nextNumber⟩ := s
  cases phase with
  | idle => rfl
  | running due waiting => exact absurd h (by simp [isRunning])

/-- What holds of a schedule that has handed out the requests `out`, of them `current` since the
latest start. -/
structure Issued (s : Schedule) (out current : List Request) : Prop where
  /-- Numbers grow and generations do not fall, over what was handed out and what waits. -/
  ordered : (out ++ s.waiting).Pairwise fun a b ↦ a.number < b.number ∧ a.generation ≤ b.generation
  /-- The next request will continue the order. -/
  below : ∀ r ∈ out ++ s.waiting, r.number < s.nextNumber ∧ r.generation ≤ s.generation
  /-- Only the present run has requests waiting. -/
  waiting_current : ∀ r ∈ s.waiting, r.generation = s.generation
  /-- Generations tell the requests of the present run from earlier ones. -/
  mem_current_iff : ∀ r, r ∈ current ↔ r ∈ out ∧ r.generation = s.generation

namespace Issued

variable {s s' : Schedule} {out current : List Request}

theorem initial : Issued {} [] [] := by
  constructor <;> simp [Schedule.waiting]

/-- Dropping requests that wait keeps the order. -/
theorem drop_waiting (h : Issued s out current) (hgen : s'.generation = s.generation)
    (hnext : s'.nextNumber = s.nextNumber) (hwaiting : s'.waiting.Sublist s.waiting) :
    Issued s' out current where
  ordered := h.ordered.sublist (hwaiting.append_left out)
  below r hr := by
    rw [hnext, hgen]
    exact h.below r ((hwaiting.append_left out).subset hr)
  waiting_current r hr := by
    rw [hgen]
    exact h.waiting_current r (hwaiting.subset hr)
  mem_current_iff r := by rw [hgen, h.mem_current_iff]

theorem start (h : Issued s out current) {now : Nat} (hs : s.start now = .ok s') :
    Issued s' out [] := by
  rw [Schedule.start] at hs
  split at hs
  · exact absurd hs (by simp)
  · obtain rfl := Except.ok.inj hs
    -- every request so far has a lower generation than the new run
    have hout : ∀ r ∈ out, r.generation ≤ s.generation := fun r hr ↦
      (h.below r (List.mem_append_left _ hr)).2
    refine ⟨?_, ?_, ?_, ?_⟩
    · simpa [Schedule.waiting] using (List.pairwise_append.1 h.ordered).1
    · intro r hr
      have hr : r ∈ out := by simpa [Schedule.waiting] using hr
      have hnumber := (h.below r (List.mem_append_left _ hr)).1
      have hgeneration := hout r hr
      exact ⟨hnumber, by dsimp only; omega⟩
    · intro r hr
      simp [Schedule.waiting] at hr
    · intro r
      simp only [List.not_mem_nil, false_iff, not_and]
      intro hr
      have := hout r hr
      omega

theorem stop (h : Issued s out current) (hs : s.stop = .ok s') : Issued s' out current := by
  rw [Schedule.stop] at hs
  split at hs
  · obtain rfl := Except.ok.inj hs
    exact h.drop_waiting rfl rfl (List.nil_sublist _)
  · exact absurd hs (by simp)

/-- A stop, refused or not, hands nothing out. -/
theorem stopped {m : Meter} (h : Issued m.schedule out current) :
    Issued (m.scheduled m.schedule.stop).schedule
      (out ++ (Meter.Reply.ofSchedule m.schedule.stop).request?.toList)
      (current ++ (Meter.Reply.ofSchedule m.schedule.stop).request?.toList) := by
  cases hs : m.schedule.stop with
  | error fault =>
    simpa [Meter.Reply.ofSchedule, Meter.Reply.request?, Meter.scheduled] using h
  | ok s' =>
    simpa [Meter.Reply.ofSchedule, Meter.Reply.request?, Meter.scheduled] using h.stop hs

theorem close (h : Issued s out current) : Issued s.close out current :=
  h.drop_waiting rfl rfl (List.nil_sublist _)

theorem tick (h : Issued s out current) (interval now : Nat) :
    Issued (s.tick interval now) out current := by
  obtain ⟨phase, generation, nextNumber⟩ := s
  cases phase with
  | idle => exact h
  | running due waiting =>
    rw [Schedule.tick]
    dsimp only
    split
    · exact h
    · -- the new request continues the order at its end
      obtain ⟨hordered, hbelow, hwaiting, hmem⟩ := h
      dsimp only [Schedule.waiting] at hordered hbelow hwaiting hmem
      refine ⟨?_, ?_, ?_, hmem⟩
      · dsimp only [Schedule.waiting]
        rw [← List.append_assoc, List.pairwise_append]
        refine ⟨hordered, List.pairwise_singleton _ _, fun a ha b hb ↦ ?_⟩
        obtain rfl := List.mem_singleton.1 hb
        exact hbelow a ha
      · dsimp only [Schedule.waiting]
        intro r hr
        rw [← List.append_assoc, List.mem_append, List.mem_singleton] at hr
        rcases hr with hr | rfl
        · have := hbelow r hr
          omega
        · dsimp only
          omega
      · dsimp only [Schedule.waiting]
        intro r hr
        rw [List.mem_append, List.mem_singleton] at hr
        rcases hr with hr | rfl
        · exact hwaiting r hr
        · rfl

/-- Handing out moves the first request that waits to the end of what was handed out, so the two
together stay as they were. -/
theorem handOut (h : Issued s out current) :
    Issued s.handOut (out ++ s.next?.toList) (current ++ s.next?.toList) := by
  obtain ⟨phase, generation, nextNumber⟩ := s
  cases phase with
  | idle => simpa [Schedule.next?, Schedule.waiting, Schedule.handOut] using h
  | running due waiting =>
    cases waiting with
    | nil => simpa [Schedule.next?, Schedule.waiting, Schedule.handOut] using h
    | cons r rest =>
      obtain ⟨hordered, hbelow, hwaiting, hmem⟩ := h
      dsimp only [Schedule.waiting] at hordered hbelow hwaiting hmem
      have hmoved : (out ++ [r]) ++ rest = out ++ r :: rest := by simp
      refine ⟨?_, ?_, ?_, ?_⟩
      · show ((out ++ [r]) ++ rest).Pairwise _
        rw [hmoved]
        exact hordered
      · show ∀ r' ∈ (out ++ [r]) ++ rest, _
        rw [hmoved]
        exact hbelow
      · intro r' hr'
        exact hwaiting r' (List.mem_cons_of_mem _ hr')
      · intro r'
        show r' ∈ current ++ [r] ↔ r' ∈ out ++ [r] ∧ r'.generation = generation
        rw [List.mem_append, List.mem_append, List.mem_singleton, hmem]
        constructor
        · rintro (⟨hr', hgen⟩ | rfl)
          · exact ⟨.inl hr', hgen⟩
          · exact ⟨.inr rfl, hwaiting r' List.mem_cons_self⟩
        · rintro ⟨hr' | rfl, hgen⟩
          · exact .inl ⟨hr', hgen⟩
          · exact .inr rfl

/-- Every operation keeps the order of requests. -/
theorem step {m : Meter} (h : Issued m.schedule out current) (op : Meter.Op) :
    Issued (m.step op).schedule (out ++ (m.reply op).request?.toList)
      (if m.starts op then [] else current ++ (m.reply op).request?.toList) := by
  cases op with
  | start now =>
    rw [Meter.step, Meter.reply, Meter.starts, Meter.isRunning]
    cases hr : m.schedule.isRunning with
    | true =>
      have hs : m.schedule.start now = .error .alreadyStarted := if_pos hr
      simpa [hs, Meter.Reply.ofSchedule, Meter.Reply.request?, Meter.scheduled] using h
    | false =>
      have hs := Schedule.start_of_idle hr now
      simpa [hs, Meter.Reply.ofSchedule, Meter.Reply.request?, Meter.scheduled] using h.start hs
  | stop => exact h.stopped
  | close => simpa [Meter.step, Meter.reply, Meter.starts, Meter.Reply.request?] using h.close
  | command c =>
    cases c with
    | expect status =>
      simpa [Meter.step, Meter.expect, Meter.reply, Meter.starts, Meter.Reply.request?] using h
    | stop => exact h.stopped
  | expect status =>
    simpa [Meter.step, Meter.expect, Meter.reply, Meter.starts, Meter.Reply.request?] using h
  | timeout now =>
    simpa [Meter.step, Meter.reply, Meter.starts, Meter.Reply.request?] using h.tick _ now
  | nextRequest => exact h.handOut
  | read s =>
    have hschedule : (m.read s).schedule = m.schedule := by
      rw [Meter.read]
      split <;> rfl
    simpa [Meter.step, Meter.reply, Meter.starts, Meter.Reply.request?, hschedule] using h
  | nextNotice => simpa [Meter.step, Meter.reply, Meter.starts, Meter.Reply.request?] using h

end Issued

namespace Meter

variable {c : Settings} {d : Host} {monitor : Monitor} {m : Meter}

theorem issued_run (hm : Meter.new c d monitor = .ok m) (ops : List Op) :
    Issued (m.run ops).schedule (m.handedOut ops) (m.issued ops) := by
  obtain rfl := eq_of_new hm
  induction ops using List.reverseRecOn with
  | nil => exact .initial
  | append_singleton ops op ih =>
    rw [run_concat, handedOut_concat, issued_concat]
    exact ih.step op

/-! ### The order of samples -/

/-- The number of the last sample taken is remembered. -/
theorem lastTaken_run (hm : Meter.new c d monitor = .ok m) (ops : List Op) :
    (m.run ops).lastTaken = (m.history ops).getLast?.map (·.sample.request.number) := by
  obtain rfl := eq_of_new hm
  induction ops using List.reverseRecOn with
  | nil => rfl
  | append_singleton ops op ih =>
    rw [run_concat, history_concat, lastTaken_step]
    cases (run _ ops).taking? op with
    | none => simpa using ih
    | some t => simp

/-- Where numbers grow, all lie below a bound as soon as the last does. -/
theorem all_getLast?_lt_iff {ts : List Taking} {n : Nat}
    (h : ts.Pairwise fun t u ↦ t.sample.request.number < u.sample.request.number) :
    (ts.getLast?.map (·.sample.request.number)).all (· < n) = true ↔
      ∀ t ∈ ts, t.sample.request.number < n := by
  induction ts using List.reverseRecOn with
  | nil => simp
  | append_singleton ts last _ =>
    have hlast : ∀ t ∈ ts, t.sample.request.number < last.sample.request.number := fun t ht ↦
      (List.pairwise_append.1 h).2.2 t ht last (List.mem_singleton.2 rfl)
    simp only [List.getLast?_concat, Option.map_some, Option.all_some, decide_eq_true_eq,
      List.mem_append, List.mem_singleton]
    constructor
    · rintro hn t (ht | rfl)
      · exact Nat.lt_trans (hlast t ht) hn
      · exact hn
    · intro hall
      exact hall last (.inr rfl)

/-- The samples taken have growing numbers. -/
theorem history_increasing (hm : Meter.new c d monitor = .ok m) (ops : List Op) :
    (m.history ops).Pairwise fun t u ↦ t.sample.request.number < u.sample.request.number := by
  induction ops using List.reverseRecOn with
  | nil => exact .nil
  | append_singleton ops op ih =>
    rw [history_concat]
    cases h : (m.run ops).taking? op with
    | none => simpa using ih
    | some t =>
      have hinOrder : (m.run ops).isInOrder t.sample.request = true :=
        (Bool.and_eq_true_iff.1 (taking?_eq_some_iff.1 h).2.2).2
      rw [isInOrder, lastTaken_run hm, all_getLast?_lt_iff ih] at hinOrder
      refine List.pairwise_append.2 ⟨ih, List.pairwise_singleton _ _, fun t' ht' u hu ↦ ?_⟩
      obtain rfl := List.mem_singleton.1 hu
      exact hinOrder t' ht'

/-- The samples taken answer requests that were handed out. -/
theorem handedOut_of_mem_history {ops : List Op} (hops : m.OnlyAnswers ops) {t : Taking}
    (ht : t ∈ m.history ops) : t.sample.request ∈ m.handedOut ops ∧ .read t.sample ∈ ops := by
  induction ops using List.reverseRecOn with
  | nil => exact absurd ht (by simp [history])
  | append_singleton ops op ih =>
    rw [history_concat, List.mem_append] at ht
    rw [handedOut_concat]
    rcases ht with ht | ht
    · have hearlier : m.OnlyAnswers ops := fun before s after h ↦
        hops before s (after ++ [op]) (by rw [h]; simp)
      obtain ⟨hout, hread⟩ := ih hearlier ht
      exact ⟨List.mem_append_left _ hout, List.mem_append_left _ hread⟩
    · rw [Option.mem_toList, taking?_eq_some_iff] at ht
      obtain ⟨rfl, -, -⟩ := ht
      exact ⟨List.mem_append_left _ (hops ops t.sample [] rfl), by simp⟩

/-! ### The decision -/

/-- The decision of the meter says what it means. -/
theorem accepts_iff_due (hm : Meter.new c d monitor = .ok m) {ops : List Op} {r : Request}
    (hr : r ∈ m.handedOut ops) : (m.run ops).accepts r = true ↔ m.Due ops r := by
  have hissued := issued_run hm ops
  have hinOrder : (m.run ops).isInOrder r = true ↔
      ∀ t ∈ m.history ops, t.sample.request.number < r.number := by
    rw [isInOrder, lastTaken_run hm, all_getLast?_lt_iff (history_increasing hm ops)]
  rw [accepts, Bool.and_eq_true, hinOrder, isCurrent, Bool.and_eq_true, beq_iff_eq]
  constructor
  · rintro ⟨⟨hrunning, hgeneration⟩, hbelow⟩
    exact ⟨hrunning, (hissued.mem_current_iff r).2 ⟨hr, hgeneration⟩, hbelow⟩
  · rintro ⟨hrunning, hcurrent, hbelow⟩
    exact ⟨⟨hrunning, ((hissued.mem_current_iff r).1 hcurrent).2⟩, hbelow⟩

/-- Requests of the present run lie above everything taken in earlier runs. -/
theorem due_of_first_answer (hm : Meter.new c d monitor = .ok m) {ops : List Op}
    (hops : m.OnlyAnswers ops) {r : Request} (hrunning : (m.run ops).isRunning = true)
    (hr : r ∈ m.issued ops)
    (hfirst : ∀ s, .read s ∈ ops → s.request ∉ m.issued ops) : m.Due ops r := by
  have hissued := issued_run hm ops
  obtain ⟨hout, hgeneration⟩ := (hissued.mem_current_iff r).1 hr
  refine ⟨hrunning, hr, fun t ht ↦ ?_⟩
  obtain ⟨htout, htread⟩ := handedOut_of_mem_history hops ht
  have hearlier : t.sample.request.generation < r.generation := by
    have hle := (hissued.below _ (List.mem_append_left _ htout)).2
    have hne : t.sample.request.generation ≠ (m.run ops).schedule.generation := fun heq ↦
      hfirst _ htread ((hissued.mem_current_iff _).2 ⟨htout, heq⟩)
    omega
  -- of two requests handed out, the one of the earlier run came first
  have hordered := (List.pairwise_append.1 hissued.ordered).1
  obtain ⟨i, hi, hit⟩ := List.getElem_of_mem htout
  obtain ⟨j, hj, hjr⟩ := List.getElem_of_mem hout
  rcases Nat.lt_trichotomy i j with hij | rfl | hij
  · have := (List.pairwise_iff_getElem.1 hordered i j hi hj hij).1
    rwa [hit, hjr] at this
  · rw [← hit, hjr] at hearlier
    omega
  · have := (List.pairwise_iff_getElem.1 hordered j i hj hi hij).2
    rw [hit, hjr] at this
    omega

/-- **Which samples are taken.** After any operations, among which samples only answer requests
handed out before them, an answer to such a request is taken in if it is `Due`, and otherwise
leaves the meter as it is. So the samples taken have growing numbers, over all runs, and no request
is answered twice; and the first answer that reaches a run of its own is taken. -/
theorem read_answer (hm : Meter.new c d monitor = .ok m) {ops : List Op} (hops : m.OnlyAnswers ops)
    {s : Sample} (hs : s.request ∈ m.handedOut ops) :
    ((m.run ops).step (.read s) = (m.run ops).takeIn s ↔ m.Due ops s.request) ∧
      (m.history (ops ++ [.read s]) = m.history ops ++ [⟨(m.run ops).measurement, s⟩] ↔
        m.Due ops s.request) ∧
      (¬ m.Due ops s.request →
        (m.run ops).step (.read s) = m.run ops ∧ m.history (ops ++ [.read s]) = m.history ops) ∧
      ((m.history ops).map (·.sample.request.number)).Pairwise (· < ·) ∧
      ((m.history ops).map (·.sample.request)).Nodup ∧
      ((m.run ops).isRunning = true → s.request ∈ m.issued ops →
        (∀ s', .read s' ∈ ops → s'.request ∉ m.issued ops) → m.Due ops s.request) := by
  have hdue := accepts_iff_due hm hs
  have hincreasing := history_increasing hm ops
  have htaken : m.Due ops s.request →
      (m.run ops).step (.read s) = (m.run ops).takeIn s ∧
        m.history (ops ++ [.read s]) = m.history ops ++ [⟨(m.run ops).measurement, s⟩] := by
    intro h
    rw [history_concat, taking?, if_pos (hdue.2 h)]
    exact ⟨if_pos (hdue.2 h), rfl⟩
  have hrejected : ¬ m.Due ops s.request →
      (m.run ops).step (.read s) = m.run ops ∧ m.history (ops ++ [.read s]) = m.history ops := by
    intro h
    rw [history_concat, taking?, if_neg (mt hdue.1 h)]
    exact ⟨if_neg (mt hdue.1 h), by simp⟩
  refine ⟨⟨fun h ↦ ?_, fun h ↦ (htaken h).1⟩, ⟨fun h ↦ ?_, fun h ↦ (htaken h).2⟩, hrejected, ?_, ?_,
    fun hrunning hissued hfirst ↦ due_of_first_answer hm hops hrunning hissued hfirst⟩
  · -- taking a sample in counts it, so it is told from leaving the meter alone
    by_contra hnot
    exact takeIn_ne _ s (h.symm.trans (hrejected hnot).1)
  · by_contra hnot
    rw [(hrejected hnot).2] at h
    simpa using congrArg List.length h
  · exact List.pairwise_map.2 hincreasing
  · refine List.pairwise_map.2 (hincreasing.imp fun {t u} hlt heq ↦ ?_)
    rw [heq] at hlt
    exact absurd hlt (Nat.lt_irrefl _)

/-- A meter that was stopped and started again takes the answer to its second request, also when a
late answer to the first one came in between. -/
theorem read_answer_after_restart :
    let m : Meter := { settings := {}, host := {} }
    let ops : List Op :=
      [.start 0, .timeout 0, .nextRequest, .stop, .start 10, .timeout 10, .nextRequest,
        .read ⟨⟨1, 0⟩, 11, {}⟩]
    let s : Sample := ⟨⟨2, 1⟩, 12, {}⟩
    Meter.new {} {} = .ok m ∧ m.OnlyAnswers ops ∧ s.request ∈ m.handedOut ops ∧
      m.history (ops ++ [.read s]) = m.history ops ++ [⟨(m.run ops).measurement, s⟩] := by
  intro m ops s
  have hm : Meter.new {} {} = .ok m := rfl
  have hops : m.OnlyAnswers ops := by
    have hunread : m.OnlyAnswers (ops.take 7) := by
      intro before s' after h
      have hread : Op.read s' ∈ ops.take 7 := h ▸ by simp
      exact absurd hread (by simp [ops])
    refine hunread.concat fun s' hs' ↦ ?_
    obtain rfl := Op.read.inj hs'
    decide
  have hs : s.request ∈ m.handedOut ops := by decide
  refine ⟨hm, hops, hs, (read_answer hm hops hs).2.1.2 ?_⟩
  refine (read_answer hm hops hs).2.2.2.2.2 (by decide) (by decide) ?_
  intro s' hs'
  have hlate : s' = ⟨⟨1, 0⟩, 11, {}⟩ := by simpa [ops] using hs'
  rw [hlate]
  decide

end Meter

end MediaTelemetry
