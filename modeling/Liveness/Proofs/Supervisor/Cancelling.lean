import Liveness.Proofs.Supervisor.Schedule

/-! A run that is cancelled: which steps it takes, which calls they make and when, when it returns,
and what it reports at its end. -/
namespace Liveness
open Event

def Event.isStop : Event → Bool
  | .report (.stopped _) => true
  | _ => false

theorem Event.isStop_of_isOfStep {e : Event} (h : e.isOfStep = true) : e.isStop = false := by
  cases e with
  | report notice => cases notice <;> first | rfl | nomatch h
  | _ => rfl

namespace Supervisor
variable {ρ π : Type} [Radio ρ] [Prober π]

/-- The steps of a run that is cancelled at `time`, where a reported wait takes as long as `wait`
says: they end, and they are those scheduled for before that time. A run that is cancelled before it
starts has none. -/
structure Planned (wait : Duration → Duration) (c : Cancellation) (time : Nat)
    (s : Supervisor ρ π) (trace : List (Ended ρ π)) (u : Supervisor ρ π) : Prop where
  steps : Steps s trace u
  cancelled : IsLeast (cancellations wait 0 c trace) time
  before : ∀ planned ∈ schedule wait 0 trace, planned.1 < time
  after : time < nextStart wait 0 trace ∨ c = .done

/-- A run that takes these steps and no other, makes their calls at their times, ends when it is
cancelled or with the step in flight, and reports its end once, with the number of its probes. -/
structure Stops (wait : Duration → Duration) (time : Nat) (s : Supervisor ρ π)
    (trace : List (Ended ρ π)) (u : Supervisor ρ π) (run : Run ρ π) (turns : List Turn) : Prop where
  finished : run.finished = true
  supervisor : run.supervisor = u
  reports : turns.map Turn.report = trace.map fun e => some e.report
  calls : timed isCall 0 run.events = (schedule wait 0 trace).flatMap fun planned =>
    timed isCall planned.1 planned.2.events
  finish : total run.events = finish time (schedule wait 0 trace)
  stopped : ∃ earlier, run.events = earlier ++ [.report (.stopped u.probes)] ∧
    earlier.countP isStop = 0
  probes : u.probes = s.probes + run.events.countP isProbe

variable {limit horizon time : Nat} {c : Cancellation} {s t u : Supervisor ρ π}
  {report : StepReport} {events : List Event} {trace : List (Ended ρ π)}

theorem StepEnds.probes (h : StepEnds limit s report t events) :
    t.probes = s.probes + events.countP isProbe := by
  rw [h.counts.2.1]
  cases h with
  | associated phase outcome asked => rfl
  | rejected phase outcome => rfl
  | activationFailed phase outcome => rfl
  | succeeded phase asked value => rfl
  | failed phase asked value => rfl

namespace Steps

theorem probes (h : Steps s trace u) :
    u.probes = s.probes + (trace.flatMap Ended.events).countP isProbe := by
  induction h with
  | nil s => rfl
  | cons first later ih =>
    rw [ih, (stepEnds_of_step first).probes, List.flatMap_cons, List.countP_append, Nat.add_assoc]

theorem countP_isStop (h : Steps s trace u) : (trace.flatMap Ended.events).countP isStop = 0 := by
  induction h with
  | nil s => rfl
  | @cons s t u limit report events trace first later ih =>
    have hstep : events.countP isStop = 0 := by
      rw [List.countP_eq_zero]
      intro e he
      rw [isStop_of_isOfStep ((stepEnds_of_step first).isOfStep e he)]
      exact Bool.false_ne_true
    rw [List.flatMap_cons, List.countP_append, hstep, ih]

end Steps

/-- What comes before the first step of a run and after its last one. -/
theorem stops_of_tracks (h : Steps s trace u)
    (ht : Tracks 0 time trace u (loop limit horizon c s) (turns limit horizon c s)) :
    Stops Duration.asWait time s trace u (s.runUnder limit horizon c) (turns limit horizon c s) := by
  have hevents : (s.runUnder limit horizon c).events =
      s.opening ++ (loop limit horizon c s).events ++ u.ending := by
    unfold runUnder
    dsimp only
    rw [ht.finished, ht.supervisor]
    rfl
  have hcount (p : Event → Bool) (hp : ∀ e, p e → e.isPunctual) :
      (loop limit horizon c s).events.countP p = (trace.flatMap Ended.events).countP p := by
    rw [← length_timed, ht.timed p hp, length_timed_schedule]
  have hpunctual (p : Event → Bool) : p = isCall ∨ p = isProbe ∨ p = isStop →
      ∀ e, p e → e.isPunctual := by
    rintro (rfl | rfl | rfl) e he <;> cases e <;> first | rfl | nomatch he
  refine ⟨ht.finished, ht.supervisor, ht.reports, ?_, ?_, ?_, ?_⟩
  · have htimed := ht.timed isCall (hpunctual isCall (.inl rfl))
    have hopening : total s.opening = 0 := rfl
    have hbegin : timed isCall 0 s.opening = [] := rfl
    have hend (now : Nat) : timed isCall now u.ending = [] := rfl
    rw [hevents, timed_append, timed_append, hopening, hbegin, hend, List.nil_append,
      List.append_nil, htimed]
  · have hopening : total s.opening = 0 := rfl
    have hending : total u.ending = 0 := rfl
    rw [hevents, total_append, total_append, hopening, hending, ← ht.finish, Nat.add_zero]
  · refine ⟨s.opening ++ (loop limit horizon c s).events ++ [.lamp false], ?_, ?_⟩
    · rw [hevents]
      simp [ending]
    · have hopening : s.opening.countP isStop = 0 := rfl
      have hlamp : [Event.lamp false].countP isStop = 0 := rfl
      rw [List.countP_append, List.countP_append, hopening, hlamp,
        hcount isStop (hpunctual isStop (.inr (.inr rfl))), h.countP_isStop]
  · have hopening : s.opening.countP isProbe = 0 := rfl
    have hending : u.ending.countP isProbe = 0 := rfl
    rw [hevents, List.countP_append, List.countP_append, hopening, hending,
      hcount isProbe (hpunctual isProbe (.inr (.inl rfl))), h.probes]
    omega

theorem Planned.tracks (h : Planned Duration.asWait c time s trace u) :
    ∃ least, ∀ limit, least ≤ limit → ∀ horizon, trace.length ≤ horizon →
      Tracks 0 time trace u (loop limit horizon c s) (turns limit horizon c s) := by
  cases trace with
  | nil =>
    cases h.steps
    obtain hafter | rfl := h.after
    · nomatch hafter
    · refine ⟨0, fun limit _ horizon _ => ?_⟩
      have hzero : time ≤ 0 := h.cancelled.2 (.inl ⟨0, rfl, rfl⟩)
      rw [loop_done, turns_done]
      exact ⟨rfl, rfl, rfl, fun p hp => rfl, (Nat.le_zero.1 hzero).symm⟩
  | cons e later =>
    have hstart : 0 < time := h.before _ List.mem_cons_self
    have hafter : time < nextStart Duration.asWait 0 (e :: later) := by
      obtain hafter | rfl := h.after
      · exact hafter
      · exact absurd hstart (Nat.not_lt.2 (h.cancelled.2 (.inl ⟨0, rfl, rfl⟩)))
    exact h.steps.tracks (List.cons_ne_nil _ _) h.cancelled h.before hafter

/-- A run that is cancelled takes exactly the steps that are scheduled for before that time. Each is
scheduled for the end of the one before it and its reported wait, or the longest wait if that is
shorter. -/
theorem run_cancelled (h : Planned Duration.asWait c time s trace u) :
    ∃ least, ∀ limit, least ≤ limit → ∀ horizon, trace.length ≤ horizon →
      Stops Duration.asWait time s trace u (s.runUnder limit horizon c)
        (turns limit horizon c s) := by
  obtain ⟨least, htracks⟩ := h.tracks
  refine ⟨least, fun limit hlimit horizon hhorizon => ?_⟩
  exact stops_of_tracks h.steps (htracks limit hlimit horizon hhorizon)

/-- An association, a probe, and a second probe that the clock finds in flight. -/
theorem run_cancelled_in_flight :
    let config : AgentConfig :=
      ⟨.fixed, ⟨"lab", ""⟩, ⟨"monitor", livenessPath, .get, none⟩, ⟨.disabled, .ofSecs 3⟩, .standard⟩
    let radio : ScriptedRadio := ⟨[], [Link.up], none, .zero⟩
    let answered : ScriptedProbe := ⟨.ofMillis 300, false, .ok ⟨"HTTP/1.0 200 OK"⟩⟩
    let s : Supervisor ScriptedRadio ScriptedProber := .new config radio ⟨[answered, answered]⟩
    let deadline := Duration.ofMillis 1500
    ∃ trace u, Planned Duration.asWait (.ofDeadline (some deadline)) deadline.nanos s trace u ∧
      trace.map (·.report.phase) = [.needAssociation, .needProbe, .needProbe] ∧
      ∃ limit, (s.run limit 3 (some deadline)).supervisor = u ∧
        total (s.run limit 3 (some deadline)).events = (Duration.ofMillis 1600).nanos := by
  intro config radio answered s deadline
  let s₁ := (s.step 1).supervisor
  let s₂ := (s₁.step 0).supervisor
  let s₃ := (s₂.step 0).supervisor
  let joined : StepReport := ⟨.needAssociation, .associated none, .needProbe, .zero⟩
  let probed : StepReport :=
    ⟨.needProbe, .probed ⟨true, some "HTTP/1.0 200 OK", none⟩, .needProbe, .ofSecs 1⟩
  let trace : List (Ended ScriptedRadio ScriptedProber) := [⟨s, joined, s₁, (s.step 1).events⟩,
    ⟨s₁, probed, s₂, (s₁.step 0).events⟩, ⟨s₂, probed, s₃, (s₂.step 0).events⟩]
  have hfirst : s.step 1 = ⟨some joined, s₁, (s.step 1).events⟩ := rfl
  have hsecond : s₁.step 0 = ⟨some probed, s₂, (s₁.step 0).events⟩ := rfl
  have hthird : s₂.step 0 = ⟨some probed, s₃, (s₂.step 0).events⟩ := rfl
  have hsteps : Steps s trace s₃ := .cons hfirst (.cons hsecond (.cons hthird (.nil s₃)))
  have hquiet : ∀ planned ∈ schedule Duration.asWait 0 trace,
      ∀ stamp ∈ stamped planned.1 planned.2.events, stamp.2.canceller?.isSome = false := by
    decide +kernel
  have hcancelled : IsLeast (cancellations Duration.asWait 0 (.ofDeadline (some deadline)) trace)
      deadline.nanos := by
    refine ⟨.inl ⟨deadline.nanos, rfl, (Nat.zero_add _).symm⟩, ?_⟩
    rintro other (⟨left, hleft, rfl⟩ | ⟨planned, hplanned, stamp, hstamp, hcancel, -⟩)
    · obtain rfl := Option.some.inj hleft
      exact Nat.le_add_left _ _
    · rw [hquiet planned hplanned stamp hstamp] at hcancel
      nomatch hcancel
  have hplanned : Planned Duration.asWait (.ofDeadline (some deadline)) deadline.nanos s trace s₃ :=
    ⟨hsteps, hcancelled, by decide +kernel, .inl (by decide +kernel)⟩
  obtain ⟨limit, hstops⟩ := run_cancelled hplanned
  have hrun := hstops limit (Nat.le_refl limit) 3 (Nat.le_refl 3)
  refine ⟨trace, s₃, hplanned, rfl, limit, hrun.supervisor, ?_⟩
  exact hrun.finish.trans (by decide +kernel)

/-- A wait of thirty-one years is over before the time that its report gives: the second probe of this
run, which cancels it, is made a year early. -/
theorem run_ahead_of_report :
    let backoff : Backoff := { Backoff.standard with probeFailed := .ofSecs (31 * 365 * 86400) }
    let config : AgentConfig :=
      ⟨.fixed, ⟨"lab", ""⟩, ⟨"monitor", livenessPath, .get, none⟩, ⟨.disabled, .ofSecs 3⟩, backoff⟩
    let radio : ScriptedRadio := ⟨[], [Link.up], none, .zero⟩
    let prober : ScriptedProber := ⟨[⟨.zero, false, .error (.timeout .connect (.ofSecs 3))⟩,
      ⟨.ofMillis 5, true, .ok ⟨"HTTP/1.0 200 OK"⟩⟩]⟩
    let s : Supervisor ScriptedRadio ScriptedProber := .new config radio prober
    let time := backoff.probeFailed.nanos + (Duration.ofMillis 5).nanos
    ∃ trace u, Planned id .never time s trace u ∧
      ¬ ∃ least, ∀ limit, least ≤ limit → ∀ horizon, trace.length ≤ horizon →
        Stops id time s trace u (s.runUnder limit horizon .never) (turns limit horizon .never s) := by
  intro backoff config radio prober s time
  let s₁ := (s.step 1).supervisor
  let s₂ := (s₁.step 0).supervisor
  let s₃ := (s₂.step 0).supervisor
  let joined : StepReport := ⟨.needAssociation, .associated none, .needProbe, .zero⟩
  let failed : StepReport :=
    ⟨.needProbe, .probed ⟨false, none, some .timeout⟩, .needProbe, backoff.probeFailed⟩
  let probed : StepReport :=
    ⟨.needProbe, .probed ⟨true, some "HTTP/1.0 200 OK", none⟩, .needProbe, .ofSecs 1⟩
  let trace : List (Ended ScriptedRadio ScriptedProber) := [⟨s, joined, s₁, (s.step 1).events⟩,
    ⟨s₁, failed, s₂, (s₁.step 0).events⟩, ⟨s₂, probed, s₃, (s₂.step 0).events⟩]
  have hfirst : s.step 1 = ⟨some joined, s₁, (s.step 1).events⟩ := rfl
  have hsecond : s₁.step 0 = ⟨some failed, s₂, (s₁.step 0).events⟩ := rfl
  have hthird : s₂.step 0 = ⟨some probed, s₃, (s₂.step 0).events⟩ := rfl
  have hsteps : Steps s trace s₃ := .cons hfirst (.cons hsecond (.cons hthird (.nil s₃)))
  have hsome : ∃ planned ∈ schedule id 0 trace, ∃ stamp ∈ stamped planned.1 planned.2.events,
      stamp.2.canceller?.isSome ∧ time = stamp.1 := by
    decide +kernel
  have hscript : ∀ planned ∈ schedule id 0 trace, ∀ stamp ∈ stamped planned.1 planned.2.events,
      stamp.2.canceller?.isSome → time = stamp.1 := by
    decide +kernel
  have hcancelled : IsLeast (cancellations id 0 .never trace) time := by
    refine ⟨.inr hsome, ?_⟩
    rintro other (⟨left, hleft, rfl⟩ | ⟨planned, hplanned, stamp, hstamp, hcancel, rfl⟩)
    · nomatch hleft
    · exact Nat.le_of_eq (hscript planned hplanned stamp hstamp hcancel)
  have hplanned : Planned id .never time s trace s₃ :=
    ⟨hsteps, hcancelled, by decide +kernel, .inl (by decide +kernel)⟩
  refine ⟨trace, s₃, hplanned, ?_⟩
  rintro ⟨least, hstops⟩
  have hcalls := (hstops (max least 1) (Nat.le_max_left _ _) 3 (Nat.le_refl 3)).calls
  have hloop : loop (max least 1) 3 .never s = loop 1 3 .never s :=
    loop_of_le (by decide +kernel) (Nat.le_max_right _ _) (Nat.le_refl 3)
  rw [runUnder, hloop] at hcalls
  revert hcalls
  decide +kernel

end Supervisor
end Liveness
