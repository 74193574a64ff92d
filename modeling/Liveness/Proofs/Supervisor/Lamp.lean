import Liveness.Proofs.Event.Lamp
import Liveness.Proofs.Supervisor.Step
import Liveness.Proofs.Supervisor.Turns

/-! The indicator over a whole run: on for every call, off for every sleep between polls and after a
success, held on through the wait after a failure and released before the next step, off at the
end. -/
namespace Liveness

namespace Cancellation
open Event
variable {lamp : Option Bool} {es : List Event}

theorem suits_firstPart (left : Duration) (e : Event) (h : Suits lamp e) :
    Suits lamp (firstPart left e) := by
  unfold firstPart
  split <;> exact h

theorem lampAfter_firstPart (left : Duration) (e : Event) :
    lampAfter lamp [firstPart left e] = lampAfter lamp [e] := by
  unfold firstPart
  split <;> rfl

theorem lastPart_eq (left : Duration) (e : Event) :
    ∃ effects : List Effect, lastPart left e = effects.map .effect := by
  unfold lastPart
  split
  · exact ⟨[], rfl⟩
  · exact ⟨[.takes _], rfl⟩

/-- The two parts of an event with the cancellation between them are to the indicator what the event
is. -/
theorem lampAfter_parts (left : Duration) (e : Event) :
    lampAfter lamp (firstPart left e :: byClock :: lastPart left e) = lampAfter lamp [e] := by
  obtain ⟨effects, heffects⟩ := lastPart_eq left e
  rw [lampAfter_cons, lampAfter_firstPart, heffects]
  exact lampAfter_effects effects

theorem obeys_parts (left : Duration) (e : Event) (h : Suits lamp e) :
    Obeys lamp (firstPart left e :: byClock :: lastPart left e) := by
  obtain ⟨effects, heffects⟩ := lastPart_eq left e
  rw [heffects]
  exact ⟨suits_firstPart left e h, ⟨nofun, nofun⟩, obeys_effects effects⟩

theorem lampAfter_pass (c : Cancellation) : lampAfter lamp (c.pass es).1 = lampAfter lamp es := by
  obtain heq | ⟨before, e, after, left, rfl, heq⟩ := c.pass_fst es
  · rw [heq]
  · rw [heq]
    change _ = lampAfter lamp (before ++ ([e] ++ after))
    simp only [lampAfter_append, lampAfter_parts]

theorem obeys_pass (c : Cancellation) (h : Obeys lamp es) : Obeys lamp (c.pass es).1 := by
  obtain heq | ⟨before, e, after, left, rfl, heq⟩ := c.pass_fst es
  · rwa [heq]
  · obtain ⟨hbefore, hsuits, hafter⟩ := obeys_append.1 h
    have hparts := obeys_parts left e hsuits
    rw [← lampAfter_parts left e] at hafter
    rw [heq]
    exact obeys_append.2 ⟨hbefore, obeys_append.2 ⟨hparts, hafter⟩⟩

theorem not_isRest_of_mem_pass (c : Cancellation) (h : ∀ e ∈ es, e.isRest = false) :
    ∀ e ∈ (c.pass es).1, e.isRest = false := by
  obtain heq | ⟨before, e, after, left, rfl, heq⟩ := c.pass_fst es
  · rwa [heq]
  · obtain ⟨effects, heffects⟩ := lastPart_eq left e
    have hfirst : (firstPart left e).isRest = e.isRest := by
      unfold firstPart
      split <;> rfl
    rw [heq, heffects]
    intro f hf
    simp only [List.mem_append, List.mem_cons, List.cons_append] at hf h
    obtain hf | rfl | rfl | hf | hf := hf
    · exact h f (.inl hf)
    · exact hfirst.trans (h e (.inr (.inl rfl)))
    · rfl
    · obtain ⟨effect, -, rfl⟩ := List.mem_map.1 hf
      rfl
    · exact h f (.inr (.inr hf))

end Cancellation

/-- What holds of a turn, whatever the indicator was before it. -/
structure Turn.Lit (t : Turn) : Prop where
  obeys : ∀ lamp, Event.Obeys lamp t.events
  not_isRest : ∀ e ∈ t.step ++ t.release, e.isRest = false
  lit : ∀ lamp waited d slept, t.wait = waited ++ .rest d :: slept →
    ∃ report, t.report = some report ∧
      Event.lampAfter lamp (t.step ++ waited) = some report.outcome.isFailure

namespace Supervisor
open Event
variable {ρ π : Type} {limit : Nat} {s t : Supervisor ρ π} {c : Cancellation}
  {report : StepReport} {events : List Event} {lamp : Option Bool}

theorem askedProbe_lit (answer : Answer π (Except ProbeError StatusLine)) :
    Obeys lamp (.lamp true :: .probe :: answer.events) ∧
      lampAfter lamp (.lamp true :: .probe :: answer.events) = some true :=
  ⟨⟨⟨nofun, nofun⟩, ⟨fun _ => rfl, nofun⟩, obeys_events answer⟩, lampAfter_events answer⟩

theorem reachableNotices_lit (s : Supervisor ρ π) (line : StatusLine) :
    Obeys lamp (s.reachableNotices line) ∧ lampAfter lamp (s.reachableNotices line) = lamp := by
  unfold reachableNotices
  split
  · exact ⟨⟨⟨nofun, nofun⟩, trivial⟩, rfl⟩
  · exact ⟨trivial, rfl⟩

variable [Radio ρ]

theorem attempt_lit (lamp : Option Bool) (limit : Nat) (s : Supervisor ρ π) :
    Obeys lamp (s.attempt limit).events ∧
      ((s.attempt limit).outcome ≠ none → lampAfter lamp (s.attempt limit).events = some true) :=
  Association.run_lit lamp limit _ _ _ _

theorem failedAttempt_lit (limit : Nat) (s : Supervisor ρ π) (notice : Notice) :
    Obeys lamp ((s.attempt limit).events ++ [.lamp true, .report notice]) ∧
      lampAfter lamp ((s.attempt limit).events ++ [.lamp true, .report notice]) = some true := by
  obtain ⟨hattempt, -⟩ := attempt_lit lamp limit s
  constructor
  · exact obeys_append.2 ⟨hattempt, ⟨nofun, nofun⟩, ⟨nofun, nofun⟩, trivial⟩
  · rw [lampAfter_append]
    rfl

variable [Prober π]

/-- A step obeys. Where a wait follows, it leaves the indicator on after a failure and off after a
success. -/
theorem StepEnds.lit (h : StepEnds limit s report t events) :
    Obeys lamp events ∧
      (report.backoff.isZero = false → lampAfter lamp events = some report.outcome.isFailure) := by
  cases h with
  | @associated status address phase outcome asked =>
    obtain ⟨hattempt, hon⟩ := attempt_lit lamp limit s
    have hlit := hon (by simp [outcome])
    refine ⟨?_, nofun⟩
    rw [List.append_assoc, obeys_append, hlit]
    refine ⟨hattempt, ⟨fun _ => rfl, nofun⟩, obeys_append.2 ⟨obeys_events address, ?_⟩⟩
    exact ⟨⟨nofun, nofun⟩, ⟨nofun, nofun⟩, trivial⟩
  | rejected phase outcome =>
    obtain ⟨hobeys, hlit⟩ := failedAttempt_lit limit s _
    exact ⟨hobeys, fun _ => hlit⟩
  | activationFailed phase outcome =>
    obtain ⟨hobeys, hlit⟩ := failedAttempt_lit limit s _
    exact ⟨hobeys, fun _ => hlit⟩
  | @succeeded answer line phase asked value =>
    obtain ⟨hobeys, -⟩ := askedProbe_lit answer
    have hfailure : (StepOutcome.probed (.ofResult answer.value)).isFailure = false := by
      rw [value]
      rfl
    constructor
    · exact obeys_append.2 ⟨hobeys, ⟨nofun, nofun⟩, (reachableNotices_lit s line).1⟩
    · intro _
      rw [lampAfter_append, hfailure]
      exact (reachableNotices_lit s line).2
  | @failed answer e phase asked value =>
    obtain ⟨hobeys, hlit⟩ := askedProbe_lit answer
    have hfailure : (StepOutcome.probed (.ofResult answer.value)).isFailure = true := by
      rw [value]
      rfl
    constructor
    · exact obeys_append.2 ⟨hobeys, ⟨nofun, nofun⟩, trivial⟩
    · intro _
      rw [lampAfter_append, hlit, hfailure]
      rfl

theorem step_obeys (lamp : Option Bool) (limit : Nat) (s : Supervisor ρ π) :
    Obeys lamp (s.step limit).events := by
  cases hreport : (s.step limit).report with
  | none =>
    rw [(step_of_report_eq_none hreport).2]
    exact (attempt_lit lamp limit s).1
  | some report =>
    exact (stepEnds_of_step (congrArg (Step.mk · _ _) hreport)).lit.1

theorem not_isRest_of_mem_step (limit : Nat) (s : Supervisor ρ π) :
    ∀ e ∈ (s.step limit).events, e.isRest = false := by
  intro e he
  have hstep := isOfStep_of_mem_step limit s e he
  cases e with
  | rest span => nomatch hstep
  | _ => rfl

/-- A wait leaves the indicator alone, and its sleep is the first thing in it. -/
theorem sleep_quiet (lamp : Option Bool) (c : Cancellation) (wait : Duration) :
    Obeys lamp (c.sleep wait).1 ∧ lampAfter lamp (c.sleep wait).1 = lamp ∧
      ∀ waited d slept, (c.sleep wait).1 = waited ++ .rest d :: slept →
        waited = [] ∧ wait.isZero = false := by
  obtain heq | ⟨hwait, d, heq | heq⟩ := c.sleep_fst wait
  · rw [heq]
    exact ⟨trivial, rfl, by simp⟩
  · rw [heq]
    refine ⟨⟨⟨nofun, nofun⟩, trivial⟩, rfl, fun waited e slept h => ⟨?_, hwait⟩⟩
    cases waited with
    | nil => rfl
    | cons f waited => simp at h
  · rw [heq]
    refine ⟨⟨⟨nofun, nofun⟩, ⟨nofun, nofun⟩, trivial⟩, rfl, fun waited e slept h => ⟨?_, hwait⟩⟩
    cases waited with
    | nil => rfl
    | cons f waited => cases waited <;> simp [Cancellation.byClock] at h

theorem turn_lit (limit : Nat) (c : Cancellation) (s : Supervisor ρ π) : (s.turn limit c).1.Lit := by
  have hobeys (lamp : Option Bool) : Obeys lamp (c.pass (s.step limit).events).1 :=
    Cancellation.obeys_pass c (step_obeys lamp limit s)
  have hstep := Cancellation.not_isRest_of_mem_pass c (not_isRest_of_mem_step limit s)
  cases hreport : (s.step limit).report with
  | none =>
    rw [turn_of_report_eq_none hreport]
    refine ⟨fun lamp => ?_, ?_, ?_⟩
    · simpa [Turn.events] using hobeys lamp
    · simpa using hstep
    · intro lamp waited d slept h
      simp at h
  | some report =>
    have hends := stepEnds_of_step (congrArg (Step.mk · _ _) hreport)
    rw [turn_of_report hreport]
    refine ⟨fun lamp => ?_, ?_, ?_⟩
    · refine obeys_append.2 ⟨obeys_append.2 ⟨hobeys lamp, (sleep_quiet _ _ _).1⟩, ?_⟩
      unfold StepReport.release
      split_ifs <;> simp [Obeys, Suits, isCall, isPollWait]
    · rw [List.forall_mem_append]
      refine ⟨hstep, ?_⟩
      unfold StepReport.release
      split_ifs <;> simp [isRest]
    · intro lamp waited d slept h
      obtain ⟨rfl, hwait⟩ := (sleep_quiet lamp _ _).2.2 waited d slept h
      refine ⟨report, rfl, ?_⟩
      rw [List.append_nil, Cancellation.lampAfter_pass]
      exact hends.lit.2 hwait

/-- A turn that is followed by another has ended, and a failure's indicator is released in it. -/
theorem turn_released (h : (s.turn limit c).2.isSome) :
    ∃ report, (s.turn limit c).1.report = some report ∧
      (report.outcome.isFailure → .lamp false ∈ (s.turn limit c).1.release) := by
  cases hreport : (s.step limit).report with
  | none => simp [turn_of_report_eq_none hreport] at h
  | some report =>
    rw [turn_of_report hreport] at h ⊢
    refine ⟨report, rfl, fun hfailure => ?_⟩
    simp [h, StepReport.release, hfailure]

theorem obeys_turns {turns : List Turn} (h : ∀ t ∈ turns, t.Lit) (lamp : Option Bool) :
    Obeys lamp (turns.flatMap Turn.events) := by
  induction turns generalizing lamp with
  | nil => trivial
  | cons t turns ih =>
    rw [List.flatMap_cons, obeys_append]
    exact ⟨(h t List.mem_cons_self).obeys lamp, ih (fun t ht => h t (List.mem_cons_of_mem _ ht)) _⟩

/-- Throughout a run the indicator is on for every call to the radio and the prober, off for every
sleep between polls, and for a sleep between steps on exactly where the step has failed. A failed
step is followed by a release before the next one begins, and a finished run leaves the indicator
off. -/
theorem run_indicator (limit horizon : Nat) (deadline : Option Duration) (s : Supervisor ρ π) :
    let run := s.run limit horizon deadline
    let turns := turns limit horizon (.ofDeadline deadline) s
    run.events =
        s.opening ++ turns.flatMap Turn.events ++ (if run.finished then run.supervisor.ending else []) ∧
      (∀ before e after, run.events = before ++ e :: after → Suits (lampAfter none before) e) ∧
      (∀ earlier t later, turns = earlier ++ t :: later →
        (∀ e ∈ t.step ++ t.release, e.isRest = false) ∧
        (∀ waited d slept, t.wait = waited ++ .rest d :: slept → ∃ report, t.report = some report ∧
          lampAfter none (s.opening ++ earlier.flatMap Turn.events ++ t.step ++ waited) =
            some report.outcome.isFailure) ∧
        (later ≠ [] → ∃ report, t.report = some report ∧
          (report.outcome.isFailure → .lamp false ∈ t.release))) ∧
      (run.finished → lampAfter none run.events = some false) := by
  intro run turns
  have hevents : run.events = s.opening ++ turns.flatMap Turn.events ++
      (if run.finished then run.supervisor.ending else []) := by
    simp only [run, Supervisor.run, loop_events, turns]
  have hlit : ∀ t ∈ turns, t.Lit := by
    intro t ht
    obtain ⟨earlier, later, h⟩ := List.append_of_mem ht
    obtain ⟨d, r, rfl, -⟩ := turn_of_turns h
    exact turn_lit limit d r
  have hobeys : Obeys none run.events := by
    rw [hevents, obeys_append, obeys_append]
    refine ⟨⟨⟨⟨nofun, nofun⟩, trivial⟩, obeys_turns hlit _⟩, ?_⟩
    split_ifs
    · exact ⟨⟨nofun, nofun⟩, ⟨nofun, nofun⟩, trivial⟩
    · trivial
  refine ⟨hevents, ?_, ?_, ?_⟩
  · intro before e after h
    exact (h ▸ hobeys).suits
  · intro earlier t later h
    have ht : t.Lit := hlit t (h ▸ List.mem_append_right _ List.mem_cons_self)
    refine ⟨ht.not_isRest, ?_, ?_⟩
    · intro waited d slept hwait
      obtain ⟨report, hreport, hlamp⟩ :=
        ht.lit (lampAfter none (s.opening ++ earlier.flatMap Turn.events)) waited d slept hwait
      refine ⟨report, hreport, ?_⟩
      rw [List.append_assoc, lampAfter_append, hlamp]
    · intro hlater
      obtain ⟨d, r, rfl, hsome⟩ := turn_of_turns h
      exact turn_released (hsome hlater)
  · intro hfinished
    rw [hevents, if_pos hfinished, lampAfter_append]
    rfl

/-- A refused join, a join, and a failed probe that is cancelled. -/
theorem run_indicator_scripted :
    let config : AgentConfig :=
      ⟨.fixed, ⟨"lab", ""⟩, ⟨"monitor", livenessPath, .get, none⟩, ⟨.disabled, .ofSecs 3⟩, .standard⟩
    let radio : ScriptedRadio := ⟨[], [Link.failed, Link.up], none, .zero⟩
    let prober : ScriptedProber := ⟨[⟨.zero, true, .error (.timeout .connect (.ofSecs 3))⟩]⟩
    let run := (Supervisor.new config radio prober).run 1 3 none
    run.finished = true ∧ lampAfter none run.events = some false := by
  intro config radio prober run
  have hfinished : run.finished = true := by decide
  obtain ⟨-, -, -, hoff⟩ := run_indicator 1 3 none (Supervisor.new config radio prober)
  exact ⟨hfinished, hoff hfinished⟩

end Supervisor
end Liveness
