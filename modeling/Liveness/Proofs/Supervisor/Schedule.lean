import Liveness.Proofs.Event.Lamp
import Liveness.Proofs.Supervisor.Clock
import Liveness.Proofs.Supervisor.Phases
import Mathlib.Order.Bounds.Basic

/-! Steps on a clock: each is scheduled for the end of the one before it and its reported wait. A run
that is cancelled at some time takes the steps that are scheduled for before that time, and no
other. -/
namespace Liveness
open Event

section
variable {ρ π : Type}

/-- Steps with the times that they are scheduled for, where a reported wait takes as long as `wait`
says. -/
def schedule (wait : Duration → Duration) : Nat → List (Ended ρ π) → List (Nat × Ended ρ π)
  | _, [] => []
  | now, e :: trace =>
    (now, e) :: schedule wait (now + total e.events + (wait e.report.backoff).nanos) trace

/-- What the step after these is scheduled for. -/
def nextStart (wait : Duration → Duration) : Nat → List (Ended ρ π) → Nat
  | now, [] => now
  | now, e :: trace => nextStart wait (now + total e.events + (wait e.report.backoff).nanos) trace

/-- The times at which a run of these steps is cancelled, by the clock or in a step. -/
def cancellations (wait : Duration → Duration) (now : Nat) (c : Cancellation)
    (trace : List (Ended ρ π)) : Set Nat :=
  {time | (∃ left ∈ c.clock?, time = now + left) ∨
    ∃ planned ∈ schedule wait now trace, ∃ stamp ∈ stamped planned.1 planned.2.events,
      stamp.2.canceller?.isSome ∧ time = stamp.1}

/-- The end of a run that is cancelled at `time`: a step in flight ends first. -/
def finish (time : Nat) (steps : List (Nat × Ended ρ π)) : Nat :=
  steps.getLast?.elim time fun planned => max time (planned.1 + total planned.2.events)

variable {wait : Duration → Duration} {now time : Nat} {c : Cancellation} {e : Ended ρ π}
  {trace : List (Ended ρ π)}

theorem length_timed_schedule (p : Event → Bool) :
    ((schedule wait now trace).flatMap fun planned =>
      timed p planned.1 planned.2.events).length = (trace.flatMap Ended.events).countP p := by
  induction trace generalizing now with
  | nil => rfl
  | cons e trace ih =>
    rw [schedule, List.flatMap_cons, List.length_append, length_timed, ih, List.flatMap_cons,
      List.countP_append]

theorem mem_cancellations_cons :
    time ∈ cancellations wait now c (e :: trace) ↔ (∃ left ∈ c.clock?, time = now + left) ∨
      (∃ stamp ∈ stamped now e.events, stamp.2.canceller?.isSome ∧ time = stamp.1) ∨
      ∃ planned ∈ schedule wait (now + total e.events + (wait e.report.backoff).nanos) trace,
        ∃ stamp ∈ stamped planned.1 planned.2.events,
          stamp.2.canceller?.isSome ∧ time = stamp.1 := by
  rw [cancellations, Set.mem_ofPred_eq, schedule, List.exists_mem_cons_iff]

theorem le_clock (hT : IsLeast (cancellations wait now c (e :: trace)) time) :
    ∀ left ∈ c.clock?, time ≤ now + left := by
  intro left hleft
  exact hT.2 (mem_cancellations_cons.2 (.inl ⟨left, hleft, rfl⟩))

theorem canceller?_eq_none (hT : IsLeast (cancellations wait now c (e :: trace)) time)
    (hlt : now + total e.events < time) : ∀ event ∈ e.events, event.canceller? = none := by
  intro event hevent
  obtain ⟨stamp, hstamp, rfl⟩ := mem_iff_exists_stamp.1 hevent
  by_contra hcancel
  have hle : time ≤ stamp.1 := hT.2 (mem_cancellations_cons.2
    (.inr (.inl ⟨stamp, hstamp, Option.isSome_iff_ne_none.2 hcancel, rfl⟩)))
  have hbound := (stamped_bounds hstamp).2
  omega

/-- The time of cancellation stays where it is as time goes by. -/
theorem isLeast_after (hT : IsLeast (cancellations wait now c (e :: trace)) time)
    (hlt : now + total e.events + (wait e.report.backoff).nanos < time) :
    IsLeast (cancellations wait (now + total e.events + (wait e.report.backoff).nanos)
      (c.after (total e.events + (wait e.report.backoff).nanos)) trace) time := by
  constructor
  · obtain ⟨left, hleft, rfl⟩ | ⟨stamp, hstamp, -, rfl⟩ | hlater := mem_cancellations_cons.1 hT.1
    · refine .inl ⟨_, Cancellation.mem_clock?_after.2 ⟨left, hleft, rfl⟩, ?_⟩
      omega
    · have hbound := (stamped_bounds hstamp).2
      omega
    · exact .inr hlater
  · rintro other (⟨left, hleft, rfl⟩ | hlater)
    · obtain ⟨whole, hwhole, rfl⟩ := Cancellation.mem_clock?_after.1 hleft
      have hle := le_clock hT whole hwhole
      omega
    · exact hT.2 (mem_cancellations_cons.2 (.inr (.inr hlater)))

theorem finish_cons (h : trace ≠ []) :
    finish time (schedule wait now (e :: trace)) =
      finish time (schedule wait (now + total e.events + (wait e.report.backoff).nanos) trace) := by
  cases trace with
  | nil => exact absurd rfl h
  | cons f trace => rfl

theorem not_isPunctual_of_mem_sleep {event : Event} {backoff : Duration}
    (h : event ∈ (c.sleep backoff).1) : event.isPunctual = false := by
  obtain heq | ⟨-, left, heq | heq⟩ := c.sleep_fst backoff
  · rw [heq] at h
    nomatch h
  · rw [heq, List.mem_singleton] at h
    rw [h]
    rfl
  · rw [heq, List.mem_pair] at h
    obtain rfl | rfl := h <;> rfl

theorem StepReport.eq_of_mem_release {event : Event} {report : StepReport}
    (h : event ∈ report.release) : event = .lamp false := by
  unfold release at h
  split at h
  · exact List.mem_singleton.1 h
  · nomatch h

end

namespace Supervisor
variable {ρ π : Type} [Radio ρ] [Prober π]

def runUnder (limit horizon : Nat) (c : Cancellation) (s : Supervisor ρ π) : Run ρ π :=
  let rest := loop limit horizon c s
  let ending := if rest.finished then rest.supervisor.ending else []
  { rest with events := s.opening ++ rest.events ++ ending }

theorem run_eq_runUnder {limit horizon : Nat} {deadline : Option Duration} {s : Supervisor ρ π} :
    s.run limit horizon deadline = s.runUnder limit horizon (.ofDeadline deadline) := rfl

/-- What the turns of a run, from `now` on, have to do with the steps that are scheduled. -/
structure Tracks (now time : Nat) (trace : List (Ended ρ π)) (u : Supervisor ρ π)
    (rest : Run ρ π) (turns : List Turn) : Prop where
  finished : rest.finished = true
  supervisor : rest.supervisor = u
  reports : turns.map Turn.report = trace.map fun e => some e.report
  timed : ∀ p : Event → Bool, (∀ e, p e → e.isPunctual) → timed p now rest.events =
    (schedule Duration.asWait now trace).flatMap fun planned => timed p planned.1 planned.2.events
  finish : now + total rest.events = finish time (schedule Duration.asWait now trace)

variable {limit horizon now time : Nat} {c d : Cancellation} {s t u : Supervisor ρ π}
  {report : StepReport} {events : List Event} {trace : List (Ended ρ π)}

/-- The calls of a turn are those of its step, at the same times. -/
theorem timed_turn (hstep : s.step limit = ⟨some report, t, events⟩) {p : Event → Bool}
    (hp : ∀ e, p e → e.isPunctual) :
    timed p now (s.turn limit c).1.events = timed p now events := by
  have hreport : (s.step limit).report = some report := by rw [hstep]
  rw [turn_of_report hreport, hstep]
  unfold Turn.events
  dsimp only
  rw [List.append_assoc, timed_append, (Cancellation.timed_pass hp c now).1,
    List.append_right_eq_self]
  apply timed_eq_nil
  intro e he
  rw [List.mem_append] at he
  obtain he | he := he
  · exact eq_false_of_not_isPunctual hp (not_isPunctual_of_mem_sleep he)
  · split_ifs at he
    · rw [StepReport.eq_of_mem_release he]
      exact eq_false_of_not_isPunctual hp rfl
    · nomatch he

theorem total_turn (hstep : s.step limit = ⟨some report, t, events⟩) :
    total (s.turn limit c).1.events =
      total events + total ((c.pass events).2.sleep report.backoff).1 := by
  have hreport : (s.step limit).report = some report := by rw [hstep]
  have hpass : total (c.pass events).1 = total events :=
    (@Cancellation.timed_pass events (fun _ => false) nofun c 0).2
  have hrelease : total report.release = 0 := by
    unfold StepReport.release
    split_ifs <;> rfl
  rw [turn_of_report hreport, hstep]
  unfold Turn.events
  rw [total_append, total_append, hpass]
  split_ifs
  · rw [hrelease, Nat.add_zero]
  · rw [total_nil, Nat.add_zero]

theorem turn_snd (hstep : s.step limit = ⟨some report, t, events⟩) :
    (s.turn limit c).2 = ((c.pass events).2.sleep report.backoff).2 := by
  have hreport : (s.step limit).report = some report := by rw [hstep]
  rw [turn_of_report hreport, hstep]

/-- A turn that another follows takes as long as the schedule says. -/
theorem tracks_next (hstep : s.step limit = ⟨some report, t, events⟩) (hc : c ≠ .done)
    (hnext : (s.turn limit c).2 = some d)
    (hspan : total (s.turn limit c).1.events = total events + report.backoff.asWait.nanos)
    (hne : trace ≠ [])
    (hlater : Tracks (now + total events + report.backoff.asWait.nanos) time trace u
      (loop limit horizon d t) (turns limit horizon d t)) :
    Tracks now time (⟨s, report, t, events⟩ :: trace) u (loop limit (horizon + 1) c s)
      (turns limit (horizon + 1) c s) := by
  have hreport : (s.step limit).report = some report := by rw [hstep]
  have hturn : (s.turn limit c).1.report = some report := by rw [turn_of_report hreport]
  rw [loop_succ hc, turns_succ hc, hnext, hstep]
  refine ⟨hlater.finished, hlater.supervisor, ?_, fun p hp => ?_, ?_⟩
  · rw [List.map_cons, List.map_cons, hturn, hlater.reports]
  · rw [timed_append, timed_turn hstep hp, hspan, ← Nat.add_assoc, hlater.timed p hp]
    rfl
  · rw [finish_cons hne, ← hlater.finish, total_append, hspan]
    dsimp only
    omega

/-- A turn that no step follows ends at the time of cancellation, or with its step. -/
theorem tracks_last (hstep : s.step limit = ⟨some report, t, events⟩) (hc : c ≠ .done)
    (hnext : ∀ d ∈ (s.turn limit c).2, d = .done)
    (hspan : now + total (s.turn limit c).1.events = max time (now + total events)) :
    Tracks now time [⟨s, report, t, events⟩] t (loop limit (horizon + 1) c s)
      (turns limit (horizon + 1) c s) := by
  have hreport : (s.step limit).report = some report := by rw [hstep]
  have hturn : (s.turn limit c).1.report = some report := by rw [turn_of_report hreport]
  have hloop : loop limit (horizon + 1) c s = ⟨t, (s.turn limit c).1.events, true⟩ ∧
      turns limit (horizon + 1) c s = [(s.turn limit c).1] := by
    rw [loop_succ hc, turns_succ hc, hstep, hturn]
    cases hd : (s.turn limit c).2 with
    | none => exact ⟨rfl, rfl⟩
    | some d =>
      obtain rfl := hnext d hd
      simp [loop_done, turns_done]
  rw [hloop.1, hloop.2]
  refine ⟨rfl, rfl, ?_, fun p hp => ?_, hspan⟩
  · rw [List.map_singleton, List.map_singleton, hturn]
  · rw [timed_turn hstep hp]
    simp [schedule]

theorem tracks_cons (hstep : s.step limit = ⟨some report, t, events⟩)
    (hT : IsLeast (cancellations Duration.asWait now c (⟨s, report, t, events⟩ :: trace)) time)
    (hlt : now + total events + report.backoff.asWait.nanos < time) (hne : trace ≠ [])
    (hlater : Tracks (now + total events + report.backoff.asWait.nanos) time trace u
      (loop limit horizon (c.after (total events + report.backoff.asWait.nanos)) t)
      (turns limit horizon (c.after (total events + report.backoff.asWait.nanos)) t)) :
    Tracks now time (⟨s, report, t, events⟩ :: trace) u (loop limit (horizon + 1) c s)
      (turns limit (horizon + 1) c s) := by
  have hclock (left) (hleft : left ∈ c.clock?) :
      total events + report.backoff.asWait.nanos < left := by
    have hle : time ≤ now + left := le_clock hT left hleft
    omega
  have hnone : ∀ event ∈ events, event.canceller? = none :=
    canceller?_eq_none hT (Nat.lt_of_le_of_lt (Nat.le_add_right _ _) hlt)
  have hpass : c.pass events = (events, c.after (total events)) := by
    apply Cancellation.pass_of_lt hnone
    intro left hleft
    have hlonger := hclock left hleft
    omega
  have hsleep : (c.after (total events)).sleep report.backoff =
      (if report.backoff.isZero then [] else [.rest report.backoff],
        some (c.after (total events + report.backoff.asWait.nanos))) := by
    rw [Cancellation.after_add]
    apply Cancellation.sleep_of_lt
    intro left hleft
    obtain ⟨whole, hwhole, rfl⟩ := Cancellation.mem_clock?_after.1 hleft
    have hlonger := hclock whole hwhole
    omega
  apply tracks_next hstep (Cancellation.ne_done_of_lt hclock) ?_ ?_ hne hlater
  · rw [turn_snd hstep, hpass, hsleep]
  · rw [total_turn hstep, hpass, hsleep]
    split_ifs with hzero
    · rw [Duration.asWait_of_isZero hzero]
      rfl
    · rfl

section Last
variable (hstep : s.step limit = ⟨some report, t, events⟩)
  (hT : IsLeast (cancellations Duration.asWait now c [⟨s, report, t, events⟩]) time)
  (hbefore : now < time)
include hstep hT hbefore

/-- The step that is in flight at the time of cancellation. -/
theorem tracks_in_flight (hle : time ≤ now + total events) :
    Tracks now time [⟨s, report, t, events⟩] t (loop limit (horizon + 1) c s)
      (turns limit (horizon + 1) c s) := by
  have hc : c ≠ .done := by
    apply @Cancellation.ne_done_of_lt c 0
    intro left hleft
    have hclock := le_clock hT left hleft
    omega
  have hdone : (c.pass events).2 = .done := by
    apply Cancellation.pass_of_le
    obtain ⟨left, hleft, rfl⟩ | ⟨stamp, hstamp, hcancel, -⟩ | ⟨planned, hplanned, -⟩ :=
      mem_cancellations_cons.1 hT.1
    · exact .inr ⟨left, hleft, by omega, by omega⟩
    · exact .inl ⟨stamp.2, mem_iff_exists_stamp.2 ⟨stamp, hstamp, rfl⟩, hcancel⟩
    · exact absurd hplanned List.not_mem_nil
  apply tracks_last hstep hc
  · rw [turn_snd hstep, hdone]
    intro d hd
    rw [Cancellation.sleep] at hd
    dsimp only at hd
    split_ifs at hd
    · exact (Option.some.inj hd).symm
    · exact absurd hd (Option.not_mem_none d)
  · rw [total_turn hstep, hdone, Cancellation.sleep, total_nil, Nat.max_eq_right hle]
    rfl

/-- The step before the sleep that the cancellation cuts short. -/
theorem tracks_asleep (hlt : now + total events < time)
    (hafter : time < now + total events + report.backoff.asWait.nanos) :
    Tracks now time [⟨s, report, t, events⟩] t (loop limit (horizon + 1) c s)
      (turns limit (horizon + 1) c s) := by
  have hnone : ∀ event ∈ events, event.canceller? = none := canceller?_eq_none hT hlt
  obtain ⟨left, hleft, htime⟩ | ⟨stamp, hstamp, -, htime⟩ | ⟨planned, hplanned, -⟩ :=
    mem_cancellations_cons.1 hT.1
  · cases c with
    | never => nomatch hleft
    | done =>
      obtain rfl := Option.some.inj hleft
      omega
    | due whole =>
      obtain rfl := Option.some.inj hleft
      have hpass : (Cancellation.due whole).pass events =
          (events, .due ⟨whole.nanos - total events⟩) := by
        apply Cancellation.pass_of_lt hnone
        intro left hleft
        obtain rfl := Option.some.inj hleft
        omega
      have hsleep : (Cancellation.due ⟨whole.nanos - total events⟩).sleep report.backoff =
          ([.rest ⟨whole.nanos - total events⟩, Cancellation.byClock], none) := by
        apply Cancellation.sleep_of_ge <;> dsimp only <;> omega
      have hspan : total [.rest ⟨whole.nanos - total events⟩, Cancellation.byClock] =
          whole.nanos - total events := by
        have hlongest := Duration.asWait_le report.backoff
        exact congrArg Duration.nanos (Duration.asWait_of_le (by dsimp only; omega))
      have hc : Cancellation.due whole ≠ .done := nofun
      apply tracks_last hstep hc
      · rw [turn_snd hstep, hpass, hsleep]
        exact nofun
      · rw [total_turn hstep, hpass, hsleep, hspan, Nat.max_eq_left (by omega)]
        omega
  · have hbound := (stamped_bounds hstamp).2
    dsimp only at hbound
    omega
  · nomatch hplanned

end Last

/-- A run takes the steps that are scheduled for before it is cancelled. -/
theorem Steps.tracks (h : Steps s trace u) (hne : trace ≠ [])
    (hT : IsLeast (cancellations Duration.asWait now c trace) time)
    (hbefore : ∀ planned ∈ schedule Duration.asWait now trace, planned.1 < time)
    (hafter : time < nextStart Duration.asWait now trace) :
    ∃ least, ∀ limit, least ≤ limit → ∀ horizon, trace.length ≤ horizon →
      Tracks now time trace u (loop limit horizon c s) (turns limit horizon c s) := by
  induction h generalizing now c with
  | nil s => exact absurd rfl hne
  | @cons s t u limit report events trace first later ih =>
    -- The last step is the one in flight, or the one before the sleep that is cut short; the others
    -- end, with their waits, before the cancellation.
    have hended : (s.step limit).report ≠ none := by
      rw [first]
      exact nofun
    have hstart := hbefore _ List.mem_cons_self
    cases later with
    | nil =>
      refine ⟨limit, fun most hmost horizon hhorizon => ?_⟩
      cases horizon with
      | zero => nomatch hhorizon
      | succ horizon =>
        have hstep := (step_of_le hended hmost).trans first
        rcases Nat.lt_or_ge (now + total events) time with hlt | hge
        · exact tracks_asleep hstep hT hstart hlt hafter
        · exact tracks_in_flight hstep hT hstart hge
    | @cons t v u limit' report' events' trace first' later' =>
      have hlt := hbefore _ (List.mem_cons_of_mem _ List.mem_cons_self)
      obtain ⟨least, htracks⟩ := ih (List.cons_ne_nil _ _) (isLeast_after hT hlt)
        (fun planned hplanned => hbefore planned (List.mem_cons_of_mem _ hplanned)) hafter
      refine ⟨max limit least, fun most hmost horizon hhorizon => ?_⟩
      rw [Nat.max_le] at hmost
      cases horizon with
      | zero => nomatch hhorizon
      | succ horizon =>
        have hstep := (step_of_le hended hmost.1).trans first
        have hlater := htracks most hmost.2 horizon (Nat.le_of_succ_le_succ hhorizon)
        exact tracks_cons hstep hT hlt (List.cons_ne_nil _ _) hlater

end Supervisor
end Liveness
