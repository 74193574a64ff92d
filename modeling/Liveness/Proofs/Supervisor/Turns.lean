import Liveness.Proofs.Supervisor.Step
import Liveness.Supervisor.Run

/-! The turns of a run: each is a step, the wait after it, and what is done before the next one.
They are all that happens between the first report of a run and its end. -/
namespace Liveness

/-- A step of a run with its report, if it ended, and what followed it. -/
structure Turn where
  report : Option StepReport
  step : List Event
  wait : List Event
  release : List Event

def Turn.events (t : Turn) : List Event := t.step ++ t.wait ++ t.release

namespace Cancellation

/-- The clock's cancellation changes nothing that happens in a step, except that an event that
takes time may fall into two parts. -/
theorem pass_fst (c : Cancellation) (es : List Event) :
    (c.pass es).1 = es ∨ ∃ before e after left, es = before ++ e :: after ∧
      (c.pass es).1 = before ++ (firstPart left e :: byClock :: lastPart left e ++ after) := by
  induction es generalizing c with
  | nil => cases c <;> exact .inl rfl
  | cons e es ih =>
    have hlater (d : Cancellation) (h : (c.pass (e :: es)).1 = e :: (d.pass es).1) :
        (c.pass (e :: es)).1 = e :: es ∨ ∃ before f after left, e :: es = before ++ f :: after ∧
          (c.pass (e :: es)).1 =
            before ++ (firstPart left f :: byClock :: lastPart left f ++ after) := by
      rw [h]
      obtain heq | ⟨before, f, after, left, hes, heq⟩ := ih d
      · exact .inl (by rw [heq])
      · exact .inr ⟨e :: before, f, after, left, by rw [hes]; rfl, by rw [heq]; rfl⟩
    cases c with
    | done => exact .inl rfl
    | never =>
      cases hcancel : e.canceller?.isSome with
      | true => exact .inl (by simp [pass, hcancel])
      | false => exact hlater .never (by simp [pass, hcancel])
    | due left =>
      cases hcancel : e.canceller?.isSome with
      | true => exact .inl (by simp [pass, hcancel])
      | false =>
        by_cases htime : e.span.nanos = 0 ∨ e.span.nanos < left.nanos
        · exact hlater (.due ⟨left.nanos - e.span.nanos⟩) (by simp [pass, hcancel, htime])
        · exact .inr ⟨[], e, es, left, rfl, by simp [pass, hcancel, htime]⟩

/-- What a sleep takes: nothing, one wait, or the part of it up to the clock's cancellation. -/
theorem sleep_fst (c : Cancellation) (wait : Duration) :
    (c.sleep wait).1 = [] ∨
      wait.isZero = false ∧ ∃ d, (c.sleep wait).1 = [.rest d] ∨ (c.sleep wait).1 = [.rest d, byClock] := by
  cases hz : wait.isZero with
  | true => cases c <;> exact .inl (by simp [sleep, hz])
  | false =>
    cases c with
    | done => exact .inl rfl
    | never => exact .inr ⟨rfl, wait, .inl (by simp [sleep, hz])⟩
    | due left =>
      by_cases htime : wait.asWait.nanos < left.nanos
      · exact .inr ⟨rfl, wait, .inl (by simp [sleep, hz, htime])⟩
      · exact .inr ⟨rfl, left, .inr (by simp [sleep, hz, htime])⟩

end Cancellation

namespace Supervisor
variable {ρ π : Type} [Radio ρ] [Prober π]

/-- The next turn, and how the cancellation stands where another may follow. -/
def turn (limit : Nat) (c : Cancellation) (s : Supervisor ρ π) : Turn × Option Cancellation :=
  let done := s.step limit
  let (events, c) := c.pass done.events
  match done.report with
  | none => (⟨none, events, [], []⟩, none)
  | some report =>
    let (slept, next) := c.sleep report.backoff
    (⟨some report, events, slept, if next.isSome then report.release else []⟩, next)

def turns (limit : Nat) : Nat → Cancellation → Supervisor ρ π → List Turn
  | _, .done, _ => []
  | 0, _, _ => []
  | horizon + 1, c, s =>
    let (t, next) := s.turn limit c
    t :: match next with
      | none => []
      | some c => turns limit horizon c (s.step limit).supervisor

variable {limit horizon : Nat} {c : Cancellation} {s : Supervisor ρ π}

theorem loop_done : loop limit horizon .done s = ⟨s, [], true⟩ := by
  cases horizon <;> rfl

theorem turns_done : turns limit horizon .done s = [] := by
  cases horizon <;> rfl

theorem turn_of_report_eq_none (h : (s.step limit).report = none) :
    s.turn limit c = (⟨none, (c.pass (s.step limit).events).1, [], []⟩, none) := by
  simp [turn, h]

theorem turn_of_report {report : StepReport} (h : (s.step limit).report = some report) :
    let passed := c.pass (s.step limit).events
    let slept := passed.2.sleep report.backoff
    s.turn limit c =
      (⟨some report, passed.1, slept.1, if slept.2.isSome then report.release else []⟩, slept.2) := by
  simp [turn, h]

theorem turns_succ (hc : c ≠ .done) :
    turns limit (horizon + 1) c s = (s.turn limit c).1 :: match (s.turn limit c).2 with
      | none => []
      | some d => turns limit horizon d (s.step limit).supervisor := by
  cases c with
  | done => exact absurd rfl hc
  | never => rfl
  | due left => rfl

theorem loop_succ (hc : c ≠ .done) :
    loop limit (horizon + 1) c s = match (s.turn limit c).2 with
      | none =>
        ⟨(s.step limit).supervisor, (s.turn limit c).1.events, (s.turn limit c).1.report.isSome⟩
      | some d =>
        let rest := loop limit horizon d (s.step limit).supervisor
        { rest with events := (s.turn limit c).1.events ++ rest.events } := by
  rw [loop]
  · cases hreport : (s.step limit).report with
    | none =>
      rw [turn_of_report_eq_none hreport]
      simp [Turn.events]
    | some report =>
      rw [turn_of_report hreport]
      rcases hslept : (c.pass (s.step limit).events).2.sleep report.backoff with ⟨slept, _ | d⟩
      · simp [Turn.events, hslept]
      · simp [Turn.events, hslept]
  · exact hc

/-- Every turn is the next one of some supervisor, and the last one where none may follow. -/
theorem turn_of_turns {earlier later : List Turn} {t : Turn}
    (h : turns limit horizon c s = earlier ++ t :: later) :
    ∃ (d : Cancellation) (r : Supervisor ρ π), t = (r.turn limit d).1 ∧
      (later ≠ [] → (r.turn limit d).2.isSome) := by
  induction horizon generalizing c s earlier with
  | zero => cases c <;> simp [turns] at h
  | succ horizon ih =>
    by_cases hc : c = .done
    · subst c
      simp [turns] at h
    rw [turns_succ hc] at h
    cases earlier with
    | nil =>
      obtain ⟨rfl, hlater⟩ := List.cons.inj h
      refine ⟨c, s, rfl, fun hne => ?_⟩
      cases hnext : (s.turn limit c).2 with
      | none =>
        rw [hnext] at hlater
        exact absurd hlater.symm hne
      | some d => rfl
    | cons first earlier =>
      obtain ⟨-, hlater⟩ := List.cons.inj h
      cases hnext : (s.turn limit c).2 with
      | none =>
        rw [hnext] at hlater
        simp at hlater
      | some d =>
        rw [hnext] at hlater
        exact ih hlater

theorem loop_events :
    (loop limit horizon c s).events = (turns limit horizon c s).flatMap Turn.events := by
  induction horizon generalizing c s with
  | zero => cases c <;> rfl
  | succ horizon ih =>
    by_cases hc : c = .done
    · subst c
      rfl
    rw [loop_succ hc, turns_succ hc]
    split
    · simp
    · simp [ih]

theorem turn_of_le {most : Nat} (hended : (s.step limit).report ≠ none) (hle : limit ≤ most) :
    s.turn most c = s.turn limit c := by
  unfold turn
  rw [step_of_le hended hle]

/-- The limit and the horizon only cut a run short: greater ones change nothing about a finished
run. -/
theorem loop_of_le {most far : Nat} (hfinished : (loop limit horizon c s).finished = true)
    (hlimit : limit ≤ most) (hhorizon : horizon ≤ far) :
    loop most far c s = loop limit horizon c s := by
  induction horizon generalizing c s far with
  | zero =>
    by_cases hc : c = .done
    · subst hc
      cases far <;> rfl
    · cases c with
      | done => exact absurd rfl hc
      | never => nomatch hfinished
      | due left => nomatch hfinished
  | succ horizon ih =>
    obtain ⟨far, rfl⟩ := Nat.exists_eq_succ_of_ne_zero (Nat.ne_of_gt (Nat.zero_lt_of_lt hhorizon))
    by_cases hc : c = .done
    · subst hc
      rfl
    rw [loop_succ hc] at hfinished
    have hended : (s.step limit).report ≠ none := by
      intro hnone
      rw [turn_of_report_eq_none hnone] at hfinished
      nomatch hfinished
    rw [loop_succ hc, loop_succ hc, turn_of_le hended hlimit, step_of_le hended hlimit]
    cases hnext : (s.turn limit c).2 with
    | none => rfl
    | some d =>
      rw [hnext] at hfinished
      dsimp only
      rw [ih hfinished (Nat.le_of_succ_le_succ hhorizon)]

theorem run_of_le {most far : Nat} {deadline : Option Duration}
    (hfinished : (s.run limit horizon deadline).finished = true) (hlimit : limit ≤ most)
    (hhorizon : horizon ≤ far) : s.run most far deadline = s.run limit horizon deadline := by
  unfold run at hfinished ⊢
  rw [loop_of_le hfinished hlimit hhorizon]

end Supervisor
end Liveness
