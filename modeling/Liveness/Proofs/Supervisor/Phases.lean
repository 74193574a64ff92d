import Liveness.Proofs.Supervisor.Step
import Mathlib.Data.List.Chain

/-! Phases, waits and calls over the steps of a supervisor. Association ends once, and what follows
is probes and nothing else. -/
namespace Liveness

namespace Event

def isActivation : Event → Bool
  | .activate _ => true
  | _ => false

def isProbe : Event → Bool
  | .probe => true
  | _ => false

def isPhaseChange : Event → Bool
  | .report (.phaseChange _ _) => true
  | _ => false

end Event

/-- A step that has ended, between the supervisors before and after it. -/
structure Ended (ρ π : Type) where
  before : Supervisor ρ π
  report : StepReport
  after : Supervisor ρ π
  events : List Event

namespace Supervisor
variable {ρ π : Type} [Radio ρ] [Prober π]

/-- Steps taken one after another. Each of them has ended, after as many polls as it took. -/
inductive Steps : Supervisor ρ π → List (Ended ρ π) → Supervisor ρ π → Prop
  | nil (s : Supervisor ρ π) : Steps s [] s
  | cons {s t u : Supervisor ρ π} {limit : Nat} {report : StepReport} {events : List Event}
      {trace : List (Ended ρ π)} (first : s.step limit = ⟨some report, t, events⟩)
      (later : Steps t trace u) : Steps s (⟨s, report, t, events⟩ :: trace) u

end Supervisor

section Laws
variable {ρ π : Type} [Radio ρ] [Prober π]

end Laws

namespace Supervisor
open Event
variable {ρ π : Type} {limit : Nat} {s t u : Supervisor ρ π} {report : StepReport}
  {events : List Event} {trace : List (Ended ρ π)}

theorem failureNotice_isPhaseChange (phase : Phase) (kind : FailureKind) (streak : Nat)
    (error : String) : isPhaseChange (.report (failureNotice phase kind streak error)) = false := by
  unfold failureNotice
  split_ifs <;> rfl

variable [Radio ρ]

/-- An attempt activates the radio once, and no probe or change of phase is part of it. -/
theorem attempt_counts (limit : Nat) (s : Supervisor ρ π) :
    (s.attempt limit).events.countP isActivation = 1 ∧
      (s.attempt limit).events.countP isProbe = 0 ∧
      (s.attempt limit).events.countP isPhaseChange = 0 := by
  refine ⟨(countP_attempt _ ?_ limit s).trans rfl, (countP_attempt _ ?_ limit s).trans rfl,
    (countP_attempt _ ?_ limit s).trans rfl⟩
  · intro e he
    cases e <;> first | rfl | nomatch he
  · intro e he
    cases e <;> first | rfl | nomatch he
  · intro e he
    cases e with
    | report notice => cases notice <;> first | rfl | nomatch he
    | _ => rfl

variable [Prober π]

theorem StepEnds.counts (h : StepEnds limit s report t events) :
    events.countP isActivation = (if report.phase = .needAssociation then 1 else 0) ∧
      events.countP isProbe = (if report.phase = .needProbe then 1 else 0) ∧
      events.countP isPhaseChange = (if report.next = report.phase then 0 else 1) := by
  obtain ⟨hactivation, hprobe, hchange⟩ := attempt_counts limit s
  have hnotice := failureNotice_isPhaseChange
  have hquiet {σ α : Type} (answer : Answer σ α) : answer.events.countP isActivation = 0 ∧
      answer.events.countP isProbe = 0 ∧ answer.events.countP isPhaseChange = 0 :=
    ⟨countP_events _ answer fun _ => rfl, countP_events _ answer fun _ => rfl,
      countP_events _ answer fun _ => rfl⟩
  cases h with
  | associated phase outcome asked =>
    simp only [List.countP_append, List.countP_cons, List.countP_nil, hactivation, hprobe, hchange,
      hquiet]
    exact ⟨rfl, rfl, rfl⟩
  | rejected phase outcome =>
    simp only [List.countP_append, List.countP_cons, List.countP_nil, hactivation, hprobe, hchange,
      hnotice]
    exact ⟨rfl, rfl, rfl⟩
  | activationFailed phase outcome =>
    simp only [List.countP_append, List.countP_cons, List.countP_nil, hactivation, hprobe, hchange,
      hnotice]
    exact ⟨rfl, rfl, rfl⟩
  | succeeded phase asked value =>
    unfold reachableNotices
    split <;> simp only [List.countP_append, List.countP_cons, List.countP_nil, hquiet] <;>
      exact ⟨rfl, rfl, rfl⟩
  | failed phase asked value =>
    simp only [List.countP_append, List.countP_cons, List.countP_nil, hquiet, hnotice]
    exact ⟨rfl, rfl, rfl⟩

namespace Steps

end Steps

end Supervisor
end Liveness
